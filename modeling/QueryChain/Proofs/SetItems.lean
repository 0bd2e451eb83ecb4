/-
# The items of an update

An update has one item for each assignment: the quoted column and its value.  A value is written in
an assignment as it is anywhere else, so a list of several values is written as several placeholders
there as well.  Only a value that comes down to one term is a single placeholder or `NULL`.
-/
import QueryChain.Proofs.SharedConditions
import Mathlib.Data.List.ReduceOption

namespace QueryChain

/-! ## Terms of a value -/

mutual

/-- What is written for a value, term by term: bound values, and nothing where `NULL` is written. -/
def Value.terms : Value → List (Option Value)
  | .null => [none]
  | .list items => if items.isEmpty then [none] else Value.termsOfAll items
  | v => [some v]

/-- The terms of a list, element by element. -/
def Value.termsOfAll : List Value → List (Option Value)
  | [] => []
  | v :: rest => v.terms ++ Value.termsOfAll rest

end

/-- The terms of a list that is not empty are those of its elements. -/
theorem Value.terms_list_cons (item : Value) (items : List Value) :
    (Value.list (item :: items)).terms = item.terms ++ Value.termsOfAll items := by
  rw [terms, if_neg (by simp), termsOfAll]

/-- The terms of several values are those of each of them. -/
theorem Value.termsOfAll_eq_flatMap (items : List Value) :
    Value.termsOfAll items = items.flatMap Value.terms := by
  induction items with
  | nil => rfl
  | cons v rest ih => rw [termsOfAll, ih, List.flatMap_cons]

/-- A value that is no list is one term. -/
theorem Value.length_terms_of_not_isList {v : Value} (h : v.isList = false) :
    v.terms.length = 1 := by
  cases v with
  | list items => cases h
  | _ => rfl

/-- Something is written for every value. -/
theorem Value.terms_ne_nil : ∀ v : Value, v.terms ≠ []
  | .list (item :: items) => by
    rw [terms_list_cons]
    exact List.append_ne_nil_of_left_ne_nil item.terms_ne_nil _
  | .list [] | .null => List.cons_ne_nil _ _
  | .bool _ | .int _ | .uint _ | .float _ | .text _ | .bytes _ | .numeric _ | .uuid _
  | .timestamp _ | .naiveTimestamp _ | .date _ | .time _ | .offsetDateTime _
  | .primitiveDateTime _ | .timeDate _ | .timeOfDay _ | .decimal _ => List.cons_ne_nil _ _

mutual

/-- The bound ones among the terms of a value are its leaves. -/
theorem Value.reduceOption_terms : ∀ v : Value, v.terms.reduceOption = v.leaves
  | .null | .list [] => rfl
  | .list (item :: items) => by
    rw [terms, if_neg (by simp), reduceOption_termsOfAll, leaves]
  | .bool _ | .int _ | .uint _ | .float _ | .text _ | .bytes _ | .numeric _ | .uuid _
  | .timestamp _ | .naiveTimestamp _ | .date _ | .time _ | .offsetDateTime _
  | .primitiveDateTime _ | .timeDate _ | .timeOfDay _ | .decimal _ => rfl

/-- Likewise for the elements of a list. -/
theorem Value.reduceOption_termsOfAll :
    ∀ items : List Value, (Value.termsOfAll items).reduceOption = Value.leavesOfAll items
  | [] => rfl
  | v :: rest => by
    rw [termsOfAll, List.reduceOption_append, reduceOption_terms v, reduceOption_termsOfAll rest,
      leavesOfAll]

end

/-- What stands for one term: `NULL`, or the placeholder of a bound value. -/
inductive IsTermText (dialect : Dialect) : String → Prop
  | null : IsTermText dialect "NULL"
  | placeholder (p : Nat × Value) : IsTermText dialect (numberedPlaceholder dialect p)

/-- The texts of terms behind `taken` binds. -/
def termTexts (dialect : Dialect) : Nat → List (Option Value) → List String
  | _, [] => []
  | taken, none :: rest => "NULL" :: termTexts dialect taken rest
  | taken, some v :: rest =>
      numberedPlaceholder dialect (taken + 1, v) :: termTexts dialect (taken + 1) rest

section

variable (dialect : Dialect) (taken : Nat)

/-- Every term is written. -/
theorem length_termTexts (terms : List (Option Value)) :
    (termTexts dialect taken terms).length = terms.length := by
  induction terms generalizing taken with
  | nil => rfl
  | cons term rest ih =>
    cases term with
    | none => exact congrArg (· + 1) (ih taken)
    | some v => exact congrArg (· + 1) (ih (taken + 1))

/-- Where there are terms, something is written. -/
theorem termTexts_ne_nil {dialect : Dialect} {taken : Nat} {terms : List (Option Value)}
    (h : terms ≠ []) : termTexts dialect taken terms ≠ [] := by
  rwa [← List.length_pos_iff, length_termTexts, List.length_pos_iff]

/-- Terms that stand further right count on from the bound ones before. -/
theorem termTexts_append (terms terms' : List (Option Value)) :
    termTexts dialect taken (terms ++ terms')
      = termTexts dialect taken terms
        ++ termTexts dialect (taken + terms.reduceOption.length) terms' := by
  induction terms generalizing taken with
  | nil => rfl
  | cons term rest ih =>
    cases term with
    | none => exact congrArg _ (ih taken)
    | some v =>
      rw [List.cons_append, termTexts, ih, termTexts, List.cons_append,
        List.reduceOption_cons_of_some, List.length_cons, Nat.add_assoc taken 1, Nat.add_comm 1]

/-- All that is written for terms is `NULL` or a placeholder. -/
theorem isTermText_of_mem_termTexts {terms : List (Option Value)} {text : String}
    (h : text ∈ termTexts dialect taken terms) : IsTermText dialect text := by
  induction terms generalizing taken with
  | nil => cases h
  | cons term rest ih =>
    cases term with
    | none =>
      rcases List.mem_cons.mp h with rfl | h
      · exact .null
      · exact ih taken h
    | some v =>
      rcases List.mem_cons.mp h with rfl | h
      · exact .placeholder _
      · exact ih (taken + 1) h

end

/-- A term has no comma. -/
theorem IsTermText.comma_not_mem {dialect : Dialect} {text : String}
    (h : IsTermText dialect text) : ',' ∉ text.toList := by
  cases h with
  | null => decide
  | placeholder p =>
    have hdigits : ',' ∉ (toString p.1).toList := fun hcomma =>
      absurd (isDigit_of_mem_toString hcomma) (by decide)
    have hcasts : ∀ cast ∈ ["", "::numeric"], ',' ∉ cast.toList := by decide
    rcases numberedPlaceholder_cases dialect p with hmark | ⟨cast, hcast, hnumber⟩
    · rw [hmark]
      decide
    · rw [hnumber, String.toList_append, String.toList_append, List.mem_append, List.mem_append,
        not_or, not_or]
      exact ⟨⟨by decide, hdigits⟩, hcasts cast hcast⟩

/-- Terms with commas between them are a term only if there is just one. -/
theorem isTermText_intercalate_iff {dialect : Dialect} {texts : List String}
    (hterms : ∀ text ∈ texts, IsTermText dialect text) (hsome : texts ≠ []) :
    IsTermText dialect (", ".intercalate texts) ↔ texts.length = 1 := by
  match texts, hsome with
  | [text], _ =>
    rw [String.intercalate_singleton]
    exact iff_of_true (hterms text List.mem_cons_self) rfl
  | first :: second :: more, _ =>
    refine iff_of_false (fun hterm => hterm.comma_not_mem ?_) (by simp)
    rw [String.intercalate_cons_cons, String.toList_append, String.toList_append]
    exact List.mem_append_left _ (List.mem_append_right _ (by decide))

/-! ## Values and assignments as they are written -/

/-- A value as it is written behind `taken` binds. -/
def Value.written (dialect : Dialect) (taken : Nat) (v : Value) : String :=
  ", ".intercalate (termTexts dialect taken v.terms)

mutual

/-- The layout of a value is written as its terms. -/
theorem Value.sql_layout (dialect : Dialect) :
    ∀ (taken : Nat) (v : Value), v.layout.sql dialect taken = v.written dialect taken
  | _, .null | _, .list [] => by
    rw [written, terms]
    rfl
  | taken, .list (item :: items) => by
    rw [layout, if_neg (by simp), Layout.sql_intercalate, written, terms, if_neg (by simp)]
    exact intercalate_sqls_layouts dialect taken (item :: items)
  | _, .bool _ | _, .int _ | _, .uint _ | _, .float _ | _, .text _ | _, .bytes _ | _, .numeric _
  | _, .uuid _ | _, .timestamp _ | _, .naiveTimestamp _ | _, .date _ | _, .time _
  | _, .offsetDateTime _ | _, .primitiveDateTime _ | _, .timeDate _ | _, .timeOfDay _
  | _, .decimal _ => by
    rw [written, terms, termTexts, termTexts, String.intercalate_singleton, layout,
      Layout.sql_slot_cons, Layout.sql_nil, String.append_empty]
    all_goals nofun

/-- Likewise for the elements of a list. -/
theorem Value.intercalate_sqls_layouts (dialect : Dialect) :
    ∀ (taken : Nat) (items : List Value),
      ", ".intercalate (Layout.sqls dialect taken (Value.layouts items))
        = ", ".intercalate (termTexts dialect taken (Value.termsOfAll items))
  | _, [] => rfl
  | taken, [v] => by
    rw [layouts, layouts, Layout.sqls, Layout.sqls, String.intercalate_singleton,
      sql_layout dialect taken v, termsOfAll, termsOfAll, List.append_nil, written]
  | taken, v :: next :: rest => by
    have hlayouts : Layout.sqls dialect (taken + v.layout.slots.length)
        (Value.layouts (next :: rest)) ≠ [] := nofun
    have hterms : Value.termsOfAll (v :: next :: rest)
        = v.terms ++ Value.termsOfAll (next :: rest) := by rw [termsOfAll]
    have hfurther : Value.termsOfAll (next :: rest) ≠ [] := by
      rw [termsOfAll]
      exact List.append_ne_nil_of_left_ne_nil next.terms_ne_nil _
    rw [layouts, Layout.sqls, String.intercalate_cons_of_ne_nil hlayouts,
      sql_layout dialect taken v, intercalate_sqls_layouts dialect _ (next :: rest), hterms,
      termTexts_append, String.intercalate_append_of_ne_nil (termTexts_ne_nil v.terms_ne_nil)
        (termTexts_ne_nil hfurther), reduceOption_terms, slots_layout, written]

end

/-- The items of an update. -/
def updateItems (dialect : Dialect) (assignments : List (String × Value)) : List String :=
  Layout.sqls dialect 0 (assignments.map (assignmentLayout dialect))

section

variable (dialect : Dialect)

/-- Assignments are written as items with commas between them. -/
theorem assignmentsText_eq_intercalate (assignments : List (String × Value)) :
    assignmentsText dialect assignments = ", ".intercalate (updateItems dialect assignments) := by
  rw [assignmentsText, assignmentsLayout, Layout.sql_intercalate, updateItems]

/-- There is one item for each assignment. -/
theorem length_updateItems (assignments : List (String × Value)) :
    (updateItems dialect assignments).length = assignments.length := by
  rw [updateItems, Layout.length_sqls, List.length_map]

/-- The item of an assignment is the quoted column and the value, counted on from the values that are
assigned before. -/
theorem getElem?_updateItems (before after : List (String × Value)) (column : String) (v : Value) :
    (updateItems dialect (before ++ (column, v) :: after))[before.length]?
      = some (dialect.quoteIdent column ++ " = "
          ++ v.written dialect (before.flatMap (·.2.leaves)).length) := by
  have hslots : (before.map (assignmentLayout dialect)).flatMap Layout.slots
      = before.flatMap (·.2.leaves) := by
    rw [← slots_assignmentsLayout dialect before, assignmentsLayout, Layout.slots_intercalate]
  have hbefore : (Layout.sqls dialect 0 (before.map (assignmentLayout dialect))).length
      = before.length := by
    rw [Layout.length_sqls, List.length_map]
  rw [updateItems, List.map_append, Layout.sqls_append, hslots,
    List.getElem?_append_right (Nat.le_of_eq hbefore), hbefore, Nat.sub_self, List.map_cons,
    Layout.sqls, List.getElem?_cons_zero, assignmentLayout, Layout.sql_text_cons, v.sql_layout,
    Nat.zero_add]

end

/-! ## Main statement -/

/-- **The items of an update.** An update that succeeds has one item for each assignment, with commas
between them, in their order: the quoted column and what is written for the value.  That is one text,
`NULL` or a placeholder, for each term of the value, with commas between these as well.  So it is a
single placeholder or `NULL` for every value that is no list, and for a list exactly if its elements
come down to one term. -/
theorem update_items_of_assignments (dialect : Dialect) (s : Scope)
    (assignments : List (String × Value)) (st : Statement)
    (h : Statement.update dialect s assignments = .ok st) :
    ∃ items : List String,
      st.sql = "UPDATE " ++ dialect.quoteIdent s.table ++ " SET " ++ ", ".intercalate items
        ++ conditionsText dialect s.conditions (assignments.flatMap (·.2.leaves)).length ∧
      items.length = assignments.length ∧
      ∀ before column v after, assignments = before ++ (column, v) :: after →
        let terms := termTexts dialect (before.flatMap (·.2.leaves)).length v.terms
        let written := ", ".intercalate terms
        items[before.length]? = some (dialect.quoteIdent column ++ " = " ++ written) ∧
        (∀ text ∈ terms, IsTermText dialect text) ∧ terms.length = v.terms.length ∧
        (IsTermText dialect written ↔ v.terms.length = 1) ∧
        (v.isList = false → IsTermText dialect written) ∧
        ∀ elements, v = .list elements →
          v.terms = if elements.isEmpty then [none] else elements.flatMap Value.terms := by
  refine ⟨updateItems dialect assignments, ?_, length_updateItems dialect assignments, ?_⟩
  · cases assignments with
    | nil => cases h
    | cons first rest =>
      rw [update_eq_map] at h
      cases hcheck : checkClauses dialect s.conditions with
      | error error =>
        rw [hcheck] at h
        cases h
      | ok _ =>
        rw [hcheck] at h
        obtain rfl := Except.ok.inj h
        rw [← assignmentsText_eq_intercalate]
  · rintro before column v after rfl terms written
    have hterms : ∀ text ∈ terms, IsTermText dialect text := fun text =>
      isTermText_of_mem_termTexts dialect _
    have hsingle : IsTermText dialect written ↔ v.terms.length = 1 := by
      rw [isTermText_intercalate_iff hterms (termTexts_ne_nil v.terms_ne_nil), length_termTexts]
    refine ⟨getElem?_updateItems dialect before after column v, hterms,
      length_termTexts dialect _ _, hsingle,
      fun hlist => hsingle.mpr (Value.length_terms_of_not_isList hlist), ?_⟩
    rintro elements rfl
    rw [Value.terms, Value.termsOfAll_eq_flatMap]

/-- Assignments of a text, of a list in which a value is absent and another one is in a list of its
own, and of a list without values. -/
def nestedAssignments : List (String × Value) :=
  [("title", .text "new"), ("tags", .list [.int 1, .null, .list [.int 2]]), ("notes", .list [])]

/-- The list is written as three terms behind one column, and the values around it as one each. -/
theorem nestedAssignments_items :
    let sql := "UPDATE \x22app\x22.\x22posts\x22 SET \x22title\x22 = $1, "
      ++ "\x22tags\x22 = $2, NULL, $3, \x22notes\x22 = NULL"
    Statement.update .postgres (Scope.ofTable "app.posts") nestedAssignments
        = .ok ⟨sql, [.text "new", .int 1, .int 2]⟩ ∧
      ∃ items : List String, items.length = 3 ∧
        sql = "UPDATE " ++ Dialect.postgres.quoteIdent "app.posts" ++ " SET "
          ++ ", ".intercalate items ∧
        items[1]? = some "\x22tags\x22 = $2, NULL, $3" ∧
        ¬ IsTermText .postgres "$2, NULL, $3" ∧ IsTermText .postgres "NULL" := by
  intro sql
  have hupdate : Statement.update .postgres (Scope.ofTable "app.posts") nestedAssignments
      = .ok ⟨sql, [.text "new", .int 1, .int 2]⟩ := by rfl
  obtain ⟨items, hsql, hlength, hitem⟩ := update_items_of_assignments _ _ _ _ hupdate
  have hconditions : conditionsText .postgres (Scope.ofTable "app.posts").conditions
      (nestedAssignments.flatMap (·.2.leaves)).length = "" := by rfl
  rw [hconditions, String.append_empty] at hsql
  obtain ⟨htags, -, -, hlist, -, -⟩ := hitem [("title", .text "new")] "tags" _ _ rfl
  obtain ⟨-, -, -, hempty, -, -⟩ := hitem (nestedAssignments.take 2) "notes" (.list []) [] rfl
  exact ⟨hupdate, items, hlength, hsql, htags, fun hterm => absurd (hlist.mp hterm) (by decide),
    hempty.mpr rfl⟩

/-- A list of two values is two placeholders, so that what stands behind the column is no single
placeholder and not `NULL`. -/
theorem listAssignment_two_placeholders :
    Statement.update .postgres (Scope.ofTable "posts") [("tags", .list [.int 1, .int 2])]
        = .ok ⟨"UPDATE \x22posts\x22 SET \x22tags\x22 = $1, $2", [.int 1, .int 2]⟩ ∧
      ¬ ∃ written, IsTermText .postgres written ∧
        "UPDATE \x22posts\x22 SET \x22tags\x22 = $1, $2"
          = "UPDATE " ++ Dialect.postgres.quoteIdent "posts" ++ " SET "
            ++ (Dialect.postgres.quoteIdent "tags" ++ " = " ++ written) := by
  refine ⟨by rfl, ?_⟩
  rintro ⟨written, hterm, hsql⟩
  have hstart : "UPDATE \x22posts\x22 SET \x22tags\x22 = $1, $2"
      = "UPDATE " ++ Dialect.postgres.quoteIdent "posts" ++ " SET "
        ++ (Dialect.postgres.quoteIdent "tags" ++ " = " ++ "$1, $2") := by decide
  rw [hstart, String.append_right_inj, String.append_right_inj] at hsql
  rw [← hsql] at hterm
  exact hterm.comma_not_mem (by decide)

end QueryChain
