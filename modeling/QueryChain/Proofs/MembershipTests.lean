/-
# Tests of membership

A test whether a column is among given values hands them over as one list.  Wherever the test stands
in a statement, the list is written as one placeholder for each value, with consecutive numbers, and
the values are bound in the order in which they were given.  There is always a first value, so the
list is never empty and never written as `NULL`.
-/
import QueryChain.Proofs.ClauseContext
import QueryChain.Proofs.GeneratedFilters
import QueryChain.Proofs.QuotedNames
import Mathlib.Data.List.Basic

namespace QueryChain

/-! ## Lists of placeholders -/

/-- The placeholders of values behind `taken` binds. -/
def placeholders (dialect : Dialect) (taken : Nat) (values : List Value) : List String :=
  values.mapIdx fun i v => numberedPlaceholder dialect (taken + i + 1, v)

/-- There are as many placeholders as values. -/
theorem length_placeholders (dialect : Dialect) (taken : Nat) (values : List Value) :
    (placeholders dialect taken values).length = values.length :=
  List.length_mapIdx

/-- Behind the first placeholder, the others count on. -/
theorem placeholders_cons (dialect : Dialect) (taken : Nat) (v : Value) (values : List Value) :
    placeholders dialect taken (v :: values)
      = numberedPlaceholder dialect (taken + 1, v) :: placeholders dialect (taken + 1) values := by
  rw [placeholders, List.mapIdx_cons, placeholders, Nat.add_zero]
  congr 2
  funext i w
  rw [Nat.add_assoc taken 1 i, Nat.add_comm 1 i]

/-- Slots with commas between them are written as the placeholders of their values. -/
theorem Layout.sql_intercalate_slots (dialect : Dialect) (taken : Nat) (values : List Value) :
    sql dialect taken ([.text ", "].intercalate (values.map fun v => [.slot v]))
      = ", ".intercalate (placeholders dialect taken values) := by
  have htexts : sqls dialect taken (values.map fun v => [.slot v])
      = placeholders dialect taken values := by
    induction values generalizing taken with
    | nil => rfl
    | cons v rest ih =>
      rw [List.map_cons, sqls, placeholders_cons, sql_slot_cons, sql_nil, String.append_empty]
      exact congrArg _ (ih (taken + 1))
  rw [sql_intercalate, htexts]

/-- A placeholder starts with a mark of its own. -/
theorem head?_numberedPlaceholder (dialect : Dialect) (p : Nat × Value) :
    (numberedPlaceholder dialect p).toList.head? ∈ [some '$', some '?'] := by
  rcases numberedPlaceholder_cases dialect p with hmark | ⟨cast, -, hnumber⟩
  · rw [hmark]
    decide
  · rw [hnumber, String.append_assoc, String.toList_append, List.head?_append]
    exact List.mem_cons_self

/-- Nothing that starts with a placeholder is written like an absent value. -/
theorem numberedPlaceholder_append_ne_null (dialect : Dialect) (p : Nat × Value) (text : String) :
    numberedPlaceholder dialect p ++ text ≠ "NULL" := by
  intro heq
  have hmark := head?_numberedPlaceholder dialect p
  have hfirst := congrArg (fun written : String => written.toList.head?) heq
  rw [String.toList_append, List.head?_append] at hfirst
  cases hstart : (numberedPlaceholder dialect p).toList.head? with
  | none =>
    rw [hstart] at hmark
    simp at hmark
  | some c =>
    rw [hstart] at hmark hfirst
    have hn : c = 'N' := Option.some.inj hfirst
    rw [hn] at hmark
    simp at hmark

/-- A list of placeholders starts with that of the first value. -/
theorem exists_intercalate_placeholders_cons (dialect : Dialect) (taken : Nat) (v : Value)
    (values : List Value) :
    ∃ text, ", ".intercalate (placeholders dialect taken (v :: values))
      = numberedPlaceholder dialect (taken + 1, v) ++ text := by
  rw [placeholders_cons]
  cases placeholders dialect (taken + 1) values with
  | nil => exact ⟨"", by rw [String.intercalate_singleton, String.append_empty]⟩
  | cons next others => exact ⟨_, by rw [String.intercalate_cons_cons, String.append_assoc]⟩

/-! ## Values that are one bind each -/

namespace Value

/-- A value that is there and no list is one slot. -/
theorem layout_of_single {v : Value} (hnull : v.isNull = false) (hlist : v.isList = false) :
    v.layout = [.slot v] := by
  cases v with
  | null => cases hnull
  | list items => cases hlist
  | _ => rfl

variable {values : List Value} (hsingle : ∀ v ∈ values, v.isNull = false ∧ v.isList = false)

include hsingle

/-- A list of such values is a slot for each of them. -/
theorem layout_list_of_single (hsome : values ≠ []) :
    (list values).layout = [.text ", "].intercalate (values.map fun v => [.slot v]) := by
  have hempty : values.isEmpty = false := by simpa using hsome
  have hslots : values.map layout = values.map fun v => [.slot v] :=
    List.map_congr_left fun v hv => layout_of_single (hsingle v hv).1 (hsingle v hv).2
  rw [layout, hempty, layouts_eq_map, hslots]
  rfl

/-- So it binds all of them, in their order. -/
theorem leavesOfAll_of_single : leavesOfAll values = values := by
  induction values with
  | nil => rfl
  | cons v rest ih =>
    rw [List.forall_mem_cons] at hsingle
    have hv : v.leaves = [v] := by
      rw [← slots_layout, layout_of_single hsingle.1.1 hsingle.1.2]
      rfl
    rw [leavesOfAll, hv, ih hsingle.2]
    rfl

end Value

/-! ## The clause of a test -/

/-- What stands between the column and the values of a test. -/
def Membership.keyword : Membership → String
  | among => "IN"
  | outside => "NOT IN"

/-- A test of membership, as it is written behind `taken` binds. -/
def membershipText (dialect : Dialect) (m : Membership) (column : String) (taken : Nat)
    (values : List Value) : String :=
  dialect.quoteIdent column ++ " " ++ m.keyword ++ " ("
    ++ ", ".intercalate (placeholders dialect taken values) ++ ")"

/-- The clause that a test of membership adds. -/
def membershipClause (column : String) (m : Membership) (values : List Value) : Clause :=
  ⟨.column column m.test, [.list values]⟩

/-- A test with values is not the one that is written for an empty list. -/
theorem membershipText_ne_null (dialect : Dialect) (m : Membership) (column : String) (taken : Nat)
    {values : List Value} (hsome : values ≠ []) :
    membershipText dialect m column taken values
      ≠ dialect.quoteIdent column ++ " " ++ m.keyword ++ " (NULL)" := by
  have hnull : dialect.quoteIdent column ++ " " ++ m.keyword ++ " (NULL)"
      = dialect.quoteIdent column ++ " " ++ m.keyword ++ " (" ++ "NULL" ++ ")" := by
    simp only [String.append_assoc]
    rfl
  intro heq
  rw [membershipText, hnull, String.append_left_inj, String.append_right_inj] at heq
  obtain ⟨v, rest, rfl⟩ := List.exists_cons_of_ne_nil hsome
  obtain ⟨text, htext⟩ := exists_intercalate_placeholders_cons dialect taken v rest
  exact numberedPlaceholder_append_ne_null dialect _ text (htext.symm.trans heq)

section

variable {dialect : Dialect} {column : String} {values : List Value} (m : Membership)

/-- A test is its keyword with a mark for the values in parentheses. -/
theorem Membership.test_eq_keyword : m.test = m.keyword ++ " (?)" := by
  cases m <;> decide

/-- In the clause of a test, the list stands in parentheses behind the quoted column. -/
theorem layout_membershipClause (hcolumn : '?' ∉ column.toList) :
    (membershipClause column m values).layout dialect
      = .text (dialect.quoteIdent column ++ " " ++ m.keyword ++ " (") ::
          (Value.list values).layout ++ [.text ")"] := by
  let opening := dialect.quoteIdent column ++ " " ++ m.keyword ++ " ("
  have hsql : ((membershipClause column m values).sql dialect).toList
      = opening.toList ++ '?' :: [')'] := by
    have hmark : " (?)".toList = " (".toList ++ '?' :: [')'] := by decide
    rw [membershipClause, Clause.sql, Condition.sql, m.test_eq_keyword, ← String.append_assoc,
      String.toList_append, hmark, ← List.append_assoc, ← String.toList_append]
  have hopening : ∀ c ∈ opening.toList, (c == '?') = false := by
    have hquoted := dialect.not_mem_quoteIdent hcolumn
    have hwords : '?' ∉ (" " ++ m.keyword ++ " (").toList := by cases m <;> decide
    intro c hc
    rw [beq_eq_false_iff_ne]
    rintro rfl
    simp only [opening, String.append_assoc, String.toList_append, List.mem_append] at hc hwords
    rcases hc with hc | hc
    · exact hquoted hc
    · exact hwords hc
  have hsplit : splitAtMarks (· == '?') ((membershipClause column m values).sql dialect).toList
      = [opening.toList, [')']] := by
    rw [hsql, splitAtMarks_eq_splitOnP,
      List.splitOnP_append_cons_of_forall_mem hopening '?' (by decide)]
    rfl
  rw [Clause.layout, hsplit]
  show .text (String.ofList opening.toList) :: (Value.list values).layout
    ++ [.text (String.ofList [')'])] = _
  rw [String.ofList_toList]

variable (hsingle : ∀ v ∈ values, v.isNull = false ∧ v.isList = false)

include hsingle

/-- The clause of a test is written with a placeholder for each value. -/
theorem sql_membershipClause (hcolumn : '?' ∉ column.toList) (hsome : values ≠ [])
    (taken : Nat) :
    ((membershipClause column m values).layout dialect).sql dialect taken
      = membershipText dialect m column taken values := by
  rw [layout_membershipClause m hcolumn, Value.layout_list_of_single hsingle hsome,
    List.cons_append, Layout.sql_text_cons, Layout.sql_append, Layout.sql_intercalate_slots,
    Layout.sql_text_cons, Layout.sql_nil, String.append_empty, ← String.append_assoc]
  rfl

/-- The clause of a test binds its values in their order. -/
theorem leaves_membershipClause : (membershipClause column m values).leaves = values := by
  show (Value.list values).leaves ++ [] = values
  rw [List.append_nil, Value.leaves, Value.leavesOfAll_of_single hsingle]

end

/-- With a mark for its list and none in its column, the clause of a test can be written. -/
theorem check_membershipClause {column : String} (hcolumn : '?' ∉ column.toList) (m : Membership)
    (values : List Value) (dialect : Dialect) :
    (membershipClause column m values).check dialect = .ok () := by
  have htest : m.test.toList.count '?' = [Value.list values].length := by cases m <;> rfl
  rw [membershipClause, check_column htest, if_neg hcolumn]

/-! ## A test in a chain -/

/-- The conditions of a chain with a test of membership in it. -/
theorem conditions_refine_membership (s : Scope) (f : ModelField) (m : Membership) (first : Value)
    (rest : List Value) (more : List Refinement) :
    ((s.refine ((FieldCall.membership m first rest).refinement f)).refineAll more).conditions
      = s.conditions ++ membershipClause f.column m (first :: rest)
          :: more.filterMap Refinement.clause? := by
  rw [Scope.collected_refineAll Scope.conditions_refine, Scope.conditions_refine,
    List.append_assoc]
  rfl

/-! ## Main statement -/

/-- **Tests of membership.** The method that tests whether a field is among values, or outside of
them, adds one clause to whatever scope it is called on, and the chain can be written if all its other
clauses can.  However it goes on, in each statement of it the clause is the quoted column, the keyword
and a placeholder for each value, with consecutive numbers behind the values bound before; and the
binds go on with the first value and all others in their order.  So it is never written as for an
empty list. -/
theorem membership_written_as_placeholders {T : Type} (convert : T → Value)
    (hsingle : ∀ x, (convert x).isNull = false ∧ (convert x).isList = false) (f : ModelField)
    (hcolumn : '?' ∉ f.column.toList) (m : Membership) (first : T) (rest : List T)
    (dialect : Dialect) (s : Scope) (more : List Refinement) (r : Request) :
    let call := FieldCall.membership m (convert first) (rest.map convert)
    let s' := (s.refine (call.refinement f)).refineAll more
    let values := (first :: rest).map convert
    let later := more.filterMap Refinement.clause?
    let several := decide (0 < s.conditions.length + later.length)
    let taken := (r.leaves s).length
    (r ≠ .update [] →
      ((∃ st, r.statement dialect s' = .ok st) ↔
        ∀ c ∈ s.conditions ++ later, c.check dialect = .ok ())) ∧
    (∀ st, r.statement dialect s' = .ok st →
      st.binds = r.leaves s ++ (values ++ later.flatMap Clause.leaves) ∧
      st.sql = (r.opening dialect s' ++ leadLayout dialect several s.conditions).sql dialect 0
        ++ (dialect.quoteIdent f.column ++ " " ++ m.keyword ++ " ("
          ++ ", ".intercalate (placeholders dialect taken values) ++ ")")
        ++ (trailLayout dialect several later ++ r.ending dialect s').sql dialect
            (taken + values.length)) ∧
    (placeholders dialect taken values).length = 1 + rest.length ∧
    membershipText dialect m f.column taken values
      ≠ dialect.quoteIdent f.column ++ " " ++ m.keyword ++ " (NULL)" := by
  intro call s' values later several taken
  have hvalues : ∀ v ∈ values, v.isNull = false ∧ v.isList = false := by
    intro v hv
    obtain ⟨x, -, rfl⟩ := List.mem_map.mp hv
    exact hsingle x
  have hsome : values ≠ [] := nofun
  have hconditions : s'.conditions = s.conditions ++ membershipClause f.column m values :: later :=
    conditions_refine_membership s f m (convert first) (rest.map convert) more
  have hbound : r.leaves s = r.assigned ++ s.conditions.flatMap Clause.leaves :=
    r.leaves_eq_append s
  refine ⟨fun hr => ?_, fun st hst => ?_, ?_, membershipText_ne_null dialect m _ _ hsome⟩
  · have hcheck := check_membershipClause hcolumn m values dialect
    rw [Request.exists_statement_iff hr, hconditions, List.forall_mem_append,
      List.forall_mem_append, List.forall_mem_cons]
    exact and_congr_right fun _ => and_iff_right hcheck
  · obtain ⟨hbinds, hsql⟩ := Request.statement_eq_around hst hconditions
    rw [leaves_membershipClause m hvalues, ← hbound] at hbinds hsql
    rw [sql_membershipClause m hvalues hcolumn hsome] at hsql
    exact ⟨hbinds, hsql⟩
  · rw [length_placeholders, List.length_map, List.length_cons, Nat.add_comm]

/-- The field of a model that the following test is about. -/
def codeField : ModelField where
  ident := ⟨"code", ⟨⟨1, 0⟩, ⟨1, 0⟩⟩⟩
  type := .named "i128"
  column := "t.code"
  kind := .of (.named "i128")
  options := { column := some "t.code" }
  doc := none

/-- A scope with a condition of its own. -/
def agedScope : Scope where
  table := "t"
  conditions := [⟨.raw "age IN (?)", [.list [.int 1, .null, .int 2]]⟩]

/-- Numbers that are wider than a word, as they are bound. -/
def wideValue (n : Int) : Value := .numeric (toString n)

/-- The call that keeps codes other than seven and eight. -/
def otherCodes : FieldCall := .membership .outside (wideValue 7) ([8, 7].map wideValue)

/-- A chain that goes on behind that call. -/
def otherCodesScope : Scope :=
  (agedScope.refine (otherCodes.refinement codeField)).refineAll
    [.filter ⟨.raw "name = ?", [.text "ann"]⟩]

/-- How its rows are updated. -/
def otherCodesUpdate : Statement where
  sql := "UPDATE \"t\" SET \"age\" = $1 WHERE (age IN ($2, NULL, $3)) AND "
    ++ "(\"t\".\"code\" NOT IN ($4::numeric, $5::numeric, $6::numeric)) AND (name = $7)"
  binds := [.int 4, .int 1, .int 2, .numeric "7", .numeric "8", .numeric "7", .text "ann"]

/-- Wide numbers, one of them twice, are numbered behind the values of the assignment and of the
condition before, and before those of the condition behind. -/
theorem otherCodes_written_as_placeholders :
    (∀ n, (wideValue n).isNull = false ∧ (wideValue n).isList = false) ∧
      '?' ∉ codeField.column.toList ∧
      (Request.update [("age", .int 4)]).statement .postgres otherCodesScope
        = .ok otherCodesUpdate ∧
      otherCodesUpdate.binds = (Request.update [("age", .int 4)]).leaves agedScope
        ++ ([7, 8, 7].map wideValue ++ [.text "ann"]) ∧
      ∃ st, Request.count.statement .sqlite otherCodesScope = .ok st := by
  have hsingle : ∀ n, (wideValue n).isNull = false ∧ (wideValue n).isList = false :=
    fun n => ⟨rfl, rfl⟩
  have hcolumn : '?' ∉ codeField.column.toList := by decide
  have hmain := fun dialect => membership_written_as_placeholders wideValue hsingle codeField hcolumn
    .outside 7 [8, 7] dialect agedScope [.filter ⟨.raw "name = ?", [.text "ann"]⟩]
  have hupdate : (Request.update [("age", .int 4)]).statement .postgres otherCodesScope
      = .ok otherCodesUpdate := rfl
  refine ⟨hsingle, hcolumn, hupdate, ?_, ?_⟩
  · exact ((hmain .postgres (.update [("age", .int 4)])).2.1 _ hupdate).1
  · refine ((hmain .sqlite .count).1 nofun).mpr ?_
    intro c hc
    change c ∈ [_, _] at hc
    simp only [List.mem_cons, List.not_mem_nil, or_false] at hc
    rcases hc with rfl | rfl <;> rfl

end QueryChain
