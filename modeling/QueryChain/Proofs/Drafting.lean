/-
# Drafts follow the layout

Everything that is written into a draft adds a layout to it: its text goes on with the numbers
behind the binds so far, and its slots join the binds.  Clauses are looked at one by one while
they are written, but whether one of them is refused does not depend on the draft.
-/
import QueryChain.Proofs.Layout

namespace QueryChain

namespace Draft

/-! ## Adding a layout -/

/-- A draft with a layout written behind it. -/
def append (dialect : Dialect) (d : Draft) (l : Layout Value) : Draft :=
  ⟨d.sql ++ l.sql dialect d.binds.size, d.binds ++ l.slots.toArray⟩

/-- Without a layout there is nothing to append. -/
@[simp]
theorem append_nil (dialect : Dialect) (d : Draft) : d.append dialect [] = d := by
  simp [append, Layout.slots]

/-- Two layouts one after the other are one layout. -/
@[simp]
theorem append_append (dialect : Dialect) (d : Draft) (l l' : Layout Value) :
    (d.append dialect l).append dialect l' = d.append dialect (l ++ l') := by
  simp [append, Layout.sql_append, String.append_assoc]

/-- Text is a layout. -/
theorem write_eq_append (dialect : Dialect) (d : Draft) (text : String) :
    d.write text = d.append dialect [.text text] := by
  simp [write, append, Layout.slots]

/-- A bind is a slot. -/
theorem bind_eq_append (dialect : Dialect) (d : Draft) (v : Value) :
    d.bind dialect v = d.append dialect [.slot v] := by
  have hwrite : Layout.sql dialect d.binds.size [.slot v]
      = numberedPlaceholder dialect (d.binds.size + 1, v) := by
    simp [Layout.sql, Layout.number, Layout.print]
  cases v <;> simp [bind, append, hwrite, numberedPlaceholder, Layout.slots]

/-- The layout of an empty draft is the finished statement. -/
theorem finish_append_empty (dialect : Dialect) (l : Layout Value) :
    (empty.append dialect l).finish = l.statement dialect := by
  simp [append, empty, finish, Layout.statement]

/-! ## Values -/

/-- The layout of the further elements of a list. -/
def itemsLayout (items : List Value) : Layout Value :=
  items.flatMap fun item => .text ", " :: item.layout

mutual

/-- A value is written as it is laid out. -/
theorem writeValue_eq_append (dialect : Dialect) (d : Draft) :
    ∀ v : Value, d.writeValue dialect v = d.append dialect v.layout
  | .null => by rw [writeValue, write_eq_append dialect]; rfl
  | .list [] => by rw [writeValue, write_eq_append dialect]; rfl
  | .list (item :: items) => by
    -- The head is written without a separator, and every other element behind one.
    rw [writeValue, writeValue_eq_append dialect d item, writeItems_eq_append, append_append]
    rw [Value.layout, if_neg (by simp), Value.layouts, intercalate_cons, Value.layouts_eq_map,
      List.flatMap_map]
    rfl
  | .bool _ | .int _ | .uint _ | .float _ | .text _ | .bytes _ | .numeric _ | .uuid _
  | .timestamp _ | .naiveTimestamp _ | .date _ | .time _ | .offsetDateTime _
  | .primitiveDateTime _ | .timeDate _ | .timeOfDay _ | .decimal _ => by
    rw [writeValue, bind_eq_append] <;> simp [Value.layout]

/-- Further elements are laid out behind commas. -/
theorem writeItems_eq_append (dialect : Dialect) (d : Draft) :
    ∀ items : List Value, d.writeItems dialect items = d.append dialect (itemsLayout items)
  | [] => by simp [writeItems, itemsLayout]
  | item :: items => by
    rw [writeItems, write_eq_append dialect, writeValue_eq_append dialect _ item,
      writeItems_eq_append dialect _ items]
    simp [itemsLayout]

end

/-! ## Clauses -/

/-- An empty text adds nothing. -/
theorem append_empty_text (dialect : Dialect) (d : Draft) (l : Layout Value) :
    d.append dialect (.text "" :: l) = d.append dialect l := by
  simp [append, Layout.slots]

/-- The first character before a question mark can be written by itself. -/
theorem append_fillMarks_cons (dialect : Dialect) (d : Draft) (c : Char) (part : List Char)
    (parts : List (List Char)) (ls : List (Layout Value)) :
    d.append dialect (fillMarks ((c :: part) :: parts) ls)
      = (d.write (String.singleton c)).append dialect (fillMarks (part :: parts) ls) := by
  rw [write_eq_append dialect, append_append]
  cases parts with
  | nil => simp [fillMarks, append, Layout.slots, String.ofList_cons]
  | cons next parts =>
    cases ls <;>
      simp [fillMarks, append, Layout.slots, String.ofList_cons, String.append_assoc]

/-- Any other character than a question mark is written as it stands. -/
theorem writeMarked_cons_of_ne (dialect : Dialect) (d : Draft) {c : Char} (hc : c ≠ '?')
    (rest : List Char) (args : List Value) :
    d.writeMarked dialect (c :: rest) args
      = (d.write (String.singleton c)).writeMarked dialect rest args := by
  cases args <;> rw [writeMarked, if_neg hc]

/-- Writing a text mark by mark fills its marks in. -/
theorem writeMarked_eq_append (dialect : Dialect) (d : Draft) (text : List Char)
    (args : List Value) :
    d.writeMarked dialect text args
      = d.append dialect (fillMarks (splitAtMarks (· == '?') text) (args.map Value.layout)) := by
  -- On the text that is left; what was written before is in the draft, whatever it is.
  induction text generalizing d args with
  | nil => simp [writeMarked, splitAtMarks, fillMarks, append_empty_text]
  | cons c rest ih =>
    obtain ⟨part, parts, hsplit⟩ :=
      List.exists_cons_of_ne_nil (splitAtMarks_ne_nil (· == '?') rest)
    by_cases hc : c = '?'
    -- A mark ends the part before it, and no part is written yet.
    · subst hc
      rw [show splitAtMarks (· == '?') ('?' :: rest) = [] :: part :: parts from by
        simp [splitAtMarks, hsplit]]
      cases args with
      | nil =>
        have hfill : fillMarks ([] :: part :: parts) ([] : List (Layout Value))
            = .text "" :: fillMarks (part :: parts) [] := by
          simp [fillMarks]
        rw [writeMarked, if_pos rfl, ih, hsplit, List.map_nil, hfill, append_empty_text]
      | cons v args =>
        have hfill : fillMarks ([] :: part :: parts) ((v :: args).map Value.layout)
            = .text "" :: (v.layout ++ fillMarks (part :: parts) (args.map Value.layout)) := by
          simp [fillMarks]
        rw [writeMarked, if_pos rfl, writeValue_eq_append, ih, hsplit, append_append, hfill,
          append_empty_text]
    -- Any other character belongs to the first part.
    · rw [show splitAtMarks (· == '?') (c :: rest) = (c :: part) :: parts from by
        simp [splitAtMarks, hsplit, hc]]
      rw [writeMarked_cons_of_ne dialect d hc, ih, hsplit, append_fillMarks_cons]

end Draft

/-- Whether a clause can be written: it needs as many values as question marks. -/
def Clause.check (dialect : Dialect) (c : Clause) : Except RenderError Unit :=
  let markers := (c.sql dialect).toList.count '?'
  if markers = c.args.length then .ok ()
  else .error (.bindMismatch (c.sql dialect) markers c.args.length)

/-- Whether all clauses can be written; the first one that cannot is reported. -/
def checkClauses (dialect : Dialect) : List Clause → Except RenderError Unit
  | [] => .ok ()
  | c :: rest => do
      c.check dialect
      checkClauses dialect rest

/-- A clause can be written exactly if it has a value for each question mark. -/
theorem Clause.check_eq_ok_iff (dialect : Dialect) (c : Clause) :
    c.check dialect = .ok () ↔ (c.sql dialect).toList.count '?' = c.args.length := by
  unfold check
  dsimp only
  split
  · rename_i h
    simp [h]
  · rename_i h
    simp [h]

/-- Clauses can be written exactly if each of them can. -/
theorem checkClauses_eq_ok_iff (dialect : Dialect) (clauses : List Clause) :
    checkClauses dialect clauses = .ok () ↔ ∀ c ∈ clauses, c.check dialect = .ok () := by
  induction clauses with
  | nil => simp [checkClauses]
  | cons c rest ih =>
    rw [checkClauses, List.forall_mem_cons, ← ih]
    cases c.check dialect with
    | error e => simp [bind, Except.bind]
    | ok u => simp [bind, Except.bind]

/-- A clause is refused exactly if it has another number of values than of question marks, and then
for that. -/
theorem Clause.check_eq_error_iff (dialect : Dialect) (c : Clause) (error : RenderError) :
    c.check dialect = .error error ↔
      (c.sql dialect).toList.count '?' ≠ c.args.length ∧
        error = .bindMismatch (c.sql dialect) ((c.sql dialect).toList.count '?') c.args.length := by
  unfold check
  dsimp only
  split
  · rename_i h
    simp [h]
  · rename_i h
    rw [Except.error.injEq, eq_comm]
    exact ⟨fun herror => ⟨h, herror⟩, And.right⟩

/-- Clauses are refused exactly for the first of them that is. -/
theorem checkClauses_eq_error_iff (dialect : Dialect) (clauses : List Clause)
    (error : RenderError) :
    checkClauses dialect clauses = .error error ↔
      ∃ before c after, clauses = before ++ c :: after ∧
        (∀ b ∈ before, b.check dialect = .ok ()) ∧ c.check dialect = .error error := by
  induction clauses with
  | nil => simp [checkClauses]
  | cons first rest ih =>
    rw [checkClauses]
    cases hfirst : first.check dialect with
    | error e =>
      constructor
      · rintro ⟨⟩
        exact ⟨[], first, rest, rfl, by simp, hfirst⟩
      · rintro ⟨before, c, after, hclauses, hbefore, hc⟩
        cases before with
        | nil =>
          obtain ⟨rfl, -⟩ := List.cons.inj hclauses
          exact hfirst.symm.trans hc
        | cons b before =>
          obtain ⟨rfl, -⟩ := List.cons.inj hclauses
          rw [hbefore first List.mem_cons_self] at hfirst
          cases hfirst
    | ok u =>
      show checkClauses dialect rest = .error error ↔ _
      rw [ih]
      constructor
      · rintro ⟨before, c, after, rfl, hbefore, hc⟩
        exact ⟨first :: before, c, after, rfl, List.forall_mem_cons.mpr ⟨hfirst, hbefore⟩, hc⟩
      · rintro ⟨before, c, after, hclauses, hbefore, hc⟩
        cases before with
        | nil =>
          obtain ⟨rfl, -⟩ := List.cons.inj hclauses
          rw [hfirst] at hc
          cases hc
        | cons b before =>
          obtain ⟨rfl, rfl⟩ := List.cons.inj hclauses
          exact ⟨before, c, after, rfl, (List.forall_mem_cons.mp hbefore).2, hc⟩

namespace Draft

/-- A clause that can be written is written mark by mark. -/
theorem writeClause_eq_check (dialect : Dialect) (d : Draft) (c : Clause) :
    d.writeClause dialect c
      = (c.check dialect).map fun _ => d.writeMarked dialect (c.sql dialect).toList c.args := by
  unfold writeClause Clause.check
  dsimp only
  split <;> rfl

/-- A clause that can be written adds its layout. -/
theorem writeClause_eq_map (dialect : Dialect) (d : Draft) (c : Clause) :
    d.writeClause dialect c
      = (c.check dialect).map fun _ => d.append dialect (c.layout dialect) := by
  rw [writeClause_eq_check, writeMarked_eq_append]
  rfl

/-- A clause in parentheses likewise. -/
theorem writeGroup_eq_map (dialect : Dialect) (d : Draft) (c : Clause) :
    d.writeGroup dialect c
      = (c.check dialect).map fun _ => d.append dialect (c.groupLayout dialect true) := by
  rw [writeGroup, writeClause_eq_map, write_eq_append dialect]
  cases c.check dialect with
  | error e => rfl
  | ok u =>
    show Except.ok _ = Except.ok _
    rw [write_eq_append dialect, append_append, append_append]
    rfl

/-- Further clauses stand behind `AND`. -/
theorem writeGroups_eq_map (dialect : Dialect) (d : Draft) (clauses : List Clause) :
    d.writeGroups dialect clauses
      = (checkClauses dialect clauses).map fun _ => d.append dialect
          (clauses.flatMap fun c => .text " AND " :: c.groupLayout dialect true) := by
  induction clauses generalizing d with
  | nil => simp [writeGroups, checkClauses, Except.map]
  | cons c rest ih =>
    rw [writeGroups, writeGroup_eq_map, write_eq_append dialect, checkClauses]
    cases c.check dialect with
    | error e => rfl
    | ok u =>
      show writeGroups dialect _ rest = _
      rw [ih]
      simp only [append_append]
      rfl

/-- The conditions are written as they are laid out, if every clause can be. -/
theorem writeWhere_eq_map (dialect : Dialect) (d : Draft) (clauses : List Clause) :
    d.writeWhere dialect clauses
      = (checkClauses dialect clauses).map fun _ =>
          d.append dialect (whereLayout dialect clauses) := by
  match clauses with
  | [] => simp [writeWhere, checkClauses, whereLayout, Except.map]
  | [c] =>
    rw [writeWhere, writeClause_eq_map, write_eq_append dialect, checkClauses]
    cases c.check dialect with
    | error e => rfl
    | ok u =>
      show Except.ok _ = Except.ok _
      rw [append_append]
      simp [whereLayout, Clause.groupLayout]
  | c :: c' :: rest =>
    show (do
      let d ← (d.write " WHERE ").writeGroup dialect c
      writeGroups dialect d (c' :: rest)) = _
    rw [writeGroup_eq_map, write_eq_append dialect, checkClauses]
    cases c.check dialect with
    | error e => rfl
    | ok u =>
      show writeGroups dialect _ (c' :: rest) = _
      rw [writeGroups_eq_map, whereLayout, if_neg (by simp), List.map_cons, intercalate_cons,
        List.flatMap_map, append_append, append_append]
      simp
      rfl

/-! ## Assignments -/

/-- An assignment is written as it is laid out. -/
theorem writeAssignment_eq_append (dialect : Dialect) (d : Draft) (column : String) (v : Value) :
    d.writeAssignment dialect column v = d.append dialect (assignmentLayout dialect (column, v)) := by
  rw [writeAssignment, writeValue_eq_append, write_eq_append dialect, append_append]
  rfl

/-- Further assignments stand behind commas. -/
theorem writeAssignments_eq_append (dialect : Dialect) (d : Draft)
    (assignments : List (String × Value)) :
    d.writeAssignments dialect assignments = d.append dialect
      (assignments.flatMap fun a => .text ", " :: assignmentLayout dialect a) := by
  induction assignments generalizing d with
  | nil => simp [writeAssignments]
  | cons a rest ih =>
    obtain ⟨column, v⟩ := a
    rw [writeAssignments, ih, writeAssignment_eq_append, write_eq_append dialect, append_append,
      append_append]
    rfl

end Draft

/-! ## Statements -/

/-- The conditions behind the start of a statement. -/
theorem Draft.writeWhere_start (dialect : Dialect) (start : String) (clauses : List Clause) :
    (Draft.empty.write start).writeWhere dialect clauses
      = (checkClauses dialect clauses).map fun _ =>
          Draft.empty.append dialect (.text start :: whereLayout dialect clauses) := by
  rw [writeWhere_eq_map, write_eq_append dialect, append_append]
  rfl

/-- Whether a statement can be written: an update needs an assignment, and every clause its
values. -/
def Request.check (dialect : Dialect) (s : Scope) : Request → Except RenderError Unit
  | update [] => .error .emptyUpdate
  | select .. | count | delete | update (_ :: _) => checkClauses dialect s.conditions

/-- A statement that can be written is the one with its layout. -/
theorem Request.statement_eq_map (dialect : Dialect) (s : Scope) (r : Request) :
    r.statement dialect s
      = (r.check dialect s).map fun _ => (r.layout dialect s).statement dialect := by
  cases r with
  | select columns limit =>
    show Statement.select dialect s columns limit = _
    rw [Statement.select, Draft.writeWhere_start, check]
    cases checkClauses dialect s.conditions with
    | error e => rfl
    | ok u =>
      show Except.ok (Draft.finish _) = Except.ok _
      rw [Draft.write_eq_append dialect, Draft.write_eq_append dialect]
      simp only [Draft.append_append, Draft.finish_append_empty]
      simp [layout, String.append_assoc]
  | count =>
    show Statement.count dialect s = _
    rw [Statement.count, Draft.writeWhere_start, check]
    cases checkClauses dialect s.conditions with
    | error e => rfl
    | ok u => exact congrArg Except.ok (Draft.finish_append_empty dialect _)
  | delete =>
    show Statement.delete dialect s = _
    rw [Statement.delete, Draft.writeWhere_start, check]
    cases checkClauses dialect s.conditions with
    | error e => rfl
    | ok u => exact congrArg Except.ok (Draft.finish_append_empty dialect _)
  | update assignments =>
    cases assignments with
    | nil => rfl
    | cons a rest =>
      show Statement.update dialect s (a :: rest) = _
      -- The conditions are checked behind the assignments, but the draft does not matter to that.
      rw [Statement.update, Draft.writeWhere_eq_map, Draft.write_eq_append dialect, check,
        Draft.writeAssignment_eq_append, Draft.writeAssignments_eq_append]
      cases checkClauses dialect s.conditions with
      | error e => rfl
      | ok u =>
        show Except.ok (Draft.finish _) = Except.ok _
        simp only [Draft.append_append, Draft.finish_append_empty]
        simp [layout, assignmentsLayout, intercalate_cons, List.flatMap_map]

/-- What is written was not refused, and it is the statement of the layout. -/
theorem Request.check_and_eq_of_statement {dialect : Dialect} {s : Scope} {r : Request}
    {st : Statement} (h : r.statement dialect s = .ok st) :
    r.check dialect s = .ok () ∧ st = (r.layout dialect s).statement dialect := by
  rw [statement_eq_map] at h
  cases hcheck : r.check dialect s with
  | error e =>
    rw [hcheck] at h
    cases h
  | ok u =>
    rw [hcheck] at h
    exact ⟨rfl, (Except.ok.inj h).symm⟩

/-- So its text is that of the layout. -/
theorem Request.sql_eq_of_statement {dialect : Dialect} {s : Scope} {r : Request} {st : Statement}
    (h : r.statement dialect s = .ok st) : st.sql = (r.layout dialect s).sql dialect 0 := by
  rw [(check_and_eq_of_statement h).2]
  rfl

/-- All statements but an update of nothing are refused only for their clauses. -/
theorem Request.check_eq_checkClauses {r : Request} (h : r ≠ .update []) (dialect : Dialect)
    (s : Scope) : r.check dialect s = checkClauses dialect s.conditions := by
  cases r with
  | update assignments =>
    cases assignments with
    | nil => exact absurd rfl h
    | cons a rest => rfl
  | select _ _ | count | delete => rfl

/-- So they are written exactly if every clause can be. -/
theorem Request.exists_statement_iff {dialect : Dialect} {s : Scope} {r : Request}
    (h : r ≠ .update []) :
    (∃ st, r.statement dialect s = .ok st) ↔ ∀ c ∈ s.conditions, c.check dialect = .ok () := by
  rw [statement_eq_map, check_eq_checkClauses h, ← checkClauses_eq_ok_iff]
  cases checkClauses dialect s.conditions with
  | error e => simp [Except.map]
  | ok u => simp [Except.map]

/-- So every clause of a statement that is written can be. -/
theorem Request.check_of_statement {dialect : Dialect} {s : Scope} {r : Request} {st : Statement}
    (h : r.statement dialect s = .ok st) : ∀ c ∈ s.conditions, c.check dialect = .ok () := by
  have hr : r ≠ .update [] := by
    rintro rfl
    cases h
  exact (exists_statement_iff hr).mp ⟨st, h⟩

/-- Statements are refused exactly for their clauses. -/
theorem Request.statement_eq_error_iff {r : Request} (h : r ≠ .update []) (dialect : Dialect)
    (s : Scope) (error : RenderError) :
    r.statement dialect s = .error error ↔ checkClauses dialect s.conditions = .error error := by
  rw [statement_eq_map, check_eq_checkClauses h]
  cases checkClauses dialect s.conditions with
  | error e => simp [Except.map]
  | ok u => simp [Except.map]

/-- So it is for one of the clauses. -/
theorem Request.exists_check_error_of_statement {dialect : Dialect} {s : Scope} {r : Request}
    (h : r ≠ .update []) {error : RenderError} (herror : r.statement dialect s = .error error) :
    ∃ c ∈ s.conditions, c.check dialect = .error error := by
  rw [statement_eq_error_iff h, checkClauses_eq_error_iff] at herror
  obtain ⟨before, c, after, hconditions, -, hc⟩ := herror
  rw [hconditions]
  exact ⟨c, List.mem_append_cons_self, hc⟩

/-- Only an update of nothing is refused for being one. -/
theorem Request.statement_eq_emptyUpdate_iff (dialect : Dialect) (s : Scope) (r : Request) :
    r.statement dialect s = .error .emptyUpdate ↔ r = .update [] := by
  constructor
  · intro h
    refine Classical.byContradiction fun hr => ?_
    obtain ⟨c, -, hc⟩ := exists_check_error_of_statement hr h
    obtain ⟨-, hmismatch⟩ := (c.check_eq_error_iff dialect _).mp hc
    cases hmismatch
  · rintro rfl
    rfl

/-- **Two passes.** A statement that is written at all is its layout with the slots numbered from
left to right, and binds what is in the slots.  So the placeholder of each slot carries the
place of the slot's value among the binds. -/
theorem statement_eq_numbered_layout (dialect : Dialect) (s : Scope) (r : Request)
    (st : Statement) (h : r.statement dialect s = .ok st) :
    st = ⟨Layout.print (numberedPlaceholder dialect) (Layout.number 0 (r.layout dialect s)),
        Layout.slots (r.layout dialect s)⟩ ∧
      ∀ before v after, r.layout dialect s = before ++ .slot v :: after →
        let index := (Layout.slots before).length + 1
        st.binds[index - 1]? = some v ∧
          st.sql = Layout.sql dialect 0 before ++ numberedPlaceholder dialect (index, v)
            ++ Layout.sql dialect index after := by
  have hst : st = (r.layout dialect s).statement dialect := by
    rw [Request.statement_eq_map] at h
    cases hcheck : r.check dialect s with
    | error e => rw [hcheck] at h; cases h
    | ok u => rw [hcheck] at h; exact (Except.ok.inj h).symm
  refine ⟨hst, fun before v after hlayout => ?_⟩
  rw [hst, hlayout]
  exact Layout.statement_slot dialect before after v

/-- A scope with values that are absent, nested, numbers, or look like placeholders. -/
def mixedScope : Scope where
  table := "users"
  conditions := [
    ⟨.column "a" "IN (?)", [.list [.int 1, .null, .list [], .list [.numeric "5", .text "?"]]]⟩,
    ⟨.raw "x = ? OR y = ?", [.null, .bool true]⟩]

/-- An update of that scope with a list. -/
def mixedUpdate : Request := .update [("a.b", .list [.int 1, .null])]

/-- What it is on Postgres. -/
def mixedStatement : Statement where
  sql := "UPDATE \"users\" SET \"a\".\"b\" = $1, NULL WHERE "
    ++ "(\"a\" IN ($2, NULL, NULL, $3::numeric, $4)) AND (x = NULL OR y = $5)"
  binds := [.int 1, .int 1, .numeric "5", .text "?", .bool true]

/-- Absent values and empty lists take no number, wherever they stand. -/
theorem mixedStatement_eq_numbered_layout :
    mixedUpdate.statement .postgres mixedScope = .ok mixedStatement ∧
      mixedStatement = ⟨Layout.print (numberedPlaceholder .postgres)
          (Layout.number 0 (mixedUpdate.layout .postgres mixedScope)),
        Layout.slots (mixedUpdate.layout .postgres mixedScope)⟩ := by
  have hrun : mixedUpdate.statement .postgres mixedScope = .ok mixedStatement := rfl
  exact ⟨hrun, (statement_eq_numbered_layout .postgres mixedScope mixedUpdate _ hrun).1⟩

end QueryChain
