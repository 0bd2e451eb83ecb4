/-
# What an updater assigns

A setter replaces the value of its column where it stands, or adds the column at the end.  So after
any calls of setters each column that was set is assigned once: it stands where its first call put
it, and has the value of its last call.  Nothing is assigned, and no update is sent, only if no
setter was called.
-/
import QueryChain.Builder.Call
import QueryChain.Proofs.ChainedScope
import QueryChain.Proofs.Drafting
import QueryChain.Proofs.QueryOutcomes

namespace QueryChain

/-! ## Calls of setters -/

/-- A call of a setter: the field that the setter is named after, and the value it is given. -/
structure SetterCall where
  field : ModelField
  value : Value
  deriving Repr

/-- The column that a setter assigns is that of its field. -/
def SetterCall.column (call : SetterCall) : String := call.field.column

/-- The value that a column is given last. -/
def lastValue? (column : String) (calls : List SetterCall) : Option Value :=
  ((calls.filter (·.column = column)).map SetterCall.value).getLast?

/-- Two sequences of calls that set the same columns first in the same order, and each column to
the same value last. -/
structure SameSetters (calls calls' : List SetterCall) : Prop where
  columns : (calls'.map SetterCall.column).eraseDups = (calls.map SetterCall.column).eraseDups
  values : ∀ column, lastValue? column calls' = lastValue? column calls

namespace Updater

/-- An updater after a call of a setter. -/
def call (u : Updater) (c : SetterCall) : Updater := u.set c.column c.value

/-- An updater after several calls of setters. -/
def callAll (u : Updater) (calls : List SetterCall) : Updater := calls.foldl call u

/-- The last of several calls comes behind the others. -/
theorem callAll_append_singleton (u : Updater) (calls : List SetterCall) (c : SetterCall) :
    u.callAll (calls ++ [c]) = (u.callAll calls).call c := by
  rw [callAll, List.foldl_append]
  rfl

/-- Setters do not touch the scope. -/
theorem scope_callAll (u : Updater) (calls : List SetterCall) :
    (u.callAll calls).scope = u.scope := by
  induction calls generalizing u with
  | nil => rfl
  | cons c rest ih => exact ih (u.call c)

end Updater

/-! ## One assignment -/

section

variable (column : String) (value : Value) (assignments : List (String × Value))

/-- A column that is assigned stays where it stands, and another one comes to stand at the end. -/
theorem map_fst_assign :
    (assign column value assignments).map Prod.fst
      = if column ∈ assignments.map Prod.fst then assignments.map Prod.fst
        else assignments.map Prod.fst ++ [column] := by
  induction assignments with
  | nil => rfl
  | cons entry rest ih =>
    obtain ⟨name, old⟩ := entry
    by_cases hname : name = column
    · simp [assign, hname]
    · have hmem : column ∈ ((name, old) :: rest).map Prod.fst ↔ column ∈ rest.map Prod.fst := by
        rw [List.map_cons, List.mem_cons]
        exact or_iff_right (Ne.symm hname)
      rw [assign, if_neg hname, List.map_cons, ih]
      by_cases hrest : column ∈ rest.map Prod.fst
      · rw [if_pos hrest, if_pos (hmem.mpr hrest), List.map_cons]
      · rw [if_neg hrest, if_neg (mt hmem.mp hrest), List.map_cons, List.cons_append]

/-- The values of other columns stay as they are. -/
theorem lookup_assign_of_ne {other : String} (h : other ≠ column) :
    (assign column value assignments).lookup other = assignments.lookup other := by
  have hother : (other == column) = false := beq_eq_false_iff_ne.mpr h
  induction assignments with
  | nil => rw [assign, List.lookup_cons, hother]
  | cons entry rest ih =>
    obtain ⟨name, old⟩ := entry
    rw [assign]
    split
    · rename_i hname
      rw [List.lookup_cons, List.lookup_cons, hname, hother]
    · rw [List.lookup_cons, List.lookup_cons, ih]

end

/-- Assignments of different columns are determined by their columns and the value of each. -/
theorem eq_filterMap_lookup {assignments : List (String × Value)}
    (h : (assignments.map Prod.fst).Nodup) :
    assignments = (assignments.map Prod.fst).filterMap fun column =>
      (assignments.lookup column).map (column, ·) := by
  induction assignments with
  | nil => rfl
  | cons entry rest ih =>
    obtain ⟨name, value⟩ := entry
    rw [List.map_cons, List.nodup_cons] at h
    have hhead : ((name, value) :: rest).lookup name = some value := List.lookup_cons_self
    -- No further column is the first one, so each is looked up behind it.
    have htail : (rest.map Prod.fst).filterMap
          (fun column => (((name, value) :: rest).lookup column).map (column, ·))
        = (rest.map Prod.fst).filterMap fun column => (rest.lookup column).map (column, ·) := by
      refine List.filterMap_congr fun column hcolumn => ?_
      have hne : (column == name) = false := by
        rw [beq_eq_false_iff_ne]
        rintro rfl
        exact h.1 hcolumn
      rw [List.lookup_cons, hne]
    rw [List.map_cons, List.filterMap_cons, hhead, htail, ← ih h.2]
    rfl

/-! ## A sequence of calls -/

/-- The last call of a column decides its value. -/
theorem lastValue?_append_singleton (column : String) (calls : List SetterCall) (c : SetterCall) :
    lastValue? column (calls ++ [c])
      = if column = c.column then some c.value else lastValue? column calls := by
  rw [lastValue?, List.filter_append, List.map_append]
  by_cases h : c.column = column
  · rw [if_pos h.symm, List.filter_cons_of_pos (by simpa using h)]
    simp
  · rw [if_neg (Ne.symm h), List.filter_cons_of_neg (by simpa using h)]
    simp [lastValue?]

namespace Updater

/-- After several calls, the columns stand in the order of their first calls. -/
theorem map_fst_callAll (s : Scope) (calls : List SetterCall) :
    ((ofScope s).callAll calls).assignments.map Prod.fst
      = (calls.map SetterCall.column).eraseDups := by
  -- The last call is taken off, because a column is only added if none before has set it.
  induction calls using List.reverseRecOn with
  | nil => rfl
  | append_singleton calls c ih =>
    rw [callAll_append_singleton, List.map_append, List.map_singleton, eraseDups_append_singleton]
    show (assign c.column c.value _).map Prod.fst = _
    rw [map_fst_assign, ih]
    simp only [List.mem_eraseDups]

/-- After several calls, a column has the value of its last call. -/
theorem lookup_callAll (s : Scope) (calls : List SetterCall) (column : String) :
    ((ofScope s).callAll calls).assignments.lookup column = lastValue? column calls := by
  induction calls using List.reverseRecOn with
  | nil => rfl
  | append_singleton calls c ih =>
    rw [callAll_append_singleton, lastValue?_append_singleton]
    show (assign c.column c.value _).lookup column = _
    by_cases h : column = c.column
    · rw [if_pos h, h, lookup_assign]
    · rw [if_neg h, lookup_assign_of_ne _ _ _ h, ih]

/-- So the assignments are the columns by their first calls, each with its last value. -/
theorem assignments_callAll (s : Scope) (calls : List SetterCall) :
    ((ofScope s).callAll calls).assignments
      = (calls.map SetterCall.column).eraseDups.filterMap fun column =>
          (lastValue? column calls).map (column, ·) := by
  have hnodup : (((ofScope s).callAll calls).assignments.map Prod.fst).Nodup := by
    rw [map_fst_callAll]
    exact nodup_eraseDups _
  rw [eq_filterMap_lookup hnodup, map_fst_callAll]
  refine List.filterMap_congr fun column _ => ?_
  rw [lookup_callAll]

/-- Something is assigned as soon as a setter is called. -/
theorem assignments_callAll_eq_nil_iff (s : Scope) (calls : List SetterCall) :
    ((ofScope s).callAll calls).assignments = [] ↔ calls = [] := by
  rw [← List.map_eq_nil_iff (f := Prod.fst), map_fst_callAll]
  constructor
  · intro h
    cases calls with
    | nil => rfl
    | cons c rest =>
      have hmem : c.column ∈ ((c :: rest).map SetterCall.column).eraseDups :=
        List.mem_eraseDups.mpr List.mem_cons_self
      rw [h] at hmem
      cases hmem
  · rintro rfl
    rfl

end Updater

/-! ## Updates without assignments -/

/-- Only an update of nothing is refused for being one; others are refused for their clauses. -/
theorem Statement.update_eq_emptyUpdate_iff (dialect : Dialect) (s : Scope)
    (assignments : List (String × Value)) :
    Statement.update dialect s assignments = .error .emptyUpdate ↔ assignments = [] := by
  rw [← Request.update.injEq assignments [], ← Request.statement_eq_emptyUpdate_iff dialect s]
  rfl

/-- A run that is only done for its effect is the same but for the number of rows. -/
theorem Run.forget_eq {ε : Type} (r : Run ε Nat) :
    r.forget = ⟨r.calls, r.events, r.result.map fun _ => ()⟩ := by
  show r.andThen (fun _ => done ()) = _
  obtain ⟨calls, events, result⟩ := r
  cases result with
  | error error => rfl
  | ok rows => simp only [andThen, done, List.append_nil, Except.map]

/-- So it fails as it would otherwise. -/
theorem Run.result_forget_eq_error_iff {ε : Type} (r : Run ε Nat) (error : QueryError ε) :
    r.forget.result = .error error ↔ r.result = .error error := by
  rw [forget_eq]
  cases r.result <;> simp [Except.map]

namespace Updater

variable {ρ μ ε : Type} (e : Executor ρ μ ε) (u : Updater)

/-- An update fails for want of assignments exactly if there are none. -/
theorem result_updateNum_eq_emptyUpdate_iff :
    (u.updateNum e).result = .error (.render .emptyUpdate) ↔ u.assignments = [] := by
  rw [updateNum, update_eq_askNumber, result_askNumber_eq_render_iff]
  exact Statement.update_eq_emptyUpdate_iff e.dialect u.scope u.assignments

/-- An update that cannot be written is not put to the executor, and nothing is reported. -/
theorem updateNum_of_error {error : RenderError}
    (h : Statement.update e.dialect u.scope u.assignments = .error error) :
    u.updateNum e = ⟨[], [], .error (.render error)⟩ := by
  rw [updateNum, update_eq_askNumber, h, askNumber_error]

/-- An update that can be written is put to the executor once, and its answer is the result. -/
theorem updateNum_of_statement {st : Statement}
    (h : Statement.update e.dialect u.scope u.assignments = .ok st) :
    u.updateNum e
      = ⟨[.execute st], changing .update u.scope st, (e.execute st).mapError .backend⟩ := by
  rw [updateNum, update_eq_askNumber, h, askNumber_ok]

end Updater

/-! ## Main statement -/

/-- **What setters assign.** After any calls of setters, each column that was set is assigned once,
in the order of the first calls, with the value of its last call.  So calls that set the same columns
first in the same order, and each to the same value last, end in one updater and one update; the
value of a column depends on the calls of its own setter only; and an update fails for want of
assignments, before the executor is asked, exactly if no setter was called.  Otherwise the executor is
asked once, to run the update with these assignments, unless its conditions cannot be written. -/
theorem setters_determine_assignments (s : Scope) (calls : List SetterCall) :
    let columns := calls.map SetterCall.column
    let u := (Updater.ofScope s).callAll calls
    (u.scope = s ∧
      u.assignments = columns.eraseDups.filterMap (fun column =>
        (lastValue? column calls).map (column, ·)) ∧
      (u.assignments.map Prod.fst = columns.eraseDups ∧ (u.assignments.map Prod.fst).Nodup ∧
        (u.assignments.map Prod.fst).Pairwise fun a b => columns.idxOf a < columns.idxOf b) ∧
      (∀ column, column ∈ u.assignments.map Prod.fst ↔ column ∈ columns) ∧
      ∀ column, u.assignments.lookup column = lastValue? column calls) ∧
    (∀ calls', SameSetters calls calls' →
      let u' := (Updater.ofScope s).callAll calls'
      u' = u ∧
      (∀ dialect, Statement.update dialect u'.scope u'.assignments
        = Statement.update dialect u.scope u.assignments) ∧
      ∀ {ρ μ ε : Type} (e : Executor ρ μ ε), u'.updateNum e = u.updateNum e) ∧
    (∀ column calls',
      calls'.filter (·.column = column) = calls.filter (·.column = column) →
        ((Updater.ofScope s).callAll calls').assignments.lookup column
          = u.assignments.lookup column) ∧
    ∀ {ρ μ ε : Type} (e : Executor ρ μ ε),
      ((u.updateNum e).result = .error (.render .emptyUpdate) ↔ calls = []) ∧
      ((u.updateNum e).forget.result = .error (.render .emptyUpdate) ↔ calls = []) ∧
      (calls = [] → u.updateNum e = ⟨[], [], .error (.render .emptyUpdate)⟩ ∧
        (u.updateNum e).forget = ⟨[], [], .error (.render .emptyUpdate)⟩) ∧
      (∀ error, Statement.update e.dialect s u.assignments = .error error →
        u.updateNum e = ⟨[], [], .error (.render error)⟩ ∧
        (u.updateNum e).forget = ⟨[], [], .error (.render error)⟩) ∧
      ∀ st, Statement.update e.dialect s u.assignments = .ok st →
        let asked : List Call := [.execute st]
        let events := changing .update s st
        let answer := (e.execute st).mapError .backend
        u.updateNum e = ⟨asked, events, answer⟩ ∧
        (u.updateNum e).forget = ⟨asked, events, answer.map fun _ => ()⟩ := by
  intro columns u
  have hcolumns : u.assignments.map Prod.fst = columns.eraseDups := Updater.map_fst_callAll s calls
  have hnothing : u.assignments = [] ↔ calls = [] := Updater.assignments_callAll_eq_nil_iff s calls
  have hscope : u.scope = s := Updater.scope_callAll _ _
  refine ⟨⟨hscope, Updater.assignments_callAll s calls, ?_, ?_,
    Updater.lookup_callAll s calls⟩, ?_, ?_, ?_⟩
  · rw [hcolumns]
    exact ⟨rfl, nodup_eraseDups columns, pairwise_idxOf_eraseDups columns⟩
  · intro column
    rw [hcolumns, List.mem_eraseDups]
  · intro calls' hsame u'
    have hassignments : u'.assignments = u.assignments := by
      rw [show u'.assignments = _ from Updater.assignments_callAll s calls',
        show u.assignments = _ from Updater.assignments_callAll s calls, hsame.columns]
      refine List.filterMap_congr fun column _ => ?_
      rw [hsame.values]
    have heq : u' = u := by
      show Updater.mk u'.scope u'.assignments = Updater.mk u.scope u.assignments
      rw [show u'.scope = s from Updater.scope_callAll _ _, hscope, hassignments]
    rw [heq]
    exact ⟨rfl, fun dialect => rfl, fun e => rfl⟩
  · intro column calls' hown
    rw [Updater.lookup_callAll, show u.assignments.lookup column = lastValue? column calls from
      Updater.lookup_callAll s calls column, lastValue?, lastValue?, hown]
  · intro ρ μ ε e
    have hunwritten : ∀ error, Statement.update e.dialect s u.assignments = .error error →
        u.updateNum e = ⟨[], [], .error (.render error)⟩ ∧
          (u.updateNum e).forget = ⟨[], [], .error (.render error)⟩ := by
      intro error herror
      have hrun := u.updateNum_of_error e (hscope ▸ herror)
      rw [hrun, Run.forget_eq]
      exact ⟨rfl, rfl⟩
    refine ⟨?_, ?_, fun hnone => hunwritten _ ?_, hunwritten, fun st hst => ?_⟩
    · rw [Updater.result_updateNum_eq_emptyUpdate_iff, hnothing]
    · rw [Run.result_forget_eq_error_iff, Updater.result_updateNum_eq_emptyUpdate_iff, hnothing]
    · exact (Statement.update_eq_emptyUpdate_iff e.dialect s u.assignments).mpr (hnothing.mpr hnone)
    · have hrun := u.updateNum_of_statement e (hscope ▸ hst)
      rw [hscope] at hrun
      rw [hrun, Run.forget_eq]
      exact ⟨rfl, rfl⟩

/-- A call of the setter of a column, whatever else is declared of its field. -/
def setterCall (column : String) (value : Value) : SetterCall where
  field :=
    { ident := ⟨column, ⟨⟨1, 0⟩, ⟨1, 0⟩⟩⟩
      type := .named "String"
      column
      kind := .of (.named "String")
      options := {}
      doc := none }
  value

/-- Calls of two setters, one of them a second time. -/
def repeatedSetters : List SetterCall :=
  [setterCall "name" (.text "ann"), setterCall "age" (.int 3), setterCall "name" .null]

/-- Calls of the same setters, in another order and with other repetitions. -/
def overwrittenSetters : List SetterCall :=
  [setterCall "name" .null, setterCall "age" (.int 4), setterCall "age" (.int 5),
    setterCall "age" (.int 3)]

/-- How the rows of a table are updated by either of them. -/
def ageUpdate : Statement where
  sql := "UPDATE \"users\" SET \"name\" = NULL, \"age\" = $1"
  binds := [.int 3]

/-- An executor that changes seven rows at a time. -/
def sevenRows : Executor Unit Unit Unit where
  dialect := .postgres
  fetchAll := fun _ => .ok []
  fetchCount := fun _ => .ok 0
  execute := fun _ => .ok 7
  preload? := none

/-- Both sequences end in the same two assignments, `NULL` stays where the first call put its column,
and the calls of one setter decide the value of its column; the executor is asked for one update, and
without a call the update fails. -/
theorem repeatedSetters_determine_assignments :
    let s := Scope.ofTable "users"
    let u := (Updater.ofScope s).callAll repeatedSetters
    SameSetters repeatedSetters overwrittenSetters ∧
      (Updater.ofScope s).callAll overwrittenSetters = u ∧
      u.assignments = [("name", .null), ("age", .int 3)] ∧
      [setterCall "age" (.int 3)].filter (·.column = "age")
        = repeatedSetters.filter (·.column = "age") ∧
      ((Updater.ofScope s).callAll [setterCall "age" (.int 3)]).assignments.lookup "age"
        = u.assignments.lookup "age" ∧
      (u.updateNum sevenRows).result ≠ .error (.render .emptyUpdate) ∧
      u.updateNum sevenRows
        = ⟨[.execute ageUpdate],
            [.wholeTable .update "users", .running .update ageUpdate.sql 1], .ok 7⟩ ∧
      (Updater.ofScope s).updateNum sevenRows = ⟨[], [], .error (.render .emptyUpdate)⟩ := by
  intro s u
  have hvalues : ∀ column,
      lastValue? column overwrittenSetters = lastValue? column repeatedSetters := by
    intro column
    by_cases hname : column = "name"
    · subst hname
      rfl
    · by_cases hage : column = "age"
      · subst hage
        rfl
      · have hother : ∀ calls : List SetterCall,
            (∀ c ∈ calls, c.column = "name" ∨ c.column = "age") →
              lastValue? column calls = none := by
          intro calls hcalls
          have hnone : calls.filter (·.column = column) = [] := by
            rw [List.filter_eq_nil_iff]
            intro c hc
            rcases hcalls c hc with h | h <;> simp [h, Ne.symm hname, Ne.symm hage]
          rw [lastValue?, hnone]
          rfl
        rw [hother overwrittenSetters (by decide), hother repeatedSetters (by decide)]
  have hsame : SameSetters repeatedSetters overwrittenSetters := ⟨by decide, hvalues⟩
  obtain ⟨-, hequal, hown, hempty⟩ := setters_determine_assignments s repeatedSetters
  have hfilter : [setterCall "age" (.int 3)].filter (·.column = "age")
      = repeatedSetters.filter (·.column = "age") := rfl
  obtain ⟨hfails, -, -, -, hasked⟩ := hempty sevenRows
  have hassignments : u.assignments = [("name", .null), ("age", .int 3)] := rfl
  have hst : Statement.update .postgres (Scope.ofTable "users")
      [("name", .null), ("age", .int 3)] = .ok ageUpdate := by rfl
  refine ⟨hsame, (hequal _ hsame).1, hassignments, hfilter, hown "age" _ hfilter, ?_,
    (hasked ageUpdate (hassignments ▸ hst)).1, ?_⟩
  · rw [Ne, hfails]
    exact nofun
  · exact (((setters_determine_assignments s []).2.2.2 sevenRows).2.2.1 rfl).1

end QueryChain
