/-
# Calls of a query builder

What a call of a chained method asks for, and how an updater collects assignments.
-/
import QueryChain.Builder.Method
import QueryChain.Query

namespace QueryChain

/-! ## Chained calls -/

/-- A call of a field's method with the values it is given. -/
inductive FieldCall where
  | compare (comparison : Comparison) (value : Value)
  | membership (membership : Membership) (first : Value) (rest : List Value)
  | presence (presence : Presence)
  | order (direction : SortDirection)
  | preload
  deriving Repr

namespace FieldCall

/-- The operation that is called. -/
def operation : FieldCall → FieldOperation
  | compare c _ => .compare c
  | membership m .. => .membership m
  | presence p => .presence p
  | order d => .order d
  | preload => .preload

/-- What the call asks for: conditions and order are about the field's column, and a relation is
loaded by the field's name.  The values of a membership test are one list, which is never
empty. -/
def refinement (f : ModelField) : FieldCall → Refinement
  | compare c value => .filter ⟨.column f.column c.test, [value]⟩
  | membership m first rest => .filter ⟨.column f.column m.test, [.list (first :: rest)]⟩
  | presence p => .filter ⟨.column f.column p.test, []⟩
  | order d => .order (.column f.column d)
  | preload => .preload f.name

end FieldCall

/-! ## Queries of a model -/

namespace Model

/-- A query over the whole table. -/
def querySet (m : Model) : Scope := .ofTable m.table

section

variable {ρ μ ε : Type} (m : Model) (e : Executor ρ μ ε) (s : Scope)

/-- Every row, with the relations that were asked for. -/
def all (decode : ρ → Except String μ) : Run ε (List μ) := find e s m.columns decode

/-- The first row. -/
def one (decode : ρ → Except String μ) : Run ε μ := first e s m.columns decode

end

end Model

/-- Runs a query that changes rows for its effect alone. -/
def Run.forget {ε : Type} (r : Run ε Nat) : Run ε Unit := do
  let _ ← r
  return ()

/-! ## Updaters -/

/-- A scope with the columns that are to be assigned, in the order of their first assignment. -/
structure Updater where
  scope : Scope
  assignments : List (String × Value)
  deriving Repr

/-- Replaces the value of a column where it stands, or adds it at the end. -/
def assign (column : String) (value : Value) : List (String × Value) → List (String × Value)
  | [] => [(column, value)]
  | (name, old) :: rest =>
      if name = column then (name, value) :: rest else (name, old) :: assign column value rest

namespace Updater

/-- Nothing is assigned yet. -/
def ofScope (s : Scope) : Updater := ⟨s, []⟩

/-- Assigns a column; the last value holds. -/
def set (u : Updater) (column : String) (value : Value) : Updater :=
  { u with assignments := assign column value u.assignments }

/-- Updates the rows of the scope and returns their number. -/
def updateNum {ρ μ ε : Type} (e : Executor ρ μ ε) (u : Updater) : Run ε Nat :=
  QueryChain.update e u.scope u.assignments

end Updater

/-- A column is assigned once it has been assigned. -/
theorem lookup_assign (column : String) (value : Value) (assignments : List (String × Value)) :
    (assign column value assignments).lookup column = some value := by
  induction assignments with
  | nil => simp [assign]
  | cons entry rest ih =>
    obtain ⟨name, old⟩ := entry
    by_cases h : name = column
    · simp [assign, h]
    · have h' : (column == name) = false := by simpa using fun e => h e.symm
      simp [assign, h, List.lookup_cons, h', ih]

end QueryChain
