/-
# Running a query

A scope ends in one of five queries.  Each is written as a statement and handed to an executor;
a query that reads rows decodes them and then loads the relations asked for.  A `Run` is the
outcome together with everything the executor was asked and every event reported on the way.
-/
import QueryChain.Event
import QueryChain.Statement

namespace QueryChain

/-! ## Failures -/

/-- Why a query has no result; `ε` is the executor's own kind of failure. -/
inductive QueryError (ε : Type) where
  | recordNotFound
  | backend (failure : ε)
  | decode (reason : String)
  | render (error : RenderError)
  | unsupportedPreload (relation : String)
  deriving DecidableEq, Repr

namespace QueryError

variable {ε : Type}

/-- The wording of an error, given that of the executor's failures. -/
def message (describe : ε → String) : QueryError ε → String
  | recordNotFound => "record not found"
  | backend failure => describe failure
  | decode reason => "failed to decode row: " ++ reason
  | render error => error.message
  | unsupportedPreload relation =>
      "preload of relation `" ++ relation ++ "` is not supported by this executor"

/-- Whether a row was asked for and there was none. -/
def isRecordNotFound : QueryError ε → Bool
  | recordNotFound => true
  | _ => false

/-- The executor's failure, if that is what went wrong. -/
def backend? : QueryError ε → Option ε
  | backend failure => some failure
  | _ => none

end QueryError

/-! ## Executors -/

/-- What runs statements: rows are of type `ρ`, decoded models of type `μ`, failures of type
`ε`.  An executor may know how to load a relation into models that were read, all of them at
once; it keeps their number. -/
structure Executor (ρ μ ε : Type) where
  dialect : Dialect
  fetchAll : Statement → Except ε (List ρ)
  fetchCount : Statement → Except ε Nat
  execute : Statement → Except ε Nat
  preload? : Option ((relation : String) → (models : List μ) →
    Except (QueryError ε) { loaded : List μ // loaded.length = models.length })

/-- Something an executor was asked to do. -/
inductive Call where
  | fetchAll (statement : Statement)
  | fetchCount (statement : Statement)
  | execute (statement : Statement)
  | preload (relation : String) (rows : Nat)
  deriving Repr

/-! ## Runs -/

/-- An outcome with the calls and the events that led to it, in order. -/
structure Run (ε α : Type) where
  calls : List Call
  events : List Event
  result : Except (QueryError ε) α

namespace Run

variable {ε α β : Type}

/-- Nothing happens. -/
def done (a : α) : Run ε α := ⟨[], [], .ok a⟩

/-- Nothing happens but that it fails. -/
def fail (error : QueryError ε) : Run ε α := ⟨[], [], .error error⟩

/-- What follows a failure does not happen. -/
def andThen (r : Run ε α) (next : α → Run ε β) : Run ε β :=
  match r.result with
  | .error error => ⟨r.calls, r.events, .error error⟩
  | .ok a => ⟨r.calls ++ (next a).calls, r.events ++ (next a).events, (next a).result⟩

instance : Monad (Run ε) where
  pure := done
  bind := andThen

/-- A result that needs neither the executor nor the log. -/
def ofExcept (result : Except (QueryError ε) α) : Run ε α := ⟨[], [], result⟩

/-- Reports an event. -/
def report (event : Event) : Run ε Unit := ⟨[], [event], .ok ()⟩

/-- Asks the executor, whose failure is the query's. -/
def ask (call : Call) (answer : Except ε α) : Run ε α :=
  ⟨[call], [], answer.mapError .backend⟩

end Run

/-! ## Queries -/

section Queries

variable {ρ μ ε : Type} (e : Executor ρ μ ε) (s : Scope)

/-- Decodes rows up to the first that cannot be decoded. -/
def decodeAll (decode : ρ → Except String μ) : List ρ → Except (QueryError ε) (List μ)
  | [] => .ok []
  | row :: rows =>
      match decode row with
      | .error reason => .error (.decode reason)
      | .ok model => (decodeAll decode rows).map (model :: ·)

/-- Loads one relation into all models. -/
def load (relation : String) (models : List μ) : Run ε (List μ) :=
  match e.preload? with
  | none => .fail (.unsupportedPreload relation)
  | some preload =>
      ⟨[.preload relation models.length], [], (preload relation models).map (·.val)⟩

/-- Loads relations one after the other. -/
def loadAll : (relations : List String) → (models : List μ) → Run ε (List μ)
  | [], models => .done models
  | relation :: relations, models => do
      Run.report (.preloading relation models.length)
      let models ← load e relation models
      loadAll relations models

/-- Reads and decodes all rows of a statement; without rows there is nothing to load into. -/
def fetch (decode : ρ → Except String μ) (statement : Statement) : Run ε (List μ) := do
  Run.report (.running .select statement.sql statement.binds.length)
  let rows ← Run.ask (.fetchAll statement) (e.fetchAll statement)
  let models ← Run.ofExcept (decodeAll decode rows)
  if models.isEmpty then return models else loadAll e s.preloads models

/-- The statement, or a failure to write it. -/
def rendered {α : Type} (statement : Except RenderError α) : Run ε α :=
  Run.ofExcept (statement.mapError .render)

/-- All rows of the scope. -/
def find (columns : List String) (decode : ρ → Except String μ) : Run ε (List μ) := do
  let statement ← rendered (Statement.select e.dialect s columns none)
  fetch e s decode statement

/-- The first row of the scope, asked for as the only one. -/
def first (columns : List String) (decode : ρ → Except String μ) : Run ε μ := do
  let statement ← rendered (Statement.select e.dialect s columns (some 1))
  let models ← fetch e s decode statement
  match models with
  | [] => .fail .recordNotFound
  | model :: _ => return model

/-- The number of rows in the scope. -/
def count : Run ε Nat := do
  let statement ← rendered (Statement.count e.dialect s)
  Run.report (.running .count statement.sql statement.binds.length)
  Run.ask (.fetchCount statement) (e.fetchCount statement)

/-- Runs a statement that changes rows, with a warning if that is every row of the table. -/
def change (kind : StatementKind) (statement : Statement) : Run ε Nat := do
  if s.isUnfiltered then
    Run.report (.wholeTable kind s.table)
  Run.report (.running kind statement.sql statement.binds.length)
  Run.ask (.execute statement) (e.execute statement)

/-- Deletes the rows of the scope and returns their number. -/
def delete : Run ε Nat := do
  let statement ← rendered (Statement.delete e.dialect s)
  change e s .delete statement

/-- Assigns columns in the rows of the scope and returns their number. -/
def update (assignments : List (String × Value)) : Run ε Nat := do
  let statement ← rendered (Statement.update e.dialect s assignments)
  change e s .update statement

end Queries

end QueryChain
