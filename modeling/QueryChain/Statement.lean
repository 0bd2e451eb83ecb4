/-
# Statements

A statement is a text with placeholders and the values for them in order.  The text is written
once from left to right: whenever a value is met, it joins the binds, and its number is its place
among them.  An absent value and an empty list are written as `NULL` and bind nothing.
-/
import QueryChain.Scope

namespace QueryChain

/-- A text with the values for its placeholders. -/
structure Statement where
  sql : String
  binds : List Value
  deriving Repr

/-! ## Errors -/

/-- Why a scope cannot be written as a statement. -/
inductive RenderError where
  /-- A clause has another number of question marks than of values. -/
  | bindMismatch (sql : String) (markers args : Nat)
  /-- An update assigns no column. -/
  | emptyUpdate
  deriving DecidableEq, Repr

/-- The wording of an error. -/
def RenderError.message : RenderError → String
  | bindMismatch sql markers args =>
      "clause `" ++ sql ++ "` has " ++ toString markers ++ " placeholder(s) but "
        ++ toString args ++ " bind(s)"
  | emptyUpdate => "update has no assignments"

/-! ## Drafts -/

/-- A statement that is being written. -/
structure Draft where
  sql : String
  binds : Array Value
  deriving Repr

namespace Draft

/-- Nothing written yet. -/
def empty : Draft := ⟨"", #[]⟩

/-- Adds text. -/
def write (d : Draft) (text : String) : Draft :=
  { d with sql := d.sql ++ text }

/-- Adds a bind, and its placeholder to the text. -/
def bind (dialect : Dialect) (d : Draft) (v : Value) : Draft :=
  let index := d.binds.size + 1
  let placeholder :=
    match v with
    | .numeric _ => dialect.numericPlaceholder index
    | _ => dialect.placeholder index
  ⟨d.sql ++ placeholder, d.binds.push v⟩

mutual

/-- Adds a value: lists are flattened, and what stands for no value is written as `NULL`. -/
def writeValue (dialect : Dialect) (d : Draft) : Value → Draft
  | .null => d.write "NULL"
  | .list [] => d.write "NULL"
  | .list (item :: items) => writeItems dialect (writeValue dialect d item) items
  | v => d.bind dialect v

/-- Adds the further elements of a list, each behind a comma. -/
def writeItems (dialect : Dialect) (d : Draft) : List Value → Draft
  | [] => d
  | item :: items => writeItems dialect (writeValue dialect (d.write ", ") item) items

end

/-- Adds text with each question mark replaced by the next value. -/
def writeMarked (dialect : Dialect) (d : Draft) : List Char → List Value → Draft
  | [], _ => d
  | c :: text, args =>
      if c = '?' then
        match args with
        | [] => writeMarked dialect d text []
        | arg :: args => writeMarked dialect (d.writeValue dialect arg) text args
      else writeMarked dialect (d.write (String.singleton c)) text args

/-- Adds a clause, if it has as many values as question marks. -/
def writeClause (dialect : Dialect) (d : Draft) (c : Clause) : Except RenderError Draft :=
  let text := (c.sql dialect).toList
  let markers := text.count '?'
  if markers = c.args.length then .ok (d.writeMarked dialect text c.args)
  else .error (.bindMismatch (c.sql dialect) markers c.args.length)

/-- Adds a clause in parentheses. -/
def writeGroup (dialect : Dialect) (d : Draft) (c : Clause) : Except RenderError Draft := do
  let d ← (d.write "(").writeClause dialect c
  return d.write ")"

/-- Adds further clauses, each in parentheses behind `AND`. -/
def writeGroups (dialect : Dialect) (d : Draft) : List Clause → Except RenderError Draft
  | [] => .ok d
  | c :: clauses => do
      let d ← (d.write " AND ").writeGroup dialect c
      writeGroups dialect d clauses

/-- Adds the conditions.  A single clause stands alone; several are joined as whole clauses,
each in its parentheses. -/
def writeWhere (dialect : Dialect) (d : Draft) : List Clause → Except RenderError Draft
  | [] => .ok d
  | [c] => (d.write " WHERE ").writeClause dialect c
  | c :: clauses => do
      let d ← (d.write " WHERE ").writeGroup dialect c
      writeGroups dialect d clauses

/-- Adds one assignment. -/
def writeAssignment (dialect : Dialect) (d : Draft) (column : String) (v : Value) : Draft :=
  (d.write (dialect.quoteIdent column ++ " = ")).writeValue dialect v

/-- Adds further assignments, each behind a comma. -/
def writeAssignments (dialect : Dialect) (d : Draft) : List (String × Value) → Draft
  | [] => d
  | (column, v) :: rest =>
      writeAssignments dialect ((d.write ", ").writeAssignment dialect column v) rest

/-- The finished statement. -/
def finish (d : Draft) : Statement :=
  ⟨d.sql, d.binds.toList⟩

end Draft

/-! ## Plain parts -/

/-- The selected columns, all of them when none is named. -/
def selectedColumns (dialect : Dialect) (columns : List String) : String :=
  if columns.isEmpty then "*" else ", ".intercalate (columns.map dialect.quoteIdent)

/-- The terms to order by. -/
def orderText (dialect : Dialect) (orders : List Order) : String :=
  if orders.isEmpty then "" else " ORDER BY " ++ ", ".intercalate (orders.map (·.sql dialect))

/-- Limit and offset. -/
def paginationText (dialect : Dialect) : Option Nat → Option Nat → String
  | some limit, some offset => " LIMIT " ++ toString limit ++ " OFFSET " ++ toString offset
  | some limit, none => " LIMIT " ++ toString limit
  | none, some offset =>
      match dialect.unboundedLimit with
      | some unbounded => " LIMIT " ++ unbounded ++ " OFFSET " ++ toString offset
      | none => " OFFSET " ++ toString offset
  | none, none => ""

/-! ## The four statements -/

namespace Statement

/-- Reads the rows of a scope.  A limit given here takes the place of the scope's own. -/
def select (dialect : Dialect) (s : Scope) (columns : List String) (limit : Option Nat) :
    Except RenderError Statement := do
  let start :=
    "SELECT " ++ selectedColumns dialect columns ++ " FROM " ++ dialect.quoteIdent s.table
  let d ← (Draft.empty.write start).writeWhere dialect s.conditions
  return ((d.write (orderText dialect s.orders)).write
    (paginationText dialect (limit.or s.limit) s.offset)).finish

/-- Counts the rows of a scope; order and pagination do not matter. -/
def count (dialect : Dialect) (s : Scope) : Except RenderError Statement := do
  let start := "SELECT COUNT(*) FROM " ++ dialect.quoteIdent s.table
  let d ← (Draft.empty.write start).writeWhere dialect s.conditions
  return d.finish

/-- Deletes the rows of a scope; order and pagination do not matter. -/
def delete (dialect : Dialect) (s : Scope) : Except RenderError Statement := do
  let start := "DELETE FROM " ++ dialect.quoteIdent s.table
  let d ← (Draft.empty.write start).writeWhere dialect s.conditions
  return d.finish

/-- Assigns columns in the rows of a scope; the assigned values are bound before those of the
conditions. -/
def update (dialect : Dialect) (s : Scope) :
    (assignments : List (String × Value)) → Except RenderError Statement
  | [] => .error .emptyUpdate
  | (column, v) :: rest => do
      let start := "UPDATE " ++ dialect.quoteIdent s.table ++ " SET "
      let d := (Draft.empty.write start).writeAssignment dialect column v
      let d ← (d.writeAssignments dialect rest).writeWhere dialect s.conditions
      return d.finish

end Statement

end QueryChain
