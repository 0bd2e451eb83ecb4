/-
# Events reported along the way

A chain of calls and the queries it ends in report what they do, so that a log can show it.
-/
import QueryChain.Scope

namespace QueryChain

/-- How much attention an event wants. -/
inductive Level where
  | trace
  | debug
  | warn
  deriving DecidableEq, Repr

/-- The four kinds of statement. -/
inductive StatementKind where
  | select
  | count
  | delete
  | update
  deriving DecidableEq, Repr

/-- What can be reported. -/
inductive Event where
  /-- A raw condition was added. -/
  | filtered (sql : String) (args : Nat)
  /-- A condition on a column was added. -/
  | filteredColumn (column test : String) (args : Nat)
  /-- A column was added to the order. -/
  | ordered (column : String) (direction : SortDirection)
  /-- A statement is about to be run. -/
  | running (kind : StatementKind) (sql : String) (binds : Nat)
  /-- A statement that changes rows is about to be run on the whole table. -/
  | wholeTable (kind : StatementKind) (table : String)
  /-- A relation is about to be loaded. -/
  | preloading (relation : String) (rows : Nat)
  deriving DecidableEq, Repr

/-- The name of a kind of statement. -/
def StatementKind.name : StatementKind → String
  | select => "select"
  | count => "count"
  | delete => "delete"
  | update => "update"

/-- The name of a level. -/
def Level.name : Level → String
  | trace => "TRACE"
  | debug => "DEBUG"
  | warn => "WARN"

namespace Event

/-- Calls of a chain are traced, queries are for debugging, and only a change of a whole table
asks for attention. -/
def level : Event → Level
  | filtered .. | filteredColumn .. | ordered .. => .trace
  | running .. | preloading .. => .debug
  | wholeTable .. => .warn

/-- The headline. -/
def message : Event → String
  | filtered .. => "where"
  | filteredColumn .. => "where column"
  | ordered .. => "order"
  | running kind .. => kind.name
  | wholeTable kind _ => kind.name ++ " without conditions affects every row"
  | preloading .. => "preload"

/-- The named details. -/
def details : Event → List (String × String)
  | filtered sql args => [("sql", sql), ("args", toString args)]
  | filteredColumn column test args =>
      [("column", column), ("condition", test), ("args", toString args)]
  | ordered column direction => [("column", column), ("direction", direction.sql)]
  | running _ sql binds => [("sql", sql), ("binds", toString binds)]
  | wholeTable _ table => [("table", table)]
  | preloading relation rows => [("relation", relation), ("rows", toString rows)]

end Event

/-- What a call of a chain reports: conditions, and an order by a column. -/
def Refinement.event? : Refinement → Option Event
  | .filter ⟨.raw sql, args⟩ => some (.filtered sql args.length)
  | .filter ⟨.column name test, args⟩ => some (.filteredColumn name test args.length)
  | .order (.column name direction) => some (.ordered name direction)
  | .order (.raw _) | .preload _ | .limit _ | .offset _ => none

end QueryChain
