/-
# The scope of a query

A scope is what a chain of calls has asked for so far: conditions, order, relations to load and
pagination, all on one table.  It is plain data; `Statement` writes it as text.
-/
import QueryChain.Dialect
import QueryChain.Value

namespace QueryChain

/-! ## Conditions -/

/-- What a condition says.  A question mark stands for a value. -/
inductive Condition where
  | raw (sql : String)
  | column (name : String) (test : String)
  deriving DecidableEq, Repr

/-- A condition with the values for its question marks, in order. -/
structure Clause where
  condition : Condition
  args : List Value
  deriving Repr

/-- The text of a condition: a column is quoted and followed by its test. -/
def Condition.sql (dialect : Dialect) : Condition → String
  | raw sql => sql
  | column name test => dialect.quoteIdent name ++ " " ++ test

/-- The text of a clause, with its question marks still in place. -/
def Clause.sql (dialect : Dialect) (c : Clause) : String :=
  c.condition.sql dialect

/-! ## Order -/

/-- Smallest first or largest first. -/
inductive SortDirection where
  | ascending
  | descending
  deriving DecidableEq, Repr, Inhabited

/-- The keyword of a direction. -/
def SortDirection.sql : SortDirection → String
  | ascending => "ASC"
  | descending => "DESC"

/-- One term to order by. -/
inductive Order where
  | raw (sql : String)
  | column (name : String) (direction : SortDirection)
  deriving DecidableEq, Repr

/-- The text of a term: a column is quoted and followed by its direction. -/
def Order.sql (dialect : Dialect) : Order → String
  | raw sql => sql
  | column name direction => dialect.quoteIdent name ++ " " ++ direction.sql

/-! ## Scopes -/

/-- All that was asked for on one table. -/
structure Scope where
  table : String
  conditions : List Clause := []
  orders : List Order := []
  preloads : List String := []
  limit : Option Nat := none
  offset : Option Nat := none
  deriving Repr

/-- The whole table. -/
def Scope.ofTable (table : String) : Scope := { table }

/-- Whether every row of the table is meant. -/
def Scope.isUnfiltered (s : Scope) : Bool :=
  s.conditions.isEmpty

/-! ## Refinements -/

/-- One call of a chain. -/
inductive Refinement where
  | filter (clause : Clause)
  | order (order : Order)
  | preload (relation : String)
  | limit (rows : Nat)
  | offset (rows : Nat)
  deriving Repr

/-- The scope after one more call: conditions and terms are added at the end, a relation is
loaded once however often it is named, and of limits and offsets the last one holds. -/
def Scope.refine (s : Scope) : Refinement → Scope
  | .filter clause => { s with conditions := s.conditions ++ [clause] }
  | .order order => { s with orders := s.orders ++ [order] }
  | .preload relation =>
      if relation ∈ s.preloads then s else { s with preloads := s.preloads ++ [relation] }
  | .limit rows => { s with limit := some rows }
  | .offset rows => { s with offset := some rows }

/-- The scope after a chain of calls. -/
def Scope.refineAll (s : Scope) (chain : List Refinement) : Scope :=
  chain.foldl Scope.refine s

/-- No call changes the table. -/
@[simp]
theorem Scope.table_refine (s : Scope) (r : Refinement) : (s.refine r).table = s.table := by
  cases r <;> simp only [refine]
  split <;> rfl

end QueryChain
