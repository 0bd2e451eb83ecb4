/-
# Comparisons of a column with values

Each comparison has a name, from which methods are named, a test that follows the column in a
condition, and a phrase for documentation.
-/

namespace QueryChain

/-- A comparison of a column with one value. -/
inductive Comparison where
  | eq
  | ne
  | lt
  | lte
  | gt
  | gte
  | like
  | notLike
  deriving DecidableEq, Repr

namespace Comparison

/-- All comparisons. -/
def all : List Comparison :=
  [eq, ne, lt, lte, gt, gte, like, notLike]

/-- The name of a comparison. -/
def name : Comparison → String
  | eq => "eq"
  | ne => "ne"
  | lt => "lt"
  | lte => "lte"
  | gt => "gt"
  | gte => "gte"
  | like => "like"
  | notLike => "not_like"

/-- The text behind the column, with a question mark for the value. -/
def test : Comparison → String
  | eq => "= ?"
  | ne => "!= ?"
  | lt => "< ?"
  | lte => "<= ?"
  | gt => "> ?"
  | gte => ">= ?"
  | like => "LIKE ?"
  | notLike => "NOT LIKE ?"

/-- What holds of the column. -/
def phrase : Comparison → String
  | eq => "equals the given value"
  | ne => "differs from the given value"
  | lt => "is less than the given value"
  | lte => "is at most the given value"
  | gt => "is greater than the given value"
  | gte => "is at least the given value"
  | like => "matches the given `LIKE` pattern"
  | notLike => "does not match the given `LIKE` pattern"

/-- The comparison of a name. -/
def ofName? (name : String) : Option Comparison :=
  all.find? fun c => c.name == name

end Comparison

/-- Whether a column's value is among the given ones, or is not. -/
inductive Membership where
  | among
  | outside
  deriving DecidableEq, Repr

/-- The name of a membership test. -/
def Membership.name : Membership → String
  | among => "in"
  | outside => "not_in"

/-- The text behind the column; the list takes the place of the question mark. -/
def Membership.test : Membership → String
  | among => "IN (?)"
  | outside => "NOT IN (?)"

/-- What holds of the column. -/
def Membership.phrase : Membership → String
  | among => "is one of the given values"
  | outside => "is none of the given values"

/-- Whether a column has no value, or has one. -/
inductive Presence where
  | isAbsent
  | isPresent
  deriving DecidableEq, Repr

/-- The name of a test for presence. -/
def Presence.name : Presence → String
  | isAbsent => "is_null"
  | isPresent => "is_not_null"

/-- The text behind the column. -/
def Presence.test : Presence → String
  | isAbsent => "IS NULL"
  | isPresent => "IS NOT NULL"

end QueryChain
