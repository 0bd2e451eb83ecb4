/-
# Dialects of the query language

Where the dialects differ: how a placeholder is written, how a name is quoted, and how an offset
without a limit is spelled.
-/
import QueryChain.Text.Split

namespace QueryChain

/-- The dialect that a statement is written in. -/
inductive Dialect where
  | postgres
  | mysql
  | sqlite
  deriving DecidableEq, Repr, Inhabited

namespace Dialect

/-! ## Placeholders -/

/-- Whether placeholders carry their number. -/
def isNumbered : Dialect → Bool
  | postgres => true
  | mysql | sqlite => false

/-- The placeholder of the `index`-th bind, counted from one. -/
def placeholder (d : Dialect) (index : Nat) : String :=
  if d.isNumbered then "$" ++ toString index else "?"

/-- The placeholder of a number bound as text: where binds are typed it needs a cast to be
compared as a number. -/
def numericPlaceholder (d : Dialect) (index : Nat) : String :=
  if d.isNumbered then d.placeholder index ++ "::numeric" else d.placeholder index

/-! ## Quoted names -/

/-- The character around a quoted name. -/
def quote : Dialect → Char
  | postgres | sqlite => '\x22'
  | mysql => '\x60'

/-- A name without dots in quotes, with each quote inside it written twice. -/
def quotePart (q : Char) (part : List Char) : List Char :=
  q :: part.flatMap (fun c => if c = q then [q, q] else [c]) ++ [q]

/-- The parts of a dotted path. -/
def pathParts (path : List Char) : List (List Char) :=
  splitAtMarks (· == '.') path

/-- A dotted path with each of its parts quoted by itself. -/
def quoteIdent (d : Dialect) (path : String) : String :=
  String.ofList (['.'].intercalate ((pathParts path.toList).map (quotePart d.quote)))

/-! ## Pagination -/

/-- The limit that stands for no limit, in a dialect that has no offset without one. -/
def unboundedLimit : Dialect → Option String
  | postgres => none
  | mysql => some "18446744073709551615"
  | sqlite => some "-1"

end Dialect

end QueryChain
