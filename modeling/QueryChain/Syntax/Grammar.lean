/-
# Phrases of limited depth

Types hold types, bounds and expressions, and each of these can hold the others.  The readers of
one depth are built from those of the depth below; no phrase is deeper than it has tokens.
-/
import QueryChain.Syntax.Reader
import QueryChain.Syntax.Type

namespace QueryChain

/-! ## What phrases say of themselves -/

/-- What an expression is: a literal, a truth value, or a form that is only known by its name. -/
inductive ExprForm where
  | literal (value : Literal)
  | truth (value : Bool)
  | form (name : String)
  deriving DecidableEq, Repr

/-- An expression as far as it is read. -/
structure Expr where
  form : ExprForm
  code : Code
  deriving Repr

namespace Expr

/-- An expression of a named form. -/
def ofForm (name : String) (code : Code) : Expr := ⟨.form name, code⟩

/-- Whether the expression is of a named form. -/
def hasForm (e : Expr) (name : String) : Bool := e.form == .form name

/-- The expression with words in front of it. -/
def behind (start : Code) (e : Expr) : Expr := { e with code := start ++ e.code }

end Expr

/-- What a bound is: a lifetime, a list of what is captured, or a trait. -/
inductive BoundForm where
  | lifetime
  | capture
  | trait
  deriving DecidableEq, Repr

/-- A bound. -/
structure Bound where
  form : BoundForm
  code : Code
  deriving Repr

/-- Which bounds are allowed besides lifetimes and traits: lists of what is captured, and traits
for constant use. -/
structure BoundRules where
  captures : Bool := false
  constant : Bool := false

/-- What a pattern is, as far as that matters to what is around it: the rest of a sequence, a
range with one end, which has the place of its dots, code that is kept as it stands, or anything
else. -/
inductive PatternForm where
  | rest
  | openRange (dots : Option Span)
  | verbatim
  | other
  deriving DecidableEq, Repr

/-- A pattern. -/
structure Pattern where
  form : PatternForm
  code : Code
  deriving Repr

/-- How tightly operators hold together what is between them, from the loosest on. -/
inductive Precedence where
  | jump
  | assign
  | range
  | or
  | and
  | pattern
  | compare
  | bitOr
  | bitXor
  | bitAnd
  | shift
  | sum
  | product
  | cast
  deriving DecidableEq, Repr

/-- The place of a level in their order. -/
def Precedence.rank : Precedence → Nat
  | jump => 0
  | assign => 1
  | range => 2
  | or => 3
  | and => 4
  | pattern => 5
  | compare => 6
  | bitOr => 7
  | bitXor => 8
  | bitAnd => 9
  | shift => 10
  | sum => 11
  | product => 12
  | cast => 13

/-! ## Readers of one depth -/

/-- Readers of phrases.  A type may or may not take bounds joined by `+`.  An operand may or may
not start a group of named fields; a chain of operands takes operators above a level.  An
expression that leads a statement ends earlier than others. -/
structure Grammar where
  type : (plus : Bool) → Reader Ty
  bound : (rules : BoundRules) → Reader Bound
  pattern : Reader Pattern
  operand : (fields : Bool) → Reader Expr
  chain : (level : Precedence) → (fields : Bool) → Reader Expr
  leadingExpr : Reader Expr
  statements : Reader Code
  item : Reader Code

/-- An expression takes all operators. -/
def Grammar.expr (g : Grammar) (fields : Bool) : Reader Expr :=
  g.chain .jump fields

/-- Nothing can be read at depth zero. -/
def Grammar.empty : Grammar :=
  let tooDeep {α : Type} : Reader α := Reader.complain "nested too deeply"
  { type := fun _ => tooDeep
    bound := fun _ => tooDeep
    pattern := tooDeep
    operand := fun _ => tooDeep
    chain := fun _ _ => tooDeep
    leadingExpr := tooDeep
    statements := tooDeep
    item := tooDeep }

end QueryChain
