/-
# Reading expressions

Operands are joined by operators of different levels: what stands between two operators belongs to
the one of the higher level.  An expression that leads a statement ends with its block, if it has
one.
-/
import QueryChain.Syntax.OperandPhrase

namespace QueryChain

/-! ## Operators -/

/-- Operators between two operands with their levels; longer ones come first. -/
def binaryOperators : List (String × Precedence) :=
  [("+=", .assign), ("-=", .assign), ("*=", .assign), ("/=", .assign), ("%=", .assign),
   ("^=", .assign), ("&=", .assign), ("|=", .assign), ("<<=", .assign), (">>=", .assign),
   ("&&", .and), ("||", .or), ("<<", .shift), (">>", .shift), ("==", .compare), ("<=", .compare),
   ("!=", .compare), (">=", .compare), ("+", .sum), ("-", .sum), ("*", .product),
   ("/", .product), ("%", .product), ("^", .bitXor), ("&", .bitAnd), ("|", .bitOr),
   ("<", .compare), (">", .compare)]

/-- The operator between two operands that comes next, with its level. -/
def nextOperator? (tokens : List Token) : Option (String × Precedence) :=
  binaryOperators.find? fun (op, _) => starts op tokens

/-- Whether the mark of an assignment comes next. -/
def startsAssignment (tokens : List Token) : Bool :=
  starts "=" tokens && !starts "=>" tokens

/-- The level at which an expression can go on. -/
def nextLevel (tokens : List Token) : Precedence :=
  match nextOperator? tokens with
  | some (_, level) => level
  | none =>
      if startsAssignment tokens then .assign
      else if starts ".." tokens then .range
      else if starts "as" tokens then .cast
      else .jump

/-! ## Chains of operands -/

/-- An expression that may go on: whether it compares at its outermost level, and whether
attributes in front of it are kept. -/
structure Chain where
  expr : Expr
  compares : Bool := false
  keepsAttrs : Bool := true

/-- A single operand.  One that is kept as it stands has no attributes. -/
def Chain.ofOperand (e : Expr) : Chain where
  expr := e
  keepsAttrs := !e.hasForm "verbatim"

/-- A chain with an operator and what belongs to it. -/
def Chain.append (left : Chain) (form : String) (code : Code) : Chain :=
  { left with expr := .ofForm form (left.expr.code ++ code), compares := false }

/-- What a conversion cannot be followed by, if it is. -/
def behindCast? (tokens : List Token) : Option String :=
  let second := tokens.drop 1
  let third := behindTree second
  if startsPoint tokens then
    some (if starts "await" second then ticked ".await"
      else if startsName second && (startsGroup .paren third || starts "::" third) then
        "a method call"
      else "a field access")
  else if starts "?" tokens then some (ticked "?")
  else if startsGroup .bracket tokens then some "indexing"
  else if startsGroup .paren tokens then some "a function call"
  else none

section

variable (below : Grammar)

/-- A conversion behind an operand. -/
def readCast : Reader Code := do
  let start ← Reader.code "as"
  let ty ← below.type false
  match behindCast? (← get) with
  | some what => Reader.complain ("casts cannot be followed by " ++ what)
  | none => return start ++ ty.code

mutual

/-- Goes on with a chain by operators from a level on, at most so many. -/
def readOperations (fields : Bool) (count : Nat) (lowest : Precedence) (left : Chain) :
    Reader Chain := do
  match count with
  | 0 => return left
  | count + 1 =>
      let tokens ← get
      let level := nextLevel tokens
      if left.expr.hasForm "range" || level.rank < lowest.rank || level = .jump then return left
      match nextOperator? tokens with
      | some (op, level) =>
          if level = .compare && left.compares then
            Reader.complain "comparison operators cannot be chained"
          let mark ← Reader.code op
          let right ← readRight fields count level (.ofOperand (← readOperand below fields))
          let chain := left.append "binary" (mark ++ right.expr.code)
          readOperations fields count lowest { chain with compares := level = .compare }
      | none =>
          if level = .assign then
            let mark ← Reader.code "="
            let right ← readRight fields count .assign (.ofOperand (← readOperand below fields))
            readOperations fields count lowest (left.append "assign" (mark ++ right.expr.code))
          else if level = .range then
            let rest ← readRangeRest below fields
            return { left.append "range" rest with keepsAttrs := true }
          else
            readOperations fields count lowest (left.append "cast" (← readCast below))
termination_by structural count

/-- Goes on with the right side of an operator by those that bind more tightly. -/
def readRight (fields : Bool) (count : Nat) (level : Precedence) (right : Chain) :
    Reader Chain := do
  match count with
  | 0 => return right
  | count + 1 =>
      let before ← get
      let next := nextLevel before
      if level.rank < next.rank || next = .assign && level = .assign then
        let longer ← readOperations fields count next right
        if (← get).length == before.length then return longer
        readRight fields count level longer
      else return right
termination_by structural count

end

/-- A chain of operands with operators above a level. -/
def readChain (level : Precedence) (fields : Bool) : Reader Expr := do
  let count := 2 * (← get).length + 2
  return (← readRight below fields count level (.ofOperand (← readOperand below fields))).expr

/-! ## Expressions that lead a statement -/

/-- What an expression can start with that ends with its block. -/
def readLeading? : Reader (Option Expr) := do
  let tokens ← get
  let second := tokens.drop 1
  if starts "if" tokens then return some (← readIf below)
  else if starts "while" tokens then return some (← readWhile below)
  else if starts "for" tokens && !startsClosureBinder tokens then return some (← readFor below)
  else if starts "loop" tokens then return some (← readKeywordBody below "loop" "loop")
  else if starts "match" tokens then return some (← readMatch below)
  else if startsTry tokens then return some (← readTry below)
  else if starts "unsafe" tokens then return some (← readKeywordBody below "unsafe" "unsafe")
  else if starts "const" tokens && startsGroup .brace second then
    return some (← readKeywordBody below "const" "const")
  else if startsGroup .brace tokens then return some (← readPlainBlock below)
  else if startsLifetime tokens then return some (← readLabelled below)
  else return none

/-- An expression that leads a statement, with attributes in front of it.  Behind a block only
members and tests for failure are taken. -/
def readLeadingChain : Reader Chain := do
  let attrs ← readOuter below
  let withAttrs (e : Expr) : Chain :=
    if e.hasForm "verbatim" then .ofOperand e else .ofOperand (e.behind attrs)
  let goOn (e : Expr) : Reader Chain := do
    readOperations below true (2 * (← get).length + 2) .jump (withAttrs e)
  match ← readLeading? below with
  | none => goOn (← readOperand below true)
  | some e =>
      let tokens ← get
      if starts "?" tokens || startsPoint tokens then goOn (← readTrailers below e)
      else return withAttrs e

/-- An expression that leads a statement. -/
def readLeadingExpr : Reader Expr := do
  return (← readLeadingChain below).expr

end

end QueryChain
