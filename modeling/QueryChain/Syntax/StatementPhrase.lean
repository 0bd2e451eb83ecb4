/-
# Reading statements

Blocks hold statements: names that are bound, items, macros and expressions.
-/
import QueryChain.Syntax.DeclarationPhrase

namespace QueryChain

/-! ## Looking ahead -/

/-- Whether the declaration of a constant starts here, and not a block or a function without a
name. -/
def startsConstant (tokens : List Token) : Bool :=
  let second := tokens.drop 1
  let third := behindTree second
  starts "const" tokens
    && !(startsGroup .brace second || startsAny ["static", "move", "|"] second
      || starts "async" second && !startsAny ["unsafe", "extern", "fn"] third)

/-- Whether the declaration of a static value starts here, and not a function without a name. -/
def startsStatic (tokens : List Token) : Bool :=
  let second := tokens.drop 1
  starts "static" tokens && (starts "mut" second || startsName second)

/-- Whether an item starts here. -/
def startsItem (tokens : List Token) : Bool :=
  let second := behindTree tokens
  startsAny ["pub", "extern", "use", "fn", "mod", "type", "struct", "enum", "trait", "impl",
    "macro"] tokens
    || starts "crate" tokens && !starts "::" second
    || startsStatic tokens || startsConstant tokens
    || starts "unsafe" tokens && !startsGroup .brace second
    || starts "async" tokens && startsAny ["unsafe", "extern", "fn"] second
    || starts "union" tokens && startsName second
    || starts "auto" tokens && starts "trait" second
    || starts "default" tokens && startsAny ["unsafe", "impl"] second

/-- A macro that a statement starts with: the call of one in the place of an item, or one with
braces that is a statement by itself. -/
inductive LeadingMacro where
  | item
  | braced (path : AttrPath)

/-- The macro that a statement starts with, if it starts with one; of a macro with braces the path
is taken. -/
def leadingMacro? : Reader (Option LeadingMacro) := do
  let before ← get
  let path? ← Reader.attempt readNames
  let tokens ← get
  let second := tokens.drop 1
  let third := behindTree second
  match path? with
  | some path =>
      if starts "!" tokens && startsGroup .brace second
          && !(startsPoint third || starts "?" third) then
        return some (.braced path)
      set before
      return if starts "!" tokens && (startsName second || starts "try" second) then some .item
        else none
  | none => return none

section

variable (below : Grammar)

/-! ## Statements -/

/-- Names that are bound to the parts of a value, and what is done if the value has no such
parts. -/
def readLocal : Reader Code := do
  let start ← Reader.code "let"
  let pattern ← below.pattern
  let type ←
    if ← Reader.take? ":" then do pure (Code.name ":" ++ (← below.type true).code)
    else pure []
  let value ←
    if ← Reader.take? "=" then do
      let value ← below.expr true
      let otherwise ←
        if !endsWithBrace value.code && starts "else" (← get) then do
          pure ((← Reader.code "else") ++ (← readBlock below))
        else pure []
      pure (Code.name "=" ++ value.code ++ otherwise)
    else pure []
  return start ++ pattern.code ++ type ++ value ++ (← Reader.code ";")

/-- An expression as a statement, and whether it has to be the last one. -/
def readExprStatement (attrs : Code) : Reader (Code × Bool) := do
  let chain ← readLeadingChain below
  let e := if chain.keepsAttrs then chain.expr.behind attrs else chain.expr
  if ← Reader.take? ";" then return (e.code ++ Code.name ";", false)
  let braced := e.hasForm "macro" && endsWithBrace e.code
  return (e.code, !(endsWithBlock e || braced))

/-- A statement, and whether it has to be the last one. -/
def readStatement : Reader (Code × Bool) := do
  let before ← get
  let attrs ← readOuter below
  let item : Reader (Code × Bool) := do
    let code ← Reader.orVerbatim before do return (← readItemBody below).map (attrs ++ ·)
    return (code, false)
  match ← leadingMacro? with
  | some (.braced path) =>
      let body ← readMacroBody
      return (attrs ++ path.code ++ body ++ (← Reader.code? ";"), false)
  | some .item => item
  | none =>
      let tokens ← get
      if starts "let" tokens then return (attrs ++ (← readLocal below), false)
      else if startsItem tokens then item
      else readExprStatement below attrs

/-- The statements of a block, at most so many. -/
def readStatementsAtMost : (count : Nat) → Reader Code
  | 0 => return []
  | count + 1 => do
      if ← Reader.take? ";" then
        return Code.name ";" ++ (← readStatementsAtMost count)
      if atEnd (← get) then return []
      let (code, isLast) ← readStatement below
      if atEnd (← get) then return code
      if isLast then Reader.complain "unexpected token, expected `;`"
      return code ++ (← readStatementsAtMost count)

/-- The statements of a block. -/
def readStatements : Reader Code := do
  readStatementsAtMost below ((← get).length + 1)

end

end QueryChain
