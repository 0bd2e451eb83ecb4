/-
# Reading control flow

Expressions that start with a keyword: branches, loops, jumps, and functions without a name.
-/
import QueryChain.Syntax.PatternPhrase

namespace QueryChain

/-! ## Looking ahead -/

/-- Whether an expression can start here, as an operand that a keyword may go without. -/
def startsExpr (tokens : List Token) : Bool :=
  let alone (spelling : String) (longer : List String) : Bool :=
    starts spelling tokens && !startsAny longer tokens
  startsAnyName tokens && !starts "as" tokens
    || startsGroup .paren tokens || startsGroup .bracket tokens || startsGroup .brace tokens
    || startsLiteral tokens || startsLifetime tokens || startsAny ["..", "::", "#"] tokens
    || alone "!" ["!="] || alone "-" ["-=", "->"] || alone "*" ["*="] || alone "|" ["|="]
    || alone "&" ["&="] || alone "<" ["<=", "<<="]

/-- Whether parameters that hold for a function without a name come next, and not a loop. -/
def startsClosureBinder (tokens : List Token) : Bool :=
  let second := tokens.drop 1
  let third := second.drop 1
  starts "for" tokens && starts "<" second && (startsLifetime third || starts ">" third)

/-- Whether a function without a name starts here. -/
def startsClosure (tokens : List Token) : Bool :=
  let second := behindTree tokens
  startsAny ["|", "move", "static"] tokens || startsClosureBinder tokens
    || starts "const" tokens && !startsGroup .brace second
    || starts "async" tokens && startsAny ["|", "move"] second

/-- Whether a block starts here that is waited for. -/
def startsTask (tokens : List Token) : Bool :=
  let second := behindTree tokens
  starts "async" tokens
    && (startsGroup .brace second
      || starts "move" second && startsGroup .brace (behindTree second))

/-- Whether a block starts here that ends at its first failure. -/
def startsTry (tokens : List Token) : Bool :=
  starts "try" tokens && startsGroup .brace (tokens.drop 1)

section

variable (below : Grammar)

/-! ## Branches -/

/-- A condition, and a block, and what is done otherwise; at most so many conditions. -/
def readBranches : (count : Nat) → Reader Code
  | 0 => Reader.complain "nested too deeply"
  | count + 1 => do
      let start ← Reader.code "if"
      let condition ← below.expr false
      let block ← readBlock below
      let branch := start ++ condition.code ++ block
      unless ← Reader.take? "else" do return branch
      let tokens ← get
      let otherwise ←
        if starts "if" tokens then readBranches count
        else if startsGroup .brace tokens then readBlock below
        else Reader.expectedOneOf [ticked "if", "curly braces"]
      return branch ++ Code.name "else" ++ otherwise

/-- A choice between blocks by conditions. -/
def readIf : Reader Expr := do
  return .ofForm "if" (← readBranches below (← get).length)

/-- Forms of expressions that end with a block. -/
def blockForms : List String :=
  ["if", "match", "block", "unsafe", "while", "loop", "for_loop", "try_block", "const"]

/-- Whether the expression ends with its block, so that nothing has to stand behind it. -/
def endsWithBlock (e : Expr) : Bool :=
  blockForms.any e.hasForm

/-- Whether code ends with a closing brace. -/
def endsWithBrace (code : Code) : Bool :=
  code.getLast? == some (Lexeme.closing .brace).word

/-- One case of a choice by patterns. -/
def readArm : Reader Code := do
  let attrs ← readOuter below
  let pattern ← readAlternatives below
  let guard ←
    if ← Reader.take? "if" then do pure (Code.name "if" ++ (← below.expr true).code)
    else pure []
  let arrow ← Reader.code "=>"
  let body ← below.leadingExpr
  let comma ←
    if endsWithBlock body || atEnd (← get) then Reader.code? "," else Reader.code ","
  return attrs ++ pattern.code ++ guard ++ arrow ++ body.code ++ comma

/-- A choice by patterns. -/
def readMatch : Reader Expr := do
  let start ← Reader.code "match"
  let value ← below.expr false
  let arms ← Reader.enclosed .brace do
    let inner ← readInner below
    return inner ++ (← Reader.many (!atEnd ·) (readArm below))
  return .ofForm "match" (start ++ value.code ++ arms)

/-- A pattern that a value is tested against. -/
def readLet (fields : Bool) : Reader Expr := do
  let start ← Reader.code "let"
  let pattern ← readAlternatives below
  let equals ← Reader.code "="
  let value ← below.chain .pattern fields
  return .ofForm "let" (start ++ pattern.code ++ equals ++ value.code)

/-! ## Loops and blocks -/

/-- A loop with a condition. -/
def readWhile : Reader Expr := do
  let start ← Reader.code "while"
  let condition ← below.expr false
  return .ofForm "while" (start ++ condition.code ++ (← readBody below))

/-- A loop over a sequence. -/
def readFor : Reader Expr := do
  let start ← Reader.code "for"
  let pattern ← readAlternatives below
  let mark ← Reader.code "in"
  let sequence ← below.expr false
  return .ofForm "for_loop"
    (start ++ pattern.code ++ mark ++ sequence.code ++ (← readBody below))

/-- A keyword with a block behind it. -/
def readKeywordBody (form keyword : String) : Reader Expr := do
  return .ofForm form ((← Reader.code keyword) ++ (← readBody below))

/-- A block by itself. -/
def readPlainBlock : Reader Expr := do
  return .ofForm "block" (← readBody below)

/-- A block that is waited for. -/
def readTask : Reader Expr := do
  let start := (← Reader.code "async") ++ (← Reader.code? "move")
  return .ofForm "async" (start ++ (← readBlock below))

/-- A block that ends at its first failure. -/
def readTry : Reader Expr := do
  return .ofForm "try_block" ((← Reader.code "try") ++ (← readBlock below))

/-- A loop or a block with a label. -/
def readLabelled : Reader Expr := do
  let label := (← Reader.lifetime) ++ (← Reader.code ":")
  let tokens ← get
  let e ←
    if starts "while" tokens then readWhile below
    else if starts "for" tokens then readFor below
    else if starts "loop" tokens then readKeywordBody below "loop" "loop"
    else if startsGroup .brace tokens then readPlainBlock below
    else Reader.expected "expected loop or block expression"
  return e.behind label

/-! ## Jumps -/

/-- An operand that a keyword may go without. -/
def readOptionalExpr : Reader Code := do
  if startsExpr (← get) then return (← below.expr true).code else return []

/-- A label, if one comes next. -/
def readTarget : Reader Code := do
  if startsLifetime (← get) then Reader.lifetime else return []

/-- Leaves a loop, perhaps with a value.  A value with a label of its own has to stand in
parentheses. -/
def readBreak (fields : Bool) : Reader Expr := do
  let start ← Reader.code "break"
  let tokens ← get
  if startsLifetime tokens && starts ":" (tokens.drop 2) then
    let (_, span) ← Reader.spanned (below.expr true)
    throw ⟨"parentheses required", span⟩
  let target ← readTarget
  let value ←
    if !fields && startsGroup .brace (← get) then pure [] else readOptionalExpr below
  return .ofForm "break" (start ++ target ++ value)

/-- Goes on with a loop. -/
def readContinue : Reader Expr := do
  return .ofForm "continue" ((← Reader.code "continue") ++ (← readTarget))

/-- A keyword with an operand that it may go without. -/
def readJump (keyword : String) : Reader Expr := do
  return .ofForm keyword ((← Reader.code keyword) ++ (← readOptionalExpr below))

/-- A call that takes the place of the function it stands in; it is kept as it stands. -/
def readBecome : Reader Expr := do
  let before ← get
  Reader.take "become"
  let _ ← below.expr true
  return .ofForm "verbatim" (← Reader.verbatimSince before)

/-! ## Functions without a name -/

/-- One input, perhaps with its type.  Attributes of a pattern that is kept as it stands are
lost. -/
def readClosureInput : Reader Code := do
  let attrs ← readOuter below
  let pattern ← below.pattern
  if ← Reader.take? ":" then
    return attrs ++ pattern.code ++ Code.name ":" ++ (← below.type true).code
  else if pattern.form == .verbatim then return pattern.code
  else return attrs ++ pattern.code

/-- A function without a name.  Its body is a block if its output is given. -/
def readClosure (fields : Bool) : Reader Expr := do
  let binder ← readBinder below
  let marks := (← Reader.code? "const") ++ (← Reader.code? "static") ++ (← Reader.code? "async")
    ++ (← Reader.code? "move")
  let bar ← Reader.code "|"
  let inputs ← Reader.commas (starts "|") (readClosureInput below)
  let start := binder ++ marks ++ bar ++ withCommas inputs ++ (← Reader.code "|")
  let output ← readOutput below true
  let body ←
    if output.isEmpty then do pure (← below.expr fields).code else readBlock below
  return .ofForm "closure" (start ++ output ++ body)

end

end QueryChain
