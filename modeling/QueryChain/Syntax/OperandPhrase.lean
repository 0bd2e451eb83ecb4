/-
# Reading operands

An operand is an expression without operators between its parts: what it starts with, the calls,
members and the like behind that, and the signs and attributes in front.
-/
import QueryChain.Syntax.ControlPhrase
import QueryChain.Token.Literal

namespace QueryChain

section

variable (below : Grammar)

/-! ## Groups -/

/-- Expressions with commas between them, up to the end of their group. -/
def readExprs : Reader (List (Code × Bool)) :=
  Reader.commas atEnd do return (← below.expr true).code

/-- The inputs of a call. -/
def readArguments : Reader Code :=
  Reader.enclosed .paren do return withCommas (← readExprs below)

/-- A tuple, or an expression in parentheses. -/
def readParenExpr : Reader Expr := do
  let parts ← Reader.group .paren (readExprs below)
  let form := match parts with
    | [(_, false)] => "paren"
    | _ => "tuple"
  return .ofForm form (Code.parens (withCommas parts))

/-- An array, by its elements or by one of them and a length. -/
def readBracketExpr : Reader Expr :=
  Reader.group .bracket do
    if atEnd (← get) then return .ofForm "array" (Code.brackets [])
    let first ← below.expr true
    let tokens ← get
    if ← Reader.take? ";" then
      let length ← below.expr true
      return .ofForm "repeat" (Code.brackets (first.code ++ Code.name ";" ++ length.code))
    else if atEnd tokens || starts "," tokens then
      let comma ← Reader.take? ","
      let rest ← if comma then readExprs below else pure []
      return .ofForm "array" (Code.brackets (withCommas ((first.code, comma) :: rest)))
    else Reader.expected "expected `,` or `;`"

/-! ## Paths, macros and structures -/

/-- A field with its value; a name can stand for both. -/
def readFieldValue : Reader Code := do
  let attrs ← readOuter below
  let (named, member) ← readMember
  if named && !starts ":" (← get) then return attrs ++ member
  let colon ← Reader.code ":"
  return attrs ++ member ++ colon ++ (← below.expr true).code

/-- The fields of a structure, at most so many; two dots take the others from elsewhere. -/
def readFieldValues : (count : Nat) → Reader Code
  | 0 => return []
  | count + 1 => do
      if atEnd (← get) then return []
      if ← Reader.take? ".." then
        let base ← if atEnd (← get) then pure [] else do pure (← below.expr true).code
        return Code.name ".." ++ base
      let field ← readFieldValue below
      if atEnd (← get) then return field
      let comma ← Reader.code ","
      return field ++ comma ++ (← readFieldValues count)

/-- A path, a macro, or a structure with named fields. -/
def readPathExpr (fields : Bool) : Reader Expr := do
  let path ← readPath below true
  let tokens ← get
  if startsMacroMark tokens && path.isPlain then
    return .ofForm "macro" (path.code ++ (← readMacroBody))
  else if fields && startsGroup .brace tokens then
    let values ← Reader.enclosed .brace do readFieldValues below ((← get).length + 1)
    return .ofForm "struct" (path.code ++ values)
  else return .ofForm "path" path.code

/-- A form that is built into the language; it is kept as it stands. -/
def readBuiltin : Reader Expr := do
  let before ← get
  Reader.skip 2
  let _ ← Reader.name
  unless startsGroup .paren (← get) do Reader.expected "expected parentheses"
  let _ ← Reader.anyGroup
  return .ofForm "verbatim" (← Reader.verbatimSince before)

/-! ## Ranges without a lower end -/

/-- Whether a range has no upper end here. -/
def endsRange (fields : Bool) (tokens : List Token) : Bool :=
  atEnd tokens || starts "." tokens && !starts ".." tokens
    || startsAny [",", ";", "?", "=>", "=", "+", "/", "%", "^", ">", "<=", "!=", "-=", "*=", "&=",
      "|=", "<<=", "as"] tokens
    || !fields && startsGroup .brace tokens

/-- The dots of a range and its upper end, which can only be missing behind two dots. -/
def readRangeRest (fields : Bool) : Reader Code := do
  let (closed, dots) ← readRangeDots
  if !closed && endsRange fields (← get) then return dots
  else return dots ++ (← below.chain .range fields).code

/-! ## Operands by their first token -/

/-- A form that starts with a keyword. -/
def readKeywordExpr (fields : Bool) : Reader Expr := do
  match nextName? (← get) with
  | some "break" => readBreak below fields
  | some "continue" => readContinue
  | some "return" => readJump below "return"
  | some "become" => readBecome below
  | some "let" => readLet below fields
  | some "if" => readIf below
  | some "while" => readWhile below
  | some "for" => readFor below
  | some "loop" => readKeywordBody below "loop" "loop"
  | some "match" => readMatch below
  | some "yield" => readJump below "yield"
  | some "unsafe" => readKeywordBody below "unsafe" "unsafe"
  | some "const" => readKeywordBody below "const" "const"
  | some "_" => return .ofForm "infer" (← Reader.code "_")
  | _ => Reader.expected "expected an expression"

/-- An operand without anything in front of it or behind it. -/
def readAtom (fields : Bool) : Reader Expr := do
  let tokens ← get
  let second := behindTree tokens
  let startsPath := startsName tokens || startsAny (["::", "<"] ++ pathWords) tokens
    || starts "try" tokens && startsAny ["!", "::"] second
  if startsLiteral tokens then readLiteral
  else if startsTask tokens then readTask below
  else if startsTry tokens then readTry below
  else if startsClosure tokens then readClosure below fields
  else if starts "builtin" tokens && starts "#" second then readBuiltin
  else if startsPath then readPathExpr below fields
  else if startsGroup .paren tokens then readParenExpr below
  else if startsGroup .bracket tokens then readBracketExpr below
  else if startsGroup .brace tokens then readPlainBlock below
  else if starts ".." tokens then return .ofForm "range" (← readRangeRest below fields)
  else if startsLifetime tokens then readLabelled below
  else readKeywordExpr below fields

/-! ## What stands behind an operand -/

/-- The number of a member among the digits of a number with points, or what is wrong with it. -/
def partNumber (part : List Char) : Except String String :=
  match readLiteral? part with
  | some (.other .int spelling, []) => memberNumber spelling
  | _ => .error "expected integer literal"

/-- The members that a number with points names one after the other. -/
def readPointedMembers (spelling : String) : Reader Code := do
  let parts := splitAtMarks (· == '.') spelling.toList
  let parts := if parts.getLast? == some [] then parts.dropLast else parts
  match parts.mapM partNumber with
  | .error message => Reader.complain message
  | .ok numbers =>
      Reader.skip 1
      return ((numbers.map Code.name).intersperse (Code.name ".")).flatten

/-- A member by its name or number, or a method with its inputs. -/
def readNamedMember : Reader (String × Code) := do
  let (named, member) ← readMember
  let args ←
    if named && starts "::" (← get) then do
      Reader.take "::"
      pure (PathArgs.angled true (← readAngled below)).code
    else pure []
  if named && (!args.isEmpty || startsGroup .paren (← get)) then
    return ("method_call", member ++ args ++ (← readArguments below))
  else return ("field", member)

/-- What stands behind a point: members, a method with its inputs, or a wait. -/
def readBehindPoint : Reader (String × Code) := do
  let start ← Reader.code "."
  match ← get with
  | ⟨.literal (.other .float spelling), _⟩ :: _ =>
      let members ← readPointedMembers spelling
      if spelling.endsWith "." then
        let (form, member) ←
          if ← Reader.take? "await" then pure ("await", Code.name "await")
          else readNamedMember below
        return (form, start ++ members ++ Code.name "." ++ member)
      else return ("field", start ++ members)
  | _ =>
      if ← Reader.take? "await" then return ("await", start ++ Code.name "await")
      let (form, member) ← readNamedMember below
      return (form, start ++ member)

/-- Whether a member comes next, and not the dots of a range. -/
def startsPoint (tokens : List Token) : Bool :=
  starts "." tokens && !starts ".." tokens

/-- Whether calls, members and the like come next. -/
def startsTrailer (tokens : List Token) : Bool :=
  startsGroup .paren tokens || startsGroup .bracket tokens || starts "?" tokens
    || startsPoint tokens

/-- One call, index, member or test for failure. -/
def readTrailer : Reader (String × Code) := do
  let tokens ← get
  if startsGroup .paren tokens then return ("call", ← readArguments below)
  else if startsGroup .bracket tokens then
    return ("index", ← Reader.enclosed .bracket do return (← below.expr true).code)
  else if ← Reader.take? "?" then return ("try", Code.name "?")
  else readBehindPoint below

/-- An expression with everything that stands behind it; nothing can stand behind a range. -/
def readTrailers (e : Expr) : Reader Expr := do
  if e.hasForm "range" then return e
  let trailers ← Reader.repeatWhile startsTrailer (readTrailer below)
  match trailers.getLast? with
  | none => return e
  | some (form, _) => return .ofForm form (e.code ++ trailers.flatMap (·.2))

/-! ## What stands in front of an operand -/

/-- The mark of a reference or of an address. -/
def readReferenceMark : Reader (String × Code) := do
  let mark ← Reader.code "&"
  let tokens ← get
  if starts "raw" tokens && startsAny ["mut", "const"] (tokens.drop 1) then
    return ("unknown", mark ++ words "raw" ++ Code.name (← do Reader.skip 1; Reader.anyName))
  else return ("reference", mark ++ (← Reader.code? "mut"))

/-- An operand with the signs and attributes in front of it. -/
def readOperand (fields : Bool) : Reader Expr := do
  let before ← get
  let attrs ← readOuter below
  let tokens ← get
  if starts "&" tokens then
    let (form, mark) ← readReferenceMark
    return .ofForm form (attrs ++ mark ++ (← below.operand fields).code)
  else if startsAny ["*", "!", "-"] tokens then
    let sign := ["*", "!", "-"].find? (starts · tokens)
    let mark ← Reader.code (sign.getD "-")
    return .ofForm "unary" (attrs ++ mark ++ (← below.operand fields).code)
  else
    let e ← readTrailers below (← readAtom below fields)
    if attrs.isEmpty then return e
    else if e.hasForm "verbatim" then return { e with code := ← Reader.verbatimSince before }
    else if e.hasForm "range" then
      let span := (tokens.head?.bind fun first =>
        (tokens.drop (if starts "..=" tokens then 2 else 1)).head?.map (first.span.to ·.span))
      throw ⟨"attributes are not allowed on range expressions starting with `..`", span⟩
    else return e.behind attrs

end

end QueryChain
