/-
# Attributes and visibility

What stands in front of items, fields and expressions: attributes, and who can see them.
-/
import QueryChain.Syntax.Grammar

namespace QueryChain

/-! ## Attributes -/

/-- The name of an attribute. -/
structure AttrPath where
  absolute : Bool
  names : List String
  deriving DecidableEq, Repr

/-- Whether the name is a single word. -/
def AttrPath.isWord (p : AttrPath) (word : String) : Bool :=
  !p.absolute && p.names == [word]

/-- The words of a name. -/
def AttrPath.code (p : AttrPath) : Code :=
  (if p.absolute then Code.name "::" else [])
    ++ ((p.names.map Code.name).intersperse (Code.name "::")).flatten

/-- What follows the name of an attribute: nothing, a group of tokens with its closing one, or a
value with the places of its equals sign and of its own. -/
inductive AttrBody where
  | bare
  | list (content : List Token) (closing : Token)
  | value (equals : Span) (value : Expr) (place : Option Span)
  deriving Repr

/-- The words behind the name of an attribute. -/
def AttrBody.code : AttrBody → Code
  | bare => []
  | list content ⟨.closing d, _⟩ => d.enclose (verbatim content)
  | list content _ => verbatim content
  | value _ v _ => Code.name "=" ++ v.code

/-- An attribute.  `span` runs from its mark to its last bracket. -/
structure Attribute where
  path : AttrPath
  pathSpan : Span
  body : AttrBody
  span : Span
  deriving Repr

/-- The words of an attribute, from its bracket on. -/
def Attribute.code (a : Attribute) : Code :=
  Code.brackets (a.path.code ++ a.body.code)

/-! ## Reading names -/

/-- Keywords that can be names in a path. -/
def pathWords : List String := ["super", "self", "Self", "crate"]

/-- Names joined by `::`, without arguments. -/
def readNames : Reader AttrPath := do
  let absolute ← Reader.take? "::"
  let isName (tokens : List Token) : Bool := startsName tokens || startsAny pathWords tokens
  let first ← if isName (← get) then Reader.anyName else Reader.name
  let rest ← Reader.repeatWhile (starts "::") do
    Reader.take "::"
    if isName (← get) then Reader.anyName
    else Reader.expected "expected path segment after `::`"
  return ⟨absolute, first :: rest⟩

/-- The name of an attribute. -/
def readAttrPath : Reader AttrPath := do
  if ← Reader.take? "unsafe" then return ⟨false, ["unsafe"]⟩ else readNames

/-! ## Reading literals -/

/-- A literal with its sign, or a truth value. -/
def readLiteral : Reader Expr := do
  let tokens ← get
  match tokens with
  | ⟨.literal value, _⟩ :: rest =>
      set rest
      return ⟨.literal value, [value.word]⟩
  | ⟨.punct '-' _, _⟩ :: ⟨.literal value, _⟩ :: rest =>
      unless startsLiteral tokens do Reader.complain "expected literal"
      set rest
      return ⟨.literal value, [.plain "-", value.word]⟩
  | ⟨.ident name, _⟩ :: rest =>
      unless startsLiteral tokens do Reader.complain "expected literal"
      set rest
      return ⟨.truth (name == "true"), Code.name name⟩
  | _ => Reader.expected "expected literal"

section

variable (below : Grammar)

/-! ## Reading attributes -/

/-- The value of an attribute.  A literal that is all there is to come is taken with its sign. -/
def readAttrValue : Reader Expr := do
  let tokens ← get
  let length := if starts "-" tokens then 2 else 1
  if startsLiteral tokens && atEnd (tokens.drop length) then readLiteral
  else if starts "#" tokens && startsGroup .bracket (tokens.drop 1) then
    Reader.complain "unexpected attribute inside of attribute"
  else below.expr true

/-- What follows the name of an attribute. -/
def readAttrBody : Reader AttrBody := do
  match ← get with
  | ⟨.opening _, _⟩ :: rest =>
      match closingOf 0 rest with
      | closing :: behind => do
          set behind
          return .list (groupTokens rest) closing
      | [] => Reader.expected "expected delimiter"
  | ⟨.punct '=' _, equals⟩ :: rest => do
      set rest
      let (value, place) ← Reader.spanned (readAttrValue below)
      return .value equals value place
  | _ => return .bare

/-- An attribute, from behind its mark. -/
def readAttribute (mark : Option Span) : Reader Attribute := do
  let ((path, body), span) ← Reader.spanned do
    Reader.group .bracket do
      return (← Reader.spanned readAttrPath, ← readAttrBody below)
  match path.2, span, mark with
  | some pathSpan, some span, some mark => return ⟨path.1, pathSpan, body, mark.to span⟩
  | _, _, _ => Reader.expected "expected square brackets"

/-- Attributes in front of something. -/
def readAttributes : Reader (List Attribute) :=
  Reader.repeatWhile (starts "#") do
    let mark := (← get).head?.map (·.span)
    Reader.take "#"
    readAttribute below mark

/-- The words of attributes in front of something. -/
def outerCode (attrs : List Attribute) : Code :=
  attrs.flatMap fun a => Code.name "#" ++ a.code

/-- Attributes in front of something, as code. -/
def readOuter : Reader Code := do
  return outerCode (← readAttributes below)

/-- Attributes at the start of a group that belong to what the group is part of. -/
def readInner : Reader Code :=
  Reader.many (fun tokens => starts "#" tokens && starts "!" (tokens.drop 1)) do
    let mark := (← get).head?.map (·.span)
    Reader.take "#"
    Reader.take "!"
    return words "# !" ++ (← readAttribute below mark).code

/-! ## Reading blocks -/

/-- Statements in braces. -/
def readBlock : Reader Code :=
  Reader.enclosed .brace below.statements

/-- Statements in braces, with attributes in front of them. -/
def readBody : Reader Code :=
  Reader.enclosed .brace do return (← readInner below) ++ (← below.statements)

end

/-! ## Reading visibility -/

/-- Who can see an item; no words if nobody else can. -/
def readVisibility : Reader Code := do
  unless ← Reader.take? "pub" do return []
  let start := Code.name "pub"
  let tokens ← get
  unless startsGroup .paren tokens do return start
  match groupTokens (tokens.drop 1) with
  | [⟨.ident name, _⟩] =>
      if ["crate", "self", "super"].contains name then
        return start ++ (← Reader.anyGroup)
      else return start
  | ⟨.ident "in", _⟩ :: _ =>
      let path ← Reader.enclosed .paren do
        return (← Reader.code "in") ++ (← readNames).code
      return start ++ path
  | _ => return start

end QueryChain
