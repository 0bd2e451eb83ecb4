/-
# Reading types
-/
import QueryChain.Syntax.Bound

namespace QueryChain

section

variable (below : Grammar)

/-! ## Types in parentheses -/

/-- Bounds behind a first one, each behind `+`. -/
def readSumOfBounds : Reader Code :=
  Reader.many (starts "+") do
    return (← Reader.code "+") ++ (← below.bound {}).code

/-- Whether a type in parentheses can be the first of several bounds. -/
def isSingleBound : Ty → Bool
  | .trait _ => true
  | ty => ty.isUnqualified

/-- Bounds without a word in front of them. -/
def readBareTraits : Reader Code := do
  let start := (← get).head?.map (·.span)
  readTraits below {} true start "at least one trait is required for an object type"

/-- A tuple, a type in parentheses, or bounds the first of which stands in parentheses. -/
def readParenType (plus : Bool) : Reader Ty := do
  let inner := (← get).drop 1
  if startsLifetime inner then
    return .paren (.other (← Reader.group .paren (readBareTraits below)))
  else if starts "?" inner then
    let (_, first) ← Reader.group .paren (readTrait below {})
    return .other (Code.parens first ++ (← readSumOfBounds below))
  else
    let parts ← Reader.group .paren do
      if atEnd (← get) then return []
      let first ← below.type true
      let comma ← Reader.take? ","
      let rest ← if comma then Reader.commas atEnd (below.type true) else pure []
      return (first, comma) :: rest
    match parts with
    | [(inner, false)] =>
        if plus && isSingleBound inner && starts "+" (← get) then
          return .other (Code.parens inner.code ++ (← readSumOfBounds below))
        else return .paren inner
    | parts =>
        return .other (Code.parens (withCommas (parts.map fun (ty, comma) => (ty.code, comma))))

/-- An array or a slice. -/
def readBracketType : Reader Ty := do
  return .other (← Reader.enclosed .bracket do
    let element ← below.type true
    if ← Reader.take? ";" then
      return element.code ++ Code.name ";" ++ (← below.expr true).code
    else return element.code)

/-! ## Function types -/

/-- The name of an input with the colon behind it, if one comes next. -/
def readInputName (self : Bool) : Reader Code := do
  let tokens ← get
  let isName := startsName tokens || starts "_" tokens || self && starts "self" tokens
  unless isName && starts ":" (tokens.drop 1) && !starts "::" (tokens.drop 1) do return []
  let name ← Reader.anyName
  return Code.name name ++ (← Reader.code ":")

/-- Whether a mutable `self` comes next. -/
def startsMutableSelf (tokens : List Token) : Bool :=
  starts "mut" tokens && starts "self" (tokens.drop 1)

/-- One input of a function type, which may be named.  Only the first one can be `self`, which is
kept as it stands if it is mutable; it may stand behind another name, too. -/
def readFunctionInput (first : Bool) : Reader Code := do
  let before ← get
  if first && startsMutableSelf before then
    Reader.skip 1
    let name ← readInputName true
    if name.isEmpty then Reader.take "self"
    else
      let _ ← below.type true
    Reader.verbatimSince before
  else
    let name ← readInputName first
    if first && !starts "self" before && startsMutableSelf (← get) then
      Reader.skip 2
      Reader.verbatimSince before
    else return name ++ (← below.type true).code

/-- Whether further inputs of any type and number can be given here. -/
def startsVariadic (tokens : List Token) : Bool :=
  starts "..." tokens
    || (startsName tokens || starts "_" tokens) && starts ":" (tokens.drop 1)
      && starts "..." (tokens.drop 2)

/-- The mark for further inputs, perhaps named. -/
def readVariadic : Reader Code := do
  let name ←
    if starts "..." (← get) then pure []
    else do
      let name ← Reader.anyName
      pure (Code.name name ++ (← Reader.code ":"))
  return name ++ (← Reader.code "...") ++ (← Reader.code? ",")

/-- The inputs of a function type, at most so many. -/
def readInputsAtMost (first : Bool) : (count : Nat) → Reader Code
  | 0 => return []
  | count + 1 => do
      if atEnd (← get) then return []
      let attrs ← readOuter below
      if startsVariadic (← get) then return attrs ++ (← readVariadic)
      let input ← readFunctionInput below first
      if atEnd (← get) then return attrs ++ input
      let comma ← Reader.code ","
      return attrs ++ input ++ comma ++ (← readInputsAtMost false count)

/-- A foreign calling convention, if one is named. -/
def readAbi : Reader Code := do
  unless ← Reader.take? "extern" do return []
  match ← get with
  | ⟨.literal (.text name), _⟩ :: rest => do
      set rest
      return Code.name "extern" ++ Code.literal name
  | _ => return Code.name "extern"

/-- A function type behind the parameters it holds for. -/
def readFunctionType : Reader Code := do
  let safety ← Reader.code? "unsafe"
  let abi ← readAbi
  let mark ← Reader.code "fn"
  let inputs ← Reader.enclosed .paren do readInputsAtMost below true ((← get).length + 1)
  return safety ++ abi ++ mark ++ inputs ++ (← readOutput below false)

/-! ## Types by their first token -/

/-- A type that starts with a path: the path itself, a macro, or bounds. -/
def readPathType (binder : Code) (plus : Bool) : Reader Ty := do
  let path ← readPath below false
  let tokens ← get
  if path.qualified then return path.type
  else if startsMacroMark tokens && path.isPlain then
    return .other (path.code ++ (← readMacroBody))
  else
    let further ← readPlusBounds below {} plus
    let code := binder ++ path.code ++ further
    if !further.isEmpty then return .other code
    else if binder.isEmpty then return path.type
    else return .trait code

/-- A type that a trait object stands for. -/
def readDynType (plus : Bool) : Reader Ty := do
  let before ← get
  let start ← Reader.code "dyn"
  let star ← Reader.take? "*"
  let bounds ← readTraits below {} plus (before.head?.map (·.span))
    "at least one trait is required for an object type"
  if star then return .other (← Reader.verbatimSince before) else return .other (start ++ bounds)

/-- A type of which only the traits are known. -/
def readImplType (plus : Bool) : Reader Ty := do
  let mark := (← get).head?.map (·.span)
  let start ← Reader.code "impl"
  let bounds ← readTraits below { captures := true, constant := true } plus mark
    "at least one trait must be specified"
  return .other (start ++ bounds)

/-- A pointer. -/
def readPointer : Reader Ty := do
  let star ← Reader.code "*"
  let access ←
    if starts "const" (← get) then Reader.code "const"
    else if starts "mut" (← get) then Reader.code "mut"
    else Reader.expectedOneOf [ticked "const", ticked "mut"]
  return .other (star ++ access ++ (← below.type false).code)

/-- A reference. -/
def readReference : Reader Ty := do
  let mark ← Reader.code "&"
  let lifetime ← if startsLifetime (← get) then Reader.lifetime else pure []
  let access ← Reader.code? "mut"
  return .other (mark ++ lifetime ++ access ++ (← below.type false).code)

/-- Words that a function type can start with. -/
def functionWords : List String := ["fn", "unsafe", "extern"]

/-- What can stand behind the parameters that a type holds for. -/
def behindBinder : List String :=
  "identifier" :: (functionWords ++ ["super", "self", "Self", "crate"]).map ticked

/-- What a type can start with. -/
def typeStarts : List String :=
  [ticked "for", "parentheses"] ++ functionWords.map ticked
    ++ ["identifier", ticked "::", ticked "<", ticked "dyn", "square brackets", ticked "*",
      ticked "&", ticked "!", ticked "impl", ticked "_", "lifetime"]

/-- A type. -/
def readType (plus : Bool) : Reader Ty := do
  let binder ← readBinder below
  let tokens ← get
  let startsPath := startsName tokens || startsAny pathWords tokens
  unless binder.isEmpty || startsPath || startsAny functionWords tokens do
    Reader.expectedOneOf behindBinder
  if startsGroup .paren tokens then readParenType below plus
  else if startsAny functionWords tokens then
    return .other (binder ++ (← readFunctionType below))
  else if startsPath || startsAny ["::", "<"] tokens then readPathType below binder plus
  else if starts "dyn" tokens then readDynType below plus
  else if startsGroup .bracket tokens then readBracketType below
  else if starts "*" tokens then readPointer below
  else if starts "&" tokens then readReference below
  else if starts "!" tokens then return .other (← Reader.code "!")
  else if starts "impl" tokens then readImplType below plus
  else if starts "_" tokens then return .other (← Reader.code "_")
  else if startsLifetime tokens then return .other (← readBareTraits below)
  else Reader.expectedOneOf typeStarts

end

end QueryChain
