/-
# Bounds

What a type can be held to: lifetimes, traits with the inputs and the output of a function, and
lists of what is captured.
-/
import QueryChain.Syntax.Parameters

namespace QueryChain

section

variable (below : Grammar)

/-! ## Functions -/

/-- The output of a function, if one is given. -/
def readOutput (plus : Bool) : Reader Code := do
  unless starts "->" (← get) do return []
  return (← Reader.code "->") ++ (← below.type plus).code

/-- The inputs and the output of a function trait. -/
def readFunctionArgs : Reader Code := do
  let inputs ← Reader.enclosed .paren
    (Reader.commaCode do return (← below.type true).code)
  return inputs ++ (← readOutput below false)

/-- Whether a name's arguments leave room for the inputs of a function. -/
def PathArgs.isEmpty : PathArgs → Bool
  | none => true
  | angled _ args => args.isEmpty
  | function _ => false

/-- A path in a bound, which can end with the inputs of a function.  They may stand behind `::`,
which is not kept. -/
def readBoundPath : Reader Path := do
  let path ← readPlainPath below false
  let tokens ← get
  let behindColons := starts "::" tokens && startsGroup .paren (tokens.drop 2)
  match path.segments.getLast? with
  | some last =>
      if last.args.isEmpty && (startsGroup .paren tokens || behindColons) then
        let _ ← Reader.take? "::"
        let args ← readFunctionArgs below
        let segments := path.segments.dropLast ++ [⟨last.name, .function args⟩]
        return { path with segments }
      else return path
  | none => return path

/-! ## Traits -/

/-- Complains about a mark for constant use where it is not allowed; otherwise tells whether
there is one. -/
def readConstantMark (rules : BoundRules) : Reader Bool := do
  let tokens ← get
  let span := treeSpan? tokens
  let spelling ←
    if startsGroup .bracket tokens then do
      Reader.group .bracket (Reader.take "const")
      pure (some "[const]")
    else if ← Reader.take? "const" then pure (some "const")
    else pure none
  match spelling with
  | none => return false
  | some spelling =>
      unless rules.constant do throw ⟨ticked spelling ++ " is not allowed here", span⟩
      return true

/-- A trait that a type is held to, and whether it is for constant use. -/
def readTrait (rules : BoundRules) : Reader (Bool × Code) := do
  let binder ← readBinder below
  let constant ← readConstantMark rules
  let mark := (← get).head?.map (·.span)
  let maybe ← Reader.code? "?"
  let inner ← if maybe.isEmpty || !binder.isEmpty then pure [] else readBinder below
  let path ← readBoundPath below
  unless maybe.isEmpty || binder.isEmpty && inner.isEmpty do
    throw ⟨"`for<...>` binder not allowed with `?` trait polarity modifier", mark⟩
  return (constant, maybe ++ binder ++ path.code)

/-! ## Captures -/

/-- One captured parameter. -/
def readCaptured : Reader Parameter := do
  let tokens ← get
  if startsLifetime tokens then return ⟨true, ← Reader.lifetime⟩
  else if startsName tokens || starts "Self" tokens then
    return ⟨false, Code.name (← Reader.anyName)⟩
  else Reader.expectedOneOf ["lifetime", "identifier", ticked ">"]

/-- Captured parameters up to the closing angle bracket, at most so many. -/
def readCapturesAtMost : (count : Nat) → Reader (List (Parameter × Bool))
  | 0 => return []
  | count + 1 => do
      if starts ">" (← get) then return []
      let param ← readCaptured
      let tokens ← get
      if starts ">" tokens then return [(param, false)]
      unless starts "," tokens do Reader.expectedOneOf [ticked ",", ticked ">"]
      Reader.take ","
      return (param, true) :: (← readCapturesAtMost count)

/-- A list of what is captured. -/
def readCaptures : Reader Code := do
  let start ← Reader.code "use"
  Reader.take "<"
  let params := lifetimesFirst Parameter.isLifetime (← readCapturesAtMost ((← get).length + 1))
  Reader.take ">"
  return start ++ Code.angles (parametersCode params)

/-! ## Bounds -/

/-- A single bound; a trait may stand in parentheses.  A trait for constant use is kept as it
stands. -/
def readBound (rules : BoundRules) : Reader Bound := do
  let before ← get
  if startsLifetime before then return ⟨.lifetime, ← Reader.lifetime⟩
  else if starts "use" before then
    let (captures, span) ← Reader.spanned readCaptures
    unless rules.captures do
      throw ⟨"`use<...>` precise capturing syntax is not allowed here", span⟩
    return ⟨.capture, captures⟩
  else
    let (constant, code) ←
      if startsGroup .paren before then do
        let (constant, code) ← Reader.group .paren (readTrait below rules)
        pure (constant, Code.parens code)
      else readTrait below rules
    if constant then return ⟨.trait, ← Reader.verbatimSince before⟩ else return ⟨.trait, code⟩

/-- Whether a bound can start here. -/
def startsBound (rules : BoundRules) (tokens : List Token) : Bool :=
  startsAnyName tokens || startsAny ["::", "?"] tokens || startsLifetime tokens
    || startsGroup .paren tokens || rules.constant && startsGroup .bracket tokens

/-- Further bounds, each behind `+`; a `+` with no bound behind it ends them. -/
def readFurtherBounds (rules : BoundRules) : (count : Nat) → Reader (List Bound × Bool)
  | 0 => return ([], false)
  | count + 1 => do
      unless ← Reader.take? "+" do return ([], false)
      if startsBound rules (← get) then
        let bound ← readBound below rules
        let (bounds, plus) ← readFurtherBounds rules count
        return (bound :: bounds, plus)
      else return ([], true)

/-- The words of bounds behind a first one, and of a `+` at the end. -/
def furtherCode (bounds : List Bound) (plus : Bool) : Code :=
  bounds.flatMap (fun bound => Code.name "+" ++ bound.code)
    ++ if plus then Code.name "+" else []

/-- The words of further bounds, each behind `+`, at most so many. -/
def readPlusBounds (rules : BoundRules) (plus : Bool) : Reader Code := do
  unless plus do return []
  let (bounds, plus) ← readFurtherBounds below rules (← get).length
  return furtherCode bounds plus

/-- Bounds that make a type; lifetimes and captures alone do not.  `start` is the place of the
word in front of them. -/
def readTraits (rules : BoundRules) (plus : Bool) (start : Option Span) (complaint : String) :
    Reader Code := do
  let before ← get
  let first ← readBound below rules
  let (further, plus) ←
    if plus then readFurtherBounds below rules before.length else pure ([], false)
  unless (first :: further).any (·.form == .trait) do
    let taken ← Reader.takenSince before
    let last := if plus then taken.dropLast else taken
    throw ⟨complaint, do return (← start).to (← last.getLast?).span⟩
  return first.code ++ furtherCode further plus

end

end QueryChain
