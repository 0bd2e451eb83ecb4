/-
# Generic parameters and conditions

The lists of parameters that items, bounds and function types begin with, and the conditions that
are put on them.
-/
import QueryChain.Syntax.Path

namespace QueryChain

/-- A parameter as code, with whether it is a lifetime. -/
structure Parameter where
  isLifetime : Bool
  code : Code

section

variable (below : Grammar)

/-! ## Bounds of a parameter -/

/-- Bounds on types joined by `+`, until the end shows or a `+` is missing. -/
def readBounds (isEnd : List Token → Bool) : Reader Code :=
  Reader.joined isEnd "+" do return (← below.bound { constant := true }).code

/-- A colon with bounds behind it, if there are any. -/
def readColonBounds (bounds : Reader Code) : Reader Code := do
  unless ← Reader.take? ":" do return []
  let bounds ← bounds
  return if bounds.isEmpty then [] else Code.name ":" ++ bounds

/-! ## One parameter -/

/-- A type as a parameter, with its bounds and what it is if it is not given. -/
def readTypeParam : Reader Parameter := do
  let name ← Reader.name
  let bounds ← readColonBounds (readBounds below (startsAny [",", ">", "="]))
  let default ←
    if ← Reader.take? "=" then do pure (Code.name "=" ++ (← below.type true).code)
    else pure []
  return ⟨false, Code.name name ++ bounds ++ default⟩

/-- A lifetime as a parameter, with the lifetimes it includes. -/
def readLifetimeParam : Reader Parameter := do
  let lifetime ← Reader.lifetime
  let bounds ← readColonBounds (Reader.joined (startsAny [",", ">"]) "+" Reader.lifetime)
  return ⟨true, lifetime ++ bounds⟩

/-- A value as a parameter, with its type and what it is if it is not given. -/
def readConstParam : Reader Parameter := do
  let start ← Reader.code "const"
  let name ← Reader.name
  let colon ← Reader.code ":"
  let ty ← below.type true
  let default ←
    if ← Reader.take? "=" then do pure (Code.name "=" ++ (← readConstArg below))
    else pure []
  return ⟨false, start ++ Code.name name ++ colon ++ ty.code ++ default⟩

/-- One parameter; `order` names the things that can come next, in the order in which they are
tried, and `gap` tells whether a parameter may go without a name. -/
def readParameter (order : List String) (gap : Bool) : Reader Parameter := do
  let attrs ← readOuter below
  let tokens ← get
  let param ←
    if startsLifetime tokens then readLifetimeParam
    else if startsName tokens then readTypeParam below
    else if starts "const" tokens then readConstParam below
    else if gap && starts "_" tokens then do pure ⟨false, ← Reader.code "_"⟩
    else Reader.expectedOneOf order
  return { param with code := attrs ++ param.code }

/-! ## Lists of parameters -/

/-- Parameters up to the closing angle bracket. -/
def readParameters (order : List String) (gap : Bool) : Reader (List (Parameter × Bool)) :=
  Reader.commas (starts ">") (readParameter below order gap)

/-- Parameters as they are written. -/
def parametersCode (params : List (Parameter × Bool)) : Code :=
  withCommas (params.map fun (param, comma) => (param.code, comma))

/-- The parameters of an item in angle brackets, if they come next: whether there are brackets,
and the words; empty brackets are not kept. -/
def readGenerics : Reader (Bool × Code) := do
  unless ← Reader.take? "<" do return (false, [])
  let params ← readParameters below ["lifetime", "identifier", ticked "const"] true
  Reader.take ">"
  let inOrder := lifetimesFirst Parameter.isLifetime params
  return (true, if params.isEmpty then [] else Code.angles (parametersCode inOrder))

/-- The parameters that a bound or a function type holds for, if it is given any; they keep their
order. -/
def readBinder : Reader Code := do
  unless starts "for" (← get) do return []
  let start ← Reader.code "for"
  Reader.take "<"
  let params ← readParameters below ["identifier", "lifetime", ticked "const"] false
  Reader.take ">"
  return start ++ Code.angles (parametersCode params)

/-- Whether parameters start here, and not a path with a type in front. -/
def startsParameters (tokens : List Token) : Bool :=
  let second := tokens.drop 1
  let third := behindTree second
  starts "<" tokens
    && (startsAny [">", "#", "const"] second
      || (startsName second || startsLifetime second)
        && (startsAny [">", ",", "="] third || starts ":" third && !starts "::" third))

/-! ## Conditions -/

/-- Whether a colon comes next that does not belong to a path. -/
def startsSingleColon (tokens : List Token) : Bool :=
  starts ":" tokens && !starts "::" tokens

/-- Whether conditions on parameters end here. -/
def endsConditions (tokens : List Token) : Bool :=
  atEnd tokens || startsGroup .brace tokens || startsAny [",", ";", "="] tokens
    || startsSingleColon tokens

/-- One condition on parameters. -/
def readCondition : Reader Code := do
  let tokens ← get
  if startsLifetime tokens && starts ":" (tokens.drop 2) then
    let lifetime ← Reader.lifetime
    let colon ← Reader.code ":"
    let isEnd (tokens : List Token) : Bool := endsConditions tokens || starts ":" tokens
    return lifetime ++ colon ++ (← Reader.joined isEnd "+" Reader.lifetime)
  else
    let binder ← readBinder below
    let ty ← below.type true
    let colon ← Reader.code ":"
    return binder ++ ty.code ++ colon ++ (← readBounds below endsConditions)

/-- Conditions on parameters, if there are any; the word for them is not kept without one. -/
def readWhere : Reader (Option Code) := do
  unless ← Reader.take? "where" do return none
  if startsParameters (← get) then
    Reader.expected "generic parameters on `where` clauses are reserved for future use"
  let conditions ← Reader.joined endsConditions "," (readCondition below)
  return some (if conditions.isEmpty then [] else Code.name "where" ++ conditions)

/-- The words of conditions, if there are any. -/
def readWhereCode : Reader Code := do
  return (← readWhere below).getD []

end

end QueryChain
