/-
# Reading signatures

What a function is declared with: its marks, its name and parameters, its inputs and its output.
-/
import QueryChain.Syntax.PatternPhrase
import QueryChain.Syntax.TypePhrase

namespace QueryChain

/-! ## Looking ahead -/

/-- The tokens behind a word, if it comes next. -/
def dropWord (word : String) (tokens : List Token) : List Token :=
  if starts word tokens then tokens.drop 1 else tokens

/-- The tokens behind a calling convention, if one comes next. -/
def dropAbi (tokens : List Token) : List Token :=
  if starts "extern" tokens then
    let rest := tokens.drop 1
    if startsText rest then rest.drop 1 else rest
  else tokens

/-- Whether a function is declared here; `safe` tells whether it can be marked as safe. -/
def startsSignature (safe : Bool) (tokens : List Token) : Bool :=
  let marked := dropWord "async" (dropWord "const" tokens)
  let behind := if safe && starts "safe" marked then marked.drop 1 else dropWord "unsafe" marked
  starts "fn" (dropAbi behind)

/-! ## Inputs -/

/-- One input of a function, as far as its place among the others matters. -/
inductive Input where
  /-- The value that a method is called on, with the place of its name. -/
  | receiver (name : Option Span) (code : Code)
  | typed (code : Code)
  /-- Further inputs of any type and number. -/
  | variadic (code : Code)

section

variable (below : Grammar)

/-- The value that a method is called on. -/
def readReceiver : Reader Input := do
  let mark ← Reader.code? "&"
  let lifetime ←
    if !mark.isEmpty && startsLifetime (← get) then Reader.lifetime else pure []
  let access ← Reader.code? "mut"
  let place := (← get).head?.map (·.span)
  let name ← Reader.code "self"
  let type ←
    if mark.isEmpty && starts ":" (← get) then do
      Reader.take ":"
      pure (Code.name ":" ++ (← below.type true).code)
    else pure []
  return .receiver place (mark ++ lifetime ++ access ++ name ++ type)

/-- One input of a function.  A type with arguments can stand alone; the pattern is left out
then. -/
def readInput : Reader Input := do
  if ← Reader.take? "..." then return .variadic (Code.name "...")
  match ← Reader.attempt (readReceiver below) with
  | some receiver => return receiver
  | none =>
      let tokens ← get
      if startsName tokens && starts "<" (tokens.drop 1) then
        return .typed (words "_ :" ++ (← below.type true).code)
      let pattern ← below.pattern
      let start := pattern.code ++ (← Reader.code ":")
      if ← Reader.take? "..." then return .variadic (start ++ Code.name "...")
      else return .typed (start ++ (← below.type true).code)

/-- The inputs of a function, at most so many.  A receiver comes first, and there is one only. -/
def readInputs (first received : Bool) : (count : Nat) → Reader Code
  | 0 => return []
  | count + 1 => do
      if atEnd (← get) then return []
      let attrs ← readOuter below
      let input ← readInput below
      let comma : Reader Code := do if atEnd (← get) then return [] else Reader.code ","
      let further (received : Bool) (code : Code) : Reader Code := do
        let separator ← comma
        if separator.isEmpty then return attrs ++ code
        else return attrs ++ code ++ separator ++ (← readInputs false received count)
      match input with
      | .variadic code => return attrs ++ code ++ (← comma)
      | .receiver place code =>
          if received then throw ⟨"unexpected second method receiver", place⟩
          unless first do throw ⟨"unexpected method receiver", place⟩
          further true code
      | .typed code => further received code

/-- The signature of a function, and whether it is marked as safe. -/
def readSignature (safe : Bool) : Reader (Code × Bool) := do
  let start := (← Reader.code? "const") ++ (← Reader.code? "async")
  let safety ← Reader.code? "unsafe"
  let marked ← if safe && safety.isEmpty then Reader.take? "safe" else pure false
  let abi ← readAbi
  let mark ← Reader.code "fn"
  let name ← Reader.name
  let (_, generics) ← readGenerics below
  let inputs ← Reader.enclosed .paren do readInputs below true false ((← get).length + 1)
  let output ← readOutput below true
  let conditions ← readWhereCode below
  return (start ++ safety ++ abi ++ mark ++ Code.name name ++ generics ++ inputs ++ output
    ++ conditions, marked)

end

end QueryChain
