/-
# Reading patterns
-/
import QueryChain.Syntax.Bound

namespace QueryChain

/-! ## Numbers of members -/

/-- The value of a whole number's digits, and what stands behind them. -/
def splitNumber (base value : Nat) : List Char → Nat × List Char
  | [] => (value, [])
  | c :: rest =>
      if c = '_' then splitNumber base value rest
      else
        match hexDigit? c with
        | some digit =>
            if digit < base then splitNumber base (value * base + digit) rest
            else (value, c :: rest)
        | none => (value, c :: rest)

/-- The value and the suffix of a whole number as it is spelled. -/
def numberOf : List Char → Nat × List Char
  | '0' :: 'x' :: rest => splitNumber 16 0 rest
  | '0' :: 'o' :: rest => splitNumber 8 0 rest
  | '0' :: 'b' :: rest => splitNumber 2 0 rest
  | spelling => splitNumber 10 0 spelling

/-- The number of a member, or what is wrong with it. -/
def memberNumber (spelling : String) : Except String String :=
  let (value, suffix) := numberOf spelling.toList
  if !suffix.isEmpty then .error "expected unsuffixed integer"
  else if value < Nat.pow 2 32 then .ok (toString value)
  else .error "number too large to fit in target type"

/-- A member of a structure: whether it has a name, and the word for it. -/
def readMember : Reader (Bool × Code) := do
  let tokens ← get
  let complaint : Reader (Bool × Code) := Reader.expected "expected identifier or integer"
  if startsName tokens then return (true, Code.name (← Reader.name))
  else
    match tokens with
    | ⟨.literal (.other .int spelling), _⟩ :: rest =>
        match memberNumber spelling with
        | .error message => Reader.complain message
        | .ok number =>
            set rest
            return (false, Code.name number)
    | ⟨.punct '-' _, sign⟩ :: ⟨.literal (.other .int spelling), number⟩ :: _ =>
        let (_, suffix) := numberOf spelling.toList
        let message :=
          if suffix.isEmpty then "invalid digit found in string" else "expected unsuffixed integer"
        throw ⟨message, some (sign.to number)⟩
    | _ => complaint

/-! ## Ranges -/

/-- Two or three dots between the ends of a range: whether the upper end belongs to it. -/
def readRangeDots : Reader (Bool × Code) := do
  let tokens ← get
  if starts "..=" tokens then return (true, ← Reader.code "..=")
  else if starts "..." tokens then Reader.expectedOneOf [ticked "..="]
  else if starts ".." tokens then return (false, ← Reader.code "..")
  else Reader.expectedOneOf [ticked ".."]

/-- Dots between the ends of a range in a pattern, where three of them are allowed. -/
def readPatternDots : Reader (Bool × Code) := do
  if ← Reader.take? "..." then return (true, Code.name "..=") else readRangeDots

/-- Whether a range in a pattern has no upper end here. -/
def endsPatternRange (tokens : List Token) : Bool :=
  atEnd tokens || startsAny ["|", "=", ",", ";", "if"] tokens
    || starts ":" tokens && !starts "::" tokens

section

variable (below : Grammar)

/-- An end of a range: a literal, a path or a block. -/
def readRangeEnd : Reader Code := do
  let tokens ← get
  if startsLiteral tokens then return (← readLiteral).code
  else if startsName tokens || startsAny (["::", "<"] ++ pathWords) tokens then
    return (← readPath below true).code
  else if starts "const" tokens then
    return (← Reader.code "const") ++ (← readBody below)
  else
    Reader.expectedOneOf (["literal", "identifier"]
      ++ ["::", "<", "self", "Self", "super", "crate", "const"].map ticked)

/-- The upper end of a range, which can only be missing behind two dots. -/
def readUpperEnd (closed : Bool) : Reader Code := do
  if endsPatternRange (← get) then
    if closed then Reader.expected "expected range upper bound" else return []
  else readRangeEnd below

/-- A range behind its lower end. -/
def readRangeFrom (lower : Code) : Reader Pattern := do
  let ((closed, dots), span) ← Reader.spanned readPatternDots
  let upper ← readUpperEnd below closed
  return ⟨if upper.isEmpty then .openRange span else .other, lower ++ dots ++ upper⟩

/-- A range without a lower end, or the rest of a sequence. -/
def readRangeTo : Reader Pattern := do
  let ((closed, dots), span) ← Reader.spanned readRangeDots
  let upper ← readUpperEnd below closed
  return ⟨if upper.isEmpty then .rest else .openRange span, dots ++ upper⟩

/-! ## Alternatives -/

/-- Whether a bar between two alternatives comes next. -/
def startsBar (tokens : List Token) : Bool :=
  starts "|" tokens && !startsAny ["||", "|="] tokens

/-- Alternatives with bars between them, and perhaps one in front. -/
def readAlternatives : Reader Pattern := do
  let bar ← Reader.code? "|"
  let first ← below.pattern
  let further ← Reader.many startsBar do
    return (← Reader.code "|") ++ (← below.pattern).code
  return if bar.isEmpty && further.isEmpty then first
    else ⟨.other, bar ++ first.code ++ further⟩

/-! ## Patterns with parts -/

/-- Patterns up to the end of their group. -/
def readParts : Reader Code :=
  Reader.commaCode do return (← readAlternatives below).code

/-- A field of a structure: a member with a pattern, or a name that is bound. -/
def readFieldPattern : Reader Code := do
  let before ← get
  let boxed ← Reader.take? "box"
  let access := (← Reader.code? "ref") ++ (← Reader.code? "mut")
  if boxed || !access.isEmpty then
    let name ← Reader.name
    if boxed then Reader.verbatimSince before else return access ++ Code.name name
  else
    let (named, member) ← readMember
    if named && !starts ":" (← get) then return member
    let colon ← Reader.code ":"
    return member ++ colon ++ (← readAlternatives below).code

/-- The fields of a structure, at most so many; two dots leave out the others. -/
def readFieldPatterns : (count : Nat) → Reader Code
  | 0 => return []
  | count + 1 => do
      if atEnd (← get) then return []
      let attrs ← readOuter below
      if starts ".." (← get) then return attrs ++ (← Reader.code "..")
      let field ← readFieldPattern below
      if atEnd (← get) then return attrs ++ field
      let comma ← Reader.code ","
      return attrs ++ field ++ comma ++ (← readFieldPatterns count)

/-- A pattern that starts with a path: a macro, a structure, a range or the path itself. -/
def readPathPattern : Reader Pattern := do
  let path ← readPath below true
  let tokens ← get
  if startsMacroMark tokens && path.isPlain then
    return ⟨.other, path.code ++ (← readMacroBody)⟩
  else if startsGroup .brace tokens then
    let fields ← Reader.enclosed .brace do readFieldPatterns below ((← get).length + 1)
    return ⟨.other, path.code ++ fields⟩
  else if startsGroup .paren tokens then
    return ⟨.other, path.code ++ (← Reader.enclosed .paren (readParts below))⟩
  else if starts ".." tokens then readRangeFrom below path.code
  else return ⟨.other, path.code⟩

/-- A part of a sequence.  A range with one end has to stand in parentheses there. -/
def readElement : Reader Code := do
  let element ← readAlternatives below
  match element.form with
  | .openRange dots =>
      throw ⟨"range pattern is not allowed unparenthesized inside slice pattern", dots⟩
  | _ => return element.code

/-- A name that is bound, perhaps to what another pattern describes. -/
def readBinding : Reader Pattern := do
  let access := (← Reader.code? "ref") ++ (← Reader.code? "mut")
  let name ← if starts "self" (← get) then Reader.anyName else Reader.name
  let behind ←
    if ← Reader.take? "@" then do pure (Code.name "@" ++ (← below.pattern).code)
    else pure []
  return ⟨.other, access ++ Code.name name ++ behind⟩

/-! ## Patterns by their first token -/

/-- Whether a pattern that starts with a path comes next, and not a name that is bound. -/
def startsPathPattern (tokens : List Token) : Bool :=
  let second := tokens.drop 1
  let leads := starts "::" second || starts "!" second || startsGroup .brace second
    || startsGroup .paren second || starts ".." second
  startsName tokens && leads || starts "self" tokens && starts "::" second
    || startsAny ["::", "<", "Self", "super", "crate"] tokens

/-- What a pattern can start with; two dots are not named where three of them come next. -/
def patternStarts (dots : Bool) : List String :=
  ["identifier", ticked "::", ticked "<", ticked "_", "literal", ticked "const", ticked "ref",
   ticked "mut", ticked "&", "parentheses", "square brackets"]
    ++ (if dots then [] else [ticked ".."]) ++ [ticked "const"]

/-- A pattern without alternatives. -/
def readPattern : Reader Pattern := do
  let tokens ← get
  if startsPathPattern tokens then readPathPattern below
  else if starts "_" tokens then return ⟨.other, ← Reader.code "_"⟩
  else if starts "box" tokens then
    Reader.skip 1
    let _ ← below.pattern
    return ⟨.verbatim, ← Reader.verbatimSince tokens⟩
  else if startsAny ["-", "const"] tokens || startsLiteral tokens then
    let lower ← readRangeEnd below
    if starts ".." (← get) then readRangeFrom below lower else return ⟨.other, lower⟩
  else if startsAny ["ref", "mut", "self"] tokens || startsName tokens then readBinding below
  else if starts "&" tokens then
    let start := (← Reader.code "&") ++ (← Reader.code? "mut")
    return ⟨.other, start ++ (← below.pattern).code⟩
  else if startsGroup .paren tokens then
    return ⟨.other, ← Reader.enclosed .paren (readParts below)⟩
  else if startsGroup .bracket tokens then
    return ⟨.other, ← Reader.enclosed .bracket (Reader.commaCode (readElement below))⟩
  else if starts ".." tokens && !starts "..." tokens then readRangeTo below
  else Reader.expectedOneOf (patternStarts (starts ".." tokens))

end

end QueryChain
