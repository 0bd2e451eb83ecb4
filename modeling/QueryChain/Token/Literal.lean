/-
# Reading literals

Each reader takes a text from its start and returns the literal's content with the rest, or
nothing if no literal of its kind starts there.
-/
import QueryChain.Text.Identifier
import QueryChain.Token

namespace QueryChain

/-! ## Identifiers -/

/-- The name that a text starts with. -/
def readName? : List Char → Option (List Char × List Char)
  | [] => none
  | c :: rest =>
      if isIdentStart c then some (c :: rest.takeWhile isIdentPart, rest.dropWhile isIdentPart)
      else none

/-- The rest behind a literal's suffix, which is a name or nothing. -/
def dropSuffix (cs : List Char) : List Char :=
  match readName? cs with
  | some (_, rest) => rest
  | none => cs

/-! ## Escapes

An escape reader starts behind the backslash.  It returns what the escape denotes and how many
characters it takes. -/

/-- Escapes of one character. -/
def simpleEscape? (c : Char) : Option Char :=
  if c = 'n' then some '\n'
  else if c = 'r' then some '\r'
  else if c = 't' then some '\t'
  else if c = '0' then some '\x00'
  else if c = '\\' ∨ c = '\x27' ∨ c = '\x22' then some c
  else none

/-- Two hexadecimal digits, below a bound. -/
def hexEscape? (bound : Nat) : List Char → Option (Char × Nat)
  | a :: b :: _ =>
      match readHex? [a, b] with
      | some n => if n < bound then some (Char.ofNat n, 3) else none
      | none => none
  | _ => none

/-- Up to six hexadecimal digits before a closing brace, with underscores behind the first. -/
def bracedDigits? (taken count value : Nat) : List Char → Option (Char × Nat)
  | [] => none
  | c :: rest =>
      match hexDigit? c with
      | some digit =>
          if count < 6 then bracedDigits? (taken + 1) (count + 1) (value * 16 + digit) rest
          else none
      | none =>
          if count = 0 then none
          else if c = '_' then bracedDigits? (taken + 1) count value rest
          else if c = '\x7d' ∧ value.isValidChar then some (Char.ofNat value, taken + 1)
          else none

/-- A code point in braces. -/
def codePointEscape? : List Char → Option (Char × Nat)
  | c :: rest => if c = '\x7b' then bracedDigits? 2 0 0 rest else none
  | [] => none

/-- The number of blanks and line ends at the start, if something follows them. -/
def blankRun? : List Char → Option Nat
  | [] => none
  | [c] => if c = ' ' ∨ c = '\t' ∨ c = '\n' ∨ c = '\r' then none else some 0
  | c :: next :: rest =>
      if c = '\r' then
        if next = '\n' then (blankRun? rest).map (· + 2) else none
      else if c = ' ' ∨ c = '\t' ∨ c = '\n' then (blankRun? (next :: rest)).map (· + 1)
      else some 0

/-- Which escapes a literal allows besides those of one character. -/
structure EscapeRules where
  /-- The bound of two hexadecimal digits. -/
  hexBound : Nat
  /-- Whether code points are allowed. -/
  codePoints : Bool
  /-- Whether the null character can be denoted. -/
  null : Bool

/-- Reads an escape other than a line end. -/
def readEscape? (rules : EscapeRules) : List Char → Option (Char × Nat)
  | [] => none
  | c :: rest =>
      let read :=
        if c = 'x' then hexEscape? rules.hexBound rest
        else if c = 'u' then if rules.codePoints then codePointEscape? rest else none
        else (simpleEscape? c).map (·, 1)
      read.filter fun (denoted, _) => rules.null || denoted ≠ '\x00'

/-- Reads an escape in a text, where a line end and the blanks behind it denote nothing. -/
def readTextEscape? (rules : EscapeRules) : List Char → Option (List Char × Nat)
  | [] => none
  | c :: rest =>
      if c = '\n' ∨ c = '\r' then (blankRun? (c :: rest)).map ([], ·)
      else (readEscape? rules (c :: rest)).map fun (denoted, taken) => ([denoted], taken)

/-! ## Texts -/

/-- The content of a text up to its closing quote, and the rest. -/
def readContent? (rules : EscapeRules) (allowed : Char → Bool) (cs : List Char) :
    Option (List Char × List Char) :=
  match cs with
  | [] => none
  | c :: rest =>
      if c = '\x22' then some ([], rest)
      else if c = '\r' then
        match rest with
        | '\n' :: rest =>
            (readContent? rules allowed rest).map fun (content, rest) => ('\n' :: content, rest)
        | _ => none
      else if c = '\\' then
        match readTextEscape? rules rest with
        | some (denoted, taken) =>
            (readContent? rules allowed (rest.drop taken)).map fun (content, rest) =>
              (denoted ++ content, rest)
        | none => none
      else if allowed c then
        (readContent? rules allowed rest).map fun (content, rest) => (c :: content, rest)
      else none
termination_by cs.length
decreasing_by all_goals simp only [List.length_cons, List.length_drop]; omega

/-- The content of a raw text up to a quote with the given number of hashes, and the rest. -/
def readRawContent? (hashes : Nat) (allowed : Char → Bool) :
    List Char → Option (List Char × List Char)
  | [] => none
  | c :: rest =>
      if c = '\x22' ∧ (List.replicate hashes '#').isPrefixOf rest then
        some ([], rest.drop hashes)
      else if c = '\r' ∧ rest.head? ≠ some '\n' then none
      else if allowed c then
        (readRawContent? hashes allowed rest).map fun (content, rest) => (c :: content, rest)
      else none

/-- A raw text from its hashes on. -/
def readRaw? (allowed : Char → Bool) (cs : List Char) : Option (List Char × List Char) :=
  let hashes := (cs.takeWhile (· == '#')).length
  match cs.drop hashes with
  | c :: rest => if c = '\x22' ∧ hashes ≤ 255 then readRawContent? hashes allowed rest else none
  | [] => none

/-- A text, plain or raw. -/
def readText? : List Char → Option (List Char × List Char)
  | '\x22' :: rest => readContent? ⟨128, true, true⟩ (fun _ => true) rest
  | 'r' :: rest => readRaw? (fun _ => true) rest
  | _ => none

/-- A text of bytes, plain or raw. -/
def readByteText? : List Char → Option (List Char × List Char)
  | 'b' :: '\x22' :: rest => readContent? ⟨256, false, true⟩ (·.toNat < 128) rest
  | 'b' :: 'r' :: rest => readRaw? (·.toNat < 128) rest
  | _ => none

/-- A text that ends with a null character, which cannot occur in it. -/
def readCText? : List Char → Option (List Char × List Char)
  | 'c' :: '\x22' :: rest => readContent? ⟨256, true, false⟩ (· ≠ '\x00') rest
  | 'c' :: 'r' :: rest => readRaw? (· ≠ '\x00') rest
  | _ => none

/-! ## Single characters -/

/-- One character or escape and a closing quote. -/
def readQuotedChar? (rules : EscapeRules) (allowed : Char → Bool) :
    List Char → Option (List Char)
  | [] => none
  | c :: rest =>
      let behind :=
        if c = '\\' then (readEscape? rules rest).map fun (_, taken) => rest.drop taken
        else if allowed c then some rest
        else none
      match behind with
      | some ('\x27' :: rest) => some rest
      | _ => none

/-- A character in quotes. -/
def readCharLiteral? : List Char → Option (List Char)
  | '\x27' :: rest => readQuotedChar? ⟨128, true, true⟩ (fun _ => true) rest
  | _ => none

/-- A byte in quotes. -/
def readByteLiteral? : List Char → Option (List Char)
  | 'b' :: '\x27' :: rest => readQuotedChar? ⟨256, false, true⟩ (·.toNat < 128) rest
  | _ => none

/-! ## Numbers -/

/-- Whether the character can stand between the digits of a number. -/
def isDigitOrGap (c : Char) : Bool :=
  c.isDigit || c == '_'

/-- The rest behind an exponent's sign and digits; there has to be a digit. -/
def dropExponent? (signed seen : Bool) : List Char → Option (List Char)
  | [] => if seen then some [] else none
  | c :: rest =>
      if c.isDigit then dropExponent? signed true rest
      else if c = '_' then dropExponent? signed seen rest
      else if seen then some (c :: rest)
      else if (c = '+' ∨ c = '-') ∧ !signed then dropExponent? true false rest
      else none

/-- The rest behind an exponent, if one follows. -/
def dropExponentPart? : List Char → Option (List Char)
  | c :: rest => if c = 'e' ∨ c = 'E' then dropExponent? false false rest else none
  | [] => none

/-- The rest behind the digits of a number with a point or an exponent. -/
def dropFloatDigits? (cs : List Char) : Option (List Char) :=
  if cs.head?.any Char.isDigit then
    match cs.dropWhile isDigitOrGap with
    | '.' :: rest =>
        if rest.head?.any fun c => c == '.' || isIdentStart c then none
        else
          let rest := rest.dropWhile isDigitOrGap
          some ((dropExponentPart? rest).getD rest)
    | rest => dropExponentPart? rest
  else none

/-- The rest behind the digits of a whole number in a base.  A decimal digit that is too large
is an error, and every other character ends the number. -/
def dropDigits? (base : Nat) (seen : Bool) : List Char → Option (List Char)
  | [] => if seen then some [] else none
  | c :: rest =>
      match hexDigit? c with
      | some digit =>
          if digit < base then dropDigits? base true rest
          else if digit < 10 then none
          else if seen then some (c :: rest) else none
      | none =>
          if c = '_' then if seen || base ≠ 10 then dropDigits? base seen rest else none
          else if seen then some (c :: rest) else none

/-- The rest behind the digits of a whole number. -/
def dropIntDigits? : List Char → Option (List Char)
  | '0' :: 'x' :: rest => dropDigits? 16 false rest
  | '0' :: 'o' :: rest => dropDigits? 8 false rest
  | '0' :: 'b' :: rest => dropDigits? 2 false rest
  | rest => dropDigits? 10 false rest

/-- The rest behind a number's suffix, if the number ends there. -/
def endNumber? (digits : Option (List Char)) : Option (List Char) :=
  digits.bind fun rest =>
    let rest := dropSuffix rest
    if rest.head?.any isIdentPart then none else some rest

/-! ## Literals -/

/-- The literal that a text starts with, and the rest. -/
def readLiteral? (cs : List Char) : Option (Literal × List Char) :=
  let spelled (kind : LiteralKind) (rest : List Char) : Literal × List Char :=
    (.other kind (String.ofList (cs.take (cs.length - rest.length))), rest)
  match readText? cs with
  | some (content, rest) => some (.text (String.ofList content), dropSuffix rest)
  | none =>
    match readByteText? cs with
    | some (_, rest) => some (spelled .byteText (dropSuffix rest))
    | none =>
      match readCText? cs with
      | some (_, rest) => some (spelled .cText (dropSuffix rest))
      | none =>
        match readByteLiteral? cs with
        | some rest => some (spelled .byte (dropSuffix rest))
        | none =>
          match readCharLiteral? cs with
          | some rest => some (spelled .char (dropSuffix rest))
          | none =>
            match endNumber? (dropFloatDigits? cs) with
            | some rest => some (spelled .float rest)
            | none => (endNumber? (dropIntDigits? cs)).map (spelled .int)

end QueryChain
