/-
# From text to tokens

A text is read from left to right: white space and comments are passed over, comments for
documentation become attributes, and everything else has to be a token.
-/
import QueryChain.Text.Blank
import QueryChain.Token.Literal

namespace QueryChain

/-! ## Comments -/

/-- A line without its end, and the rest from the line feed on. -/
def readLine : List Char → List Char × List Char
  | [] => ([], [])
  | c :: rest =>
      if c = '\n' then ([], c :: rest)
      else if c = '\r' ∧ rest.head? = some '\n' then ([], rest)
      else
        let (line, rest) := readLine rest
        (c :: line, rest)

/-- A comment between `/*` and `*/` from behind its start, `depth` further comments deep: its
content up to the end, and the rest behind it. -/
def readBlockComment? (depth : Nat) : List Char → Option (List Char × List Char)
  | [] | [_] => none
  | '*' :: '/' :: rest =>
      match depth with
      | 0 => some ([], rest)
      | depth + 1 =>
          (readBlockComment? depth rest).map fun (content, rest) => ('*' :: '/' :: content, rest)
  | '/' :: '*' :: rest =>
      (readBlockComment? (depth + 1) rest).map fun (content, rest) => ('/' :: '*' :: content, rest)
  | c :: next :: rest =>
      (readBlockComment? depth (next :: rest)).map fun (content, rest) => (c :: content, rest)

/-- Whether a text starts with another. -/
def startsWith (cs : List Char) (start : String) : Bool :=
  start.toList.isPrefixOf cs

/-- The rest behind a comment that is passed over, if one starts here. -/
def dropComment? (cs : List Char) : Option (List Char) :=
  if startsWith cs "//" && (!startsWith cs "///" || startsWith cs "////")
      && !startsWith cs "//!" then
    some (readLine cs).2
  else if startsWith cs "/**/" then some (cs.drop 4)
  else if startsWith cs "/*" && (!startsWith cs "/**" || startsWith cs "/***")
      && !startsWith cs "/*!" then
    (readBlockComment? 0 (cs.drop 2)).map (·.2)
  else none

/-- A comment for documentation: its text, whether it belongs to what surrounds it, and the
rest. -/
def readDoc? (cs : List Char) : Option (List Char × Bool × List Char) :=
  let line := readLine (cs.drop 3)
  let block := readBlockComment? 0 (cs.drop 2)
  if startsWith cs "//!" then some (line.1, true, line.2)
  else if startsWith cs "/*!" then block.map fun (text, rest) => (text.drop 1, true, rest)
  else if startsWith cs "////" then none
  else if startsWith cs "///" then some (line.1, false, line.2)
  else if startsWith cs "/***" then none
  else if startsWith cs "/**" then block.map fun (text, rest) => (text.drop 1, false, rest)
  else none

/-- Whether each carriage return is followed by a line feed. -/
def carriagesPaired : List Char → Bool
  | [] => true
  | c :: rest => (c ≠ '\r' || rest.head? == some '\n') && carriagesPaired rest

/-- The attribute that a comment for documentation stands for. -/
def docLexemes (text : List Char) (inner : Bool) : List Lexeme :=
  [.punct '#' false] ++ (if inner then [.punct '!' false] else [])
    ++ [.opening .bracket, .ident "doc", .punct '=' false,
        .literal (.text (String.ofList text)), .closing .bracket]

/-! ## Operators and identifiers -/

/-- The characters of operators. -/
def operatorChars : List Char :=
  "~!@#$%^&*-=+|;:,<.>/?'".toList

/-- Whether an operator character starts here; a slash that starts a comment is none. -/
def startsOperator (cs : List Char) : Bool :=
  match cs with
  | c :: _ => operatorChars.contains c && !startsWith cs "//" && !startsWith cs "/*"
  | [] => false

/-- A name, perhaps raw; a few words cannot be raw. -/
def readIdent? (cs : List Char) : Option (List Char × List Char) :=
  if startsWith cs "r#" then
    (readName? (cs.drop 2)).bind fun (name, rest) =>
      if ["_", "super", "self", "Self", "crate"].contains (String.ofList name) then none
      else some ('r' :: '#' :: name, rest)
  else readName? cs

/-- One character of an operator.  The mark of a lifetime has to stand before a name, and not
before a character that is closed by another mark. -/
def readPunct? (cs : List Char) : Option (Lexeme × List Char) :=
  if startsOperator cs then
    match cs with
    | c :: rest =>
        if c = '\x27' then
          (readIdent? rest).bind fun (_, behind) =>
            if startsWith behind "'" || startsWith behind "#" && !startsWith rest "r#" then none
            else some (.punct c true, rest)
        else some (.punct c (startsOperator rest), rest)
    | [] => none
  else none

/-- Starts of literals, which start no identifier. -/
def literalStarts : List String :=
  ["r\"", "r#\"", "r##", "b\"", "b'", "br\"", "br#", "c\"", "cr\"", "cr#"]

/-! ## Tokens -/

/-- The mark that stands for tokens that could not be read. -/
def brokenMark : String := "(/*ERROR*/)"

/-- A literal, an operator or an identifier. -/
def readLeaf? (cs : List Char) : Option (Lexeme × List Char) :=
  if startsWith cs brokenMark then
    some (.literal (.other .broken brokenMark), cs.drop brokenMark.length)
  else
    match readLiteral? cs, readPunct? cs with
    | some (value, rest), _ => some (.literal value, rest)
    | none, some found => some found
    | none, none =>
        if literalStarts.any (startsWith cs) then none
        else (readIdent? cs).map fun (name, rest) => (.ident (String.ofList name), rest)

/-- The delimiter that a character opens. -/
def opens? (c : Char) : Option Delimiter :=
  [Delimiter.paren, .bracket, .brace].find? (·.opening == c)

/-- The delimiter that a character closes. -/
def closes? (c : Char) : Option Delimiter :=
  [Delimiter.paren, .bracket, .brace].find? (·.closing == c)

/-- The lexemes at the start of a text, none for white space and comments, and the rest. -/
def readLexemes? (cs : List Char) : Option (List Lexeme × List Char) :=
  match cs with
  | [] => none
  | c :: rest =>
      if isBlank c || c == '\u200e' || c == '\u200f' then some ([], rest)
      else
        match dropComment? cs with
        | some rest => some ([], rest)
        | none =>
          match readDoc? cs with
          | some (text, inner, rest) =>
              if carriagesPaired text then some (docLexemes text inner, rest) else none
          | none =>
            let opened := if startsWith cs brokenMark then none else opens? c
            match opened, closes? c with
            | some d, _ => some ([.opening d], rest)
            | none, some d => some ([.closing d], rest)
            | none, none => (readLeaf? cs).map fun (lexeme, rest) => ([lexeme], rest)

/-- All tokens of a text.  `opened` lists the delimiters that still have to be closed, the
innermost first. -/
def scanFrom (position : Position) (opened : List Delimiter) (cs : List Char) :
    Option (List Token) :=
  match cs with
  | [] => if opened.isEmpty then some [] else none
  | c :: tail =>
      match readLexemes? (c :: tail) with
      | none => none
      | some (lexemes, rest) =>
          let taken := max 1 ((c :: tail).length - rest.length)
          let stop := ((c :: tail).take taken).foldl Position.after position
          let tokens := lexemes.map fun lexeme => ⟨lexeme, ⟨position, stop⟩⟩
          let opened? : Option (List Delimiter) :=
            match lexemes, opened with
            | [.opening d], _ => some (d :: opened)
            | [.closing d], d' :: outer => if d = d' then some outer else none
            | [.closing _], [] => none
            | _, _ => some opened
          match opened? with
          | none => none
          | some opened =>
              (scanFrom stop opened ((c :: tail).drop taken)).map (tokens ++ ·)
termination_by cs.length
decreasing_by simp only [List.length_cons, List.length_drop]; omega

/-- The tokens of a text; nothing, if it is not made of tokens with balanced delimiters.  A byte
order mark at the start is no token, but it takes its place in the first line. -/
def scan (text : String) : Option (List Token) :=
  match text.toList with
  | '\ufeff' :: rest => scanFrom ⟨1, 1⟩ [] rest
  | cs => scanFrom ⟨1, 0⟩ [] cs

end QueryChain
