/-
# Tokens of source text

Tokens carry the place they stand at, so that a complaint can point to it.  Operators come
character by character; each tells whether the next one follows without a gap.  Delimiters are
tokens of their own and always balanced.
-/
import QueryChain.Code

namespace QueryChain

/-! ## Places -/

/-- A place in a text: lines count from one, columns from zero in characters. -/
structure Position where
  line : Nat
  column : Nat
  deriving DecidableEq, Repr

/-- From the first character up to the place behind the last. -/
structure Span where
  start : Position
  stop : Position
  deriving DecidableEq, Repr

/-- From the start of one span to the end of another. -/
def Span.to (first last : Span) : Span := ⟨first.start, last.stop⟩

/-- The place behind a character. -/
def Position.after (p : Position) (c : Char) : Position :=
  if c = '\n' then ⟨p.line + 1, 0⟩ else ⟨p.line, p.column + 1⟩

/-! ## Tokens -/

/-- Parentheses, square brackets and braces. -/
inductive Delimiter where
  | paren
  | bracket
  | brace
  deriving DecidableEq, Repr

/-- The opening character. -/
def Delimiter.opening : Delimiter → Char
  | paren => '('
  | bracket => '['
  | brace => '\x7b'

/-- The closing character. -/
def Delimiter.closing : Delimiter → Char
  | paren => ')'
  | bracket => ']'
  | brace => '\x7d'

/-- Kinds of literals other than texts.  The last one is the mark that stands for tokens that
could not be read. -/
inductive LiteralKind where
  | byteText
  | cText
  | byte
  | char
  | int
  | float
  | broken
  deriving DecidableEq, Repr

/-- A literal: of a text the value counts, of any other its spelling. -/
inductive Literal where
  | text (value : String)
  | other (kind : LiteralKind) (spelling : String)
  deriving DecidableEq, Repr

/-- What a token is.  The name of an identifier includes the mark of a raw one. -/
inductive Lexeme where
  | ident (name : String)
  | punct (c : Char) (joint : Bool)
  | literal (value : Literal)
  | opening (d : Delimiter)
  | closing (d : Delimiter)
  deriving DecidableEq, Repr

/-- A lexeme at its place. -/
structure Token where
  lexeme : Lexeme
  span : Span
  deriving DecidableEq, Repr

/-- The word of a literal. -/
def Literal.word : Literal → Word
  | text value => .text value
  | other _ spelling => .plain spelling

/-- The word of a lexeme by itself. -/
def Lexeme.word : Lexeme → Word
  | ident name => .plain name
  | punct c _ => .plain (String.singleton c)
  | literal value => value.word
  | opening d => .plain (String.singleton d.opening)
  | closing d => .plain (String.singleton d.closing)

/-! ## Words of tokens -/

/-- The word of a lexeme among others: an operator runs into the next one if there is no gap, and
the mark of a lifetime into its name. -/
def Lexeme.wordInText : Lexeme → Word
  | punct c true => .joint (String.singleton c)
  | lexeme => lexeme.word

/-- Tokens as code just as they stand. -/
def verbatim (tokens : List Token) : Code :=
  tokens.map (·.lexeme.wordInText)

/-- Code between delimiters. -/
def Delimiter.enclose (d : Delimiter) (inner : Code) : Code :=
  (Lexeme.opening d).word :: inner ++ [(Lexeme.closing d).word]

end QueryChain
