/-
# Written code

Code is a sequence of words: names, operators, delimiters and literals.  It is printed with one
space between two words; a literal text is a word that is printed in quotes, and an operator can
run into the word behind it.
-/
import QueryChain.Text.Quoted
import QueryChain.Text.Split

namespace QueryChain

/-- A word of code; a joint one has no space behind it. -/
inductive Word where
  | plain (spelling : String)
  | joint (spelling : String)
  | text (value : String)
  deriving DecidableEq, Repr

/-- The spelling of a word. -/
def Word.print : Word → String
  | plain spelling | joint spelling => spelling
  | text value => quoted value

/-- A sequence of words. -/
abbrev Code := List Word

/-- Words given as one text with spaces between them. -/
def words (text : String) : Code :=
  (runsBetween (· == ' ') text).map fun word => .plain (String.ofList word)

namespace Code

/-- A single word. -/
def name (spelling : String) : Code := [.plain spelling]

/-- A literal text. -/
def literal (value : String) : Code := [.text value]

/-- Code in parentheses. -/
def parens (inner : Code) : Code := .plain "(" :: inner ++ [.plain ")"]

/-- Code in square brackets. -/
def brackets (inner : Code) : Code := .plain "[" :: inner ++ [.plain "]"]

/-- Code in braces. -/
def braces (inner : Code) : Code := .plain "\x7b" :: inner ++ [.plain "\x7d"]

/-- Code in angle brackets. -/
def angles (inner : Code) : Code := .plain "<" :: inner ++ [.plain ">"]

/-- Pieces of code with commas between them. -/
def commaSeparated (pieces : List Code) : Code :=
  (pieces.intersperse [.plain ","]).flatten

/-- The spellings of the words, each joint one together with the word behind it. -/
def spellings : Code → List String
  | [] => []
  | .joint spelling :: rest =>
      match spellings rest with
      | [] => [spelling]
      | next :: others => (spelling ++ next) :: others
  | word :: rest => word.print :: spellings rest

/-- The printed code. -/
def print (code : Code) : String :=
  " ".intercalate code.spellings

end Code

end QueryChain
