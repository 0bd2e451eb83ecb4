/-
# Names of columns, methods, arguments and constants

Everything generated for a field is named after it: its column and its methods in snake case,
arguments likewise but never by a keyword, and constants in capitals.
-/
import QueryChain.Text.Words

namespace QueryChain

/-! ## Tables -/

/-- Abbreviations that are kept together as one word.  Only those that are hardly ever anything
else belong here. -/
def initialisms : List String :=
  ["ACL", "API", "ASCII", "CPU", "CSS", "DNS", "EOF", "GUID", "HTML", "HTTP", "HTTPS", "ID", "IP",
   "JSON", "LHS", "QPS", "RAM", "RHS", "RPC", "SLA", "SMTP", "SQL", "SSH", "TCP", "TLS", "TTL",
   "UDP", "UI", "UID", "UUID", "URI", "URL", "UTF8", "VM", "XML", "XMPP", "XSRF", "XSS"]

/-- Words of the language that no argument can be named by. -/
def keywords : List String :=
  ["abstract", "as", "async", "await", "become", "box", "break", "const", "continue", "crate",
   "do", "dyn", "else", "enum", "extern", "false", "final", "fn", "for", "gen", "if", "impl",
   "in", "let", "loop", "macro", "match", "mod", "move", "mut", "override", "priv", "pub", "ref",
   "return", "self", "static", "struct", "super", "trait", "true", "try", "type", "typeof",
   "union", "unsafe", "unsized", "use", "virtual", "where", "while", "yield"]

/-- Whether the whole name is an abbreviation. -/
def isInitialism (name : String) : Bool :=
  initialisms.contains name

/-- Whether the name is a word of the language. -/
def isKeyword (name : String) : Bool :=
  keywords.contains name

/-- The letters of an identifier without the mark that lets it be a keyword. -/
def unrawChars : List Char → List Char
  | 'r' :: '#' :: rest => rest
  | cs => cs

/-- An identifier without the mark that lets it be a keyword. -/
def unraw (name : String) : String :=
  String.ofList (unrawChars name.toList)

/-! ## Abbreviations -/

/-- The letters of the abbreviations. -/
def initialismLetters : List (List Char) :=
  initialisms.map String.toList

/-- Whether a new word can start here, behind an abbreviation: at the end, at an underscore or a
digit, and at a capital that no other capital follows. -/
def endsInitialism : List Char → Bool
  | [] => true
  | c :: rest => c == '_' || c.isDigit || c.isUpper && rest.head?.all Char.isLower

/-- The number of letters of the longest abbreviation that the text starts with, if one does. -/
def initialismLength (cs : List Char) : Nat :=
  initialismLetters.foldl (fun longest word =>
    if word.isPrefixOf cs && endsInitialism (cs.drop word.length) then max longest word.length
    else longest) 0

/-- Writes each abbreviation with one capital, as if it were a word.  `inside` tells whether the
character before is a capital, and `letters` how many of an abbreviation are still to come. -/
def titleInitialisms (inside : Bool) (letters : Nat) : List Char → List Char
  | [] => []
  | c :: rest =>
      match letters with
      | letters + 1 => c.toLower :: titleInitialisms c.isUpper letters rest
      | 0 =>
          let letters := if inside then 0 else initialismLength (c :: rest)
          c :: titleInitialisms c.isUpper (letters - 1) rest

/-! ## Derived names -/

/-- Whether a character belongs to plain names in snake case. -/
def isSnakeChar (c : Char) : Bool :=
  c.isLower || c.isDigit || c == '_'

/-- The letters of a column's default name. -/
def dbNameChars (cs : List Char) : List Char :=
  let cs := unrawChars cs
  if cs.all isSnakeChar then cs else snakeCase (titleInitialisms false 0 cs)

/-- The name of a table or column by default: snake case, in which a name that is already in it
stays as it is. -/
def dbName (name : String) : String :=
  String.ofList (dbNameChars name.toList)

/-- The name of an argument: an abbreviation is one word, and a keyword gets a suffix. -/
def argName (name : String) : String :=
  let plain := unraw name
  let arg := if isInitialism plain then plain.map Char.toLower else dbName plain
  if isKeyword arg then arg ++ "_value" else arg

/-- The name of a method from an operation and a field, in either order. -/
def methodName (operation field : String) (fieldFirst : Bool) : String :=
  if fieldFirst then dbName field ++ "_" ++ operation else operation ++ "_" ++ dbName field

/-- A capital, a digit, or an underscore for everything that cannot be in a constant's name. -/
def constChar (c : Char) : Char :=
  if c.isAlphanum then c.toUpper else '_'

/-- The name of a column's constant, which does not start with a digit. -/
def constName (column : String) : String :=
  let letters := column.toList.map constChar
  if letters.head?.all Char.isDigit then String.ofList ('_' :: letters)
  else String.ofList letters

end QueryChain
