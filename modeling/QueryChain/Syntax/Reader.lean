/-
# Reading tokens

A reader takes tokens from the front of a list.  It stops at the first token it cannot use and
points to it; where the tokens of a group are used up, it points to the closing delimiter.  Tokens
that are left at the end of a group do not stop it: the first of them is kept in mind and is
complained about only if nothing else is wrong.
-/
import QueryChain.Token

namespace QueryChain

/-- A complaint about a token, with its place if there is one. -/
structure SyntaxError where
  message : String
  span : Option Span
  deriving DecidableEq, Repr

/-- Takes tokens from the front of a list, and keeps in mind what was left in a group. -/
abbrev Reader := StateT (List Token) (StateT (Option SyntaxError) (Except SyntaxError))

/-- A name between backticks. -/
def ticked (name : String) : String := "`" ++ name ++ "`"

/-! ## Looking ahead -/

/-- Whether the characters of an operator come next, without gaps. -/
def startsPunct : (operator : List Char) → List Token → Bool
  | [], _ => true
  | [c], ⟨.punct c' _, _⟩ :: _ => c == c'
  | c :: operator, ⟨.punct c' joint, _⟩ :: rest => c == c' && joint && startsPunct operator rest
  | _, _ => false

/-- The name that comes next, a keyword or not. -/
def nextName? : List Token → Option String
  | ⟨.ident name, _⟩ :: _ => some name
  | _ => none

/-- Whether a spelling is that of a word, and not of an operator. -/
def isWord (spelling : String) : Bool :=
  spelling.toList.head?.any fun c => c.isAlpha || c == '_'

/-- Whether a certain word or operator comes next. -/
def starts (spelling : String) (tokens : List Token) : Bool :=
  if isWord spelling then nextName? tokens == some spelling
  else startsPunct spelling.toList tokens

/-- Whether one of some words or operators comes next. -/
def startsAny (spellings : List String) (tokens : List Token) : Bool :=
  spellings.any (starts · tokens)

/-- Whether no token is left in the group. -/
def atEnd : List Token → Bool
  | [] => true
  | ⟨.closing _, _⟩ :: _ => true
  | _ => false

/-- Whether a group of the given kind comes next. -/
def startsGroup (d : Delimiter) : List Token → Bool
  | ⟨.opening d', _⟩ :: _ => d == d'
  | _ => false

/-- Whether any word comes next. -/
def startsAnyName (tokens : List Token) : Bool := (nextName? tokens).isSome

/-- Words that are no names of items, fields or types. -/
def reservedWords : List String :=
  ["_", "abstract", "as", "async", "await", "become", "box", "break", "const", "continue",
   "crate", "do", "dyn", "else", "enum", "extern", "false", "final", "fn", "for", "if", "impl",
   "in", "let", "loop", "macro", "match", "mod", "move", "mut", "override", "priv", "pub", "ref",
   "return", "Self", "self", "static", "struct", "super", "trait", "true", "try", "type",
   "typeof", "unsafe", "unsized", "use", "virtual", "where", "while", "yield"]

/-- Whether a name comes next that is not reserved. -/
def startsName (tokens : List Token) : Bool :=
  (nextName? tokens).any fun name => !reservedWords.contains name

/-- Whether a lifetime comes next. -/
def startsLifetime : List Token → Bool
  | ⟨.punct c _, _⟩ :: ⟨.ident _, _⟩ :: _ => c == '\x27'
  | _ => false

/-- Whether a literal comes next: one of its own, a truth value, or a number with a sign. -/
def startsLiteral : List Token → Bool
  | ⟨.literal _, _⟩ :: _ => true
  | ⟨.ident name, _⟩ :: _ => name == "true" || name == "false"
  | ⟨.punct '-' _, _⟩ :: ⟨.literal (.other kind _), _⟩ :: _ =>
      kind == .int || kind == .float
  | _ => false

/-- Whether a literal text comes next. -/
def startsText : List Token → Bool
  | ⟨.literal (.text _), _⟩ :: _ => true
  | _ => false

/-! ## Passing over groups -/

/-- The tokens from the closing delimiter of a group on, from behind its opening one. -/
def closingOf (depth : Nat) : List Token → List Token
  | [] => []
  | t :: rest =>
      match t.lexeme, depth with
      | .opening _, depth => closingOf (depth + 1) rest
      | .closing _, 0 => t :: rest
      | .closing _, depth + 1 => closingOf depth rest
      | _, depth => closingOf depth rest

/-- The tokens of a group, from behind its opening delimiter, without the closing one. -/
def groupTokens (tokens : List Token) : List Token :=
  tokens.take (tokens.length - (closingOf 0 tokens).length)

/-- The tokens behind a single one, behind a whole group or behind a lifetime. -/
def behindTree (tokens : List Token) : List Token :=
  match tokens with
  | [] => []
  | t :: rest =>
      match t.lexeme with
      | .opening _ => (closingOf 0 rest).drop 1
      | .closing _ => tokens
      | _ => if startsLifetime tokens then rest.drop 1 else rest

/-- The place of the token or the whole group that comes next. -/
def treeSpan? (tokens : List Token) : Option Span :=
  match tokens with
  | [] => none
  | t :: rest =>
      match t.lexeme, (closingOf 0 rest).head? with
      | .opening _, some closing => some (t.span.to closing.span)
      | _, _ => some t.span

/-- What is said where one of several things has to come next. -/
def alternatives : List String → String
  | [a] => "expected " ++ a
  | [a, b] => "expected " ++ a ++ " or " ++ b
  | names => "expected one of: " ++ ", ".intercalate names

namespace Reader

variable {α : Type}

/-! ## Complaints -/

/-- Complains about the next token. -/
def complain (message : String) : Reader α := do
  throw ⟨message, (← get).head?.map (·.span)⟩

/-- Complains about the next token, or that there is none. -/
def expected (message : String) : Reader α := do
  if atEnd (← get) then complain ("unexpected end of input, " ++ message) else complain message

/-- Complains that none of several things comes next. -/
def expectedOneOf (names : List String) : Reader α :=
  expected (alternatives names)

/-- Keeps a complaint in mind; an earlier one counts more. -/
def remember (e : SyntaxError) : Reader Unit :=
  modifyThe (Option SyntaxError) fun earlier => some (earlier.getD e)

/-! ## Taking tokens -/

/-- Passes over a number of tokens. -/
def skip (count : Nat) : Reader Unit := modify (·.drop count)

/-- Takes a word or an operator, if it comes next. -/
def take? (spelling : String) : Reader Bool := do
  if starts spelling (← get) then
    skip (if isWord spelling then 1 else spelling.length)
    return true
  else return false

/-- Takes a word or an operator. -/
def take (spelling : String) : Reader Unit := do
  unless ← take? spelling do
    let message := "expected " ++ ticked spelling
    if isWord spelling then expected message else complain message

/-- Takes a word or an operator as code. -/
def code (spelling : String) : Reader Code := do
  take spelling
  return Code.name spelling

/-- Takes a word or an operator as code, if it comes next. -/
def code? (spelling : String) : Reader Code := do
  return if ← take? spelling then Code.name spelling else []

/-- Takes any word, a keyword or not. -/
def anyName : Reader String := do
  match nextName? (← get) with
  | some name =>
      skip 1
      return name
  | none => expected "expected ident"

/-- Takes a name that is not reserved. -/
def name : Reader String := do
  match nextName? (← get) with
  | some name =>
      if reservedWords.contains name then
        complain ("expected identifier, found keyword " ++ ticked name)
      else
        skip 1
        return name
  | none => expected "expected identifier"

/-- Takes a lifetime. -/
def lifetime : Reader Code := do
  match ← get with
  | ⟨.punct '\x27' _, _⟩ :: ⟨.ident name, _⟩ :: rest =>
      set rest
      return Code.name ("'" ++ name)
  | _ => expected "expected lifetime"

/-- The tokens taken since an earlier point. -/
def takenSince (before : List Token) : Reader (List Token) := do
  return before.take (before.length - (← get).length)

/-- The tokens taken since an earlier point, as they stand. -/
def verbatimSince (before : List Token) : Reader Code := do
  return verbatim (← takenSince before)

/-- Reads and tells from where to where; tokens have to be taken. -/
def spanned (inner : Reader α) : Reader (α × Option Span) := do
  let before ← get
  let a ← inner
  let taken ← takenSince before
  return (a, do return (← taken.head?).span.to (← taken.getLast?).span)

/-- Reads, or takes nothing if that fails. -/
def attempt (inner : Reader α) : Reader (Option α) :=
  tryCatch (some <$> inner) fun _ => return none

/-! ## Groups -/

/-- What a group is called. -/
def groupName : Delimiter → String
  | .paren => "parentheses"
  | .bracket => "square brackets"
  | .brace => "curly braces"

/-- Leaves a group behind its closing delimiter. -/
def leave (d : Delimiter) : Reader Unit := do
  let tokens ← get
  unless atEnd tokens do
    remember ⟨"unexpected token, expected " ++ ticked (String.singleton d.closing),
      treeSpan? tokens⟩
  set ((closingOf 0 tokens).drop 1)

/-- Takes a group of the given kind and reads what is in it. -/
def group (d : Delimiter) (inner : Reader α) : Reader α := do
  unless startsGroup d (← get) do expected ("expected " ++ groupName d)
  skip 1
  let a ← inner
  leave d
  return a

/-- Takes a group of the given kind as code. -/
def enclosed (d : Delimiter) (inner : Reader Code) : Reader Code := do
  return d.enclose (← group d inner)

/-- Takes a whole group as it stands. -/
def anyGroup : Reader Code := do
  match ← get with
  | ⟨.opening d, _⟩ :: rest =>
      set ((closingOf 0 rest).drop 1)
      return d.enclose (verbatim (groupTokens rest))
  | _ => expected "expected delimiter"

/-! ## Repetition -/

/-- Reads as long as more is to come, at most a number of times. -/
def repeatAtMost (more : List Token → Bool) (inner : Reader α) :
    (count : Nat) → Reader (List α)
  | 0 => return []
  | count + 1 => do
      if more (← get) then
        let a ← inner
        return a :: (← repeatAtMost more inner count)
      else return []

/-- Reads as long as more is to come, where each reading takes a token. -/
def repeatWhile (more : List Token → Bool) (inner : Reader α) : Reader (List α) := do
  repeatAtMost more inner (← get).length

/-- Reads code as long as more is to come, where each reading takes a token. -/
def many (more : List Token → Bool) (inner : Reader Code) : Reader Code := do
  return (← repeatWhile more inner).flatten

/-- Reads pieces with commas between them until the end shows, at most a number of times; each
piece tells whether a comma follows it. -/
def commasAtMost (isEnd : List Token → Bool) (inner : Reader α) :
    (count : Nat) → Reader (List (α × Bool))
  | 0 => return []
  | count + 1 => do
      if isEnd (← get) then return []
      let a ← inner
      if isEnd (← get) then return [(a, false)]
      take ","
      return (a, true) :: (← commasAtMost isEnd inner count)

/-- Reads pieces with commas between them until the end shows; a comma may follow the last. -/
def commas (isEnd : List Token → Bool) (inner : Reader α) : Reader (List (α × Bool)) := do
  commasAtMost isEnd inner ((← get).length + 1)

/-- Reads pieces of code with separators between them, at most a number of times, until the end
shows or a separator is missing. -/
def joinedAtMost (isEnd : List Token → Bool) (separator : String) (inner : Reader Code) :
    (count : Nat) → Reader Code
  | 0 => return []
  | count + 1 => do
      if isEnd (← get) then return []
      let piece ← inner
      if ← take? separator then
        return piece ++ Code.name separator ++ (← joinedAtMost isEnd separator inner count)
      else return piece

/-- Reads pieces of code with separators between them until the end shows or a separator is
missing; a separator may follow the last piece. -/
def joined (isEnd : List Token → Bool) (separator : String) (inner : Reader Code) :
    Reader Code := do
  joinedAtMost isEnd separator inner ((← get).length + 1)

/-! ## Reading all tokens -/

/-- Reads tokens to their end.  Tokens that are left in a group are complained about first, then
tokens that are left outside. -/
def runAll (inner : Reader α) (tokens : List Token) : Except SyntaxError α := do
  let ((a, rest), left) ← (inner.run tokens).run none
  match left, rest with
  | some e, _ => throw e
  | none, t :: rest => throw ⟨"unexpected token", treeSpan? (t :: rest)⟩
  | none, [] => return a

end Reader

/-- Pieces of code, each with a comma behind it if it has one. -/
def withCommas (pieces : List (Code × Bool)) : Code :=
  pieces.flatMap fun (piece, comma) => piece ++ if comma then Code.name "," else []

/-- Pieces of code, up to the end of their group, with commas between them. -/
def Reader.commaCode (inner : Reader Code) : Reader Code := do
  return withCommas (← Reader.commas atEnd inner)

end QueryChain
