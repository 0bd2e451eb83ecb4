/-
# Options of fields

A field is marked with keys in attributes: it can be skipped, loaded as a relation, compared by
size, or given a column name of its own.
-/
import QueryChain.Item
import QueryChain.Model.Diagnostic

namespace QueryChain

/-! ## Keys -/

/-- A key of a field. -/
inductive FieldKey where
  | skip
  | preload
  | ordered
  | column (name : String)
  deriving DecidableEq, Repr

/-- What the keys of a field ask for. -/
structure FieldOptions where
  skip : Bool := false
  preload : Bool := false
  ordered : Bool := false
  column : Option String := none
  deriving DecidableEq, Repr

/-- Takes one key into account; of several column names the last one holds. -/
def FieldOptions.add (o : FieldOptions) : FieldKey → FieldOptions
  | .skip => { o with skip := true }
  | .preload => { o with preload := true }
  | .ordered => { o with ordered := true }
  | .column name => { o with column := some name }

/-- A relation has no column. -/
def FieldOptions.isContradictory (o : FieldOptions) : Bool :=
  o.preload && o.column.isSome

/-! ## Reading keys -/

/-- Complains about the next token of a key, or that there is none. -/
def keyExpected {α : Type} (tokens : List Token) (message : String) : Except Diagnostic α :=
  let text := if atEnd tokens then "unexpected end of input, " ++ message else message
  .error ⟨.malformed text, tokens.head?.map (·.span)⟩

/-- Complains about the next token. -/
def keyMissing {α : Type} (tokens : List Token) (message : String) : Except Diagnostic α :=
  .error ⟨.malformed message, tokens.head?.map (·.span)⟩

/-- The further names of a key, each behind `::`: how many there are, the place of the last
token, and the tokens behind them. -/
def readKeyNames (count : Nat) (last : Span) :
    List Token → Except Diagnostic (Nat × Span × List Token)
  | ⟨.punct ':' true, _⟩ :: ⟨.punct ':' _, _⟩ :: ⟨.ident _, span⟩ :: rest =>
      readKeyNames (count + 1) span rest
  | ⟨.punct ':' true, _⟩ :: ⟨.punct ':' _, _⟩ :: rest => keyExpected rest "expected ident"
  | tokens => .ok (count, last, tokens)

/-- A key's name: its single word if that is what it is, its place, and the tokens behind. -/
def readKeyName (tokens : List Token) : Except Diagnostic (Option String × Span × List Token) :=
  let absolute := starts "::" tokens
  match if absolute then tokens.drop 2 else tokens with
  | ⟨.ident name, span⟩ :: rest => do
      let (further, last, rest) ← readKeyNames 0 span rest
      return (if absolute || further ≠ 0 then none else some name, span.to last, rest)
  | ⟨.literal value, span⟩ :: rest =>
      keyExpected (⟨.literal value, span⟩ :: rest)
        "unexpected literal in nested attribute, expected ident"
  | tokens =>
      if atEnd tokens then keyExpected tokens "expected nested attribute"
      else if startsLiteral tokens then
        keyExpected tokens "unexpected literal in nested attribute, expected ident"
      else keyExpected tokens "unexpected token in nested attribute, expected ident"

/-- The value of the key for a column, behind its name. -/
def readColumn (place : Span) (tokens : List Token) : Except Diagnostic (FieldKey × List Token) :=
  match tokens with
  | ⟨.punct '=' _, _⟩ :: ⟨.literal (.text name), span⟩ :: rest =>
      if name.isEmpty then .error ⟨.emptyColumn, some (place.to span)⟩
      else .ok (.column name, rest)
  | ⟨.punct '=' _, _⟩ :: rest => keyExpected rest "expected string literal"
  | tokens => keyMissing tokens "expected `=`"

/-- One key and the tokens behind it. -/
def readKey (tokens : List Token) : Except Diagnostic (FieldKey × List Token) := do
  let (name, place, rest) ← readKeyName tokens
  match name with
  | some "skip" => return (.skip, rest)
  | some "preload" => return (.preload, rest)
  | some "ordered" => return (.ordered, rest)
  | some "column" => readColumn place rest
  | _ => .error ⟨.unknownFieldKey, some place⟩

/-- At most so many keys, with commas between them; a comma may follow the last. -/
def readKeys : (count : Nat) → List Token → Except Diagnostic (List FieldKey)
  | 0, _ => .ok []
  | count + 1, tokens => do
      if atEnd tokens then return []
      let (key, rest) ← readKey tokens
      if atEnd rest then return [key]
      match rest with
      | ⟨.punct ',' _, _⟩ :: rest => return key :: (← readKeys count rest)
      | _ => keyMissing rest "expected `,`"

/-! ## Options from attributes -/

/-- The keys of an attribute. -/
def Attribute.fieldKeys (a : Attribute) : Except Diagnostic (List FieldKey) :=
  match a.body with
  | .bare => .error ⟨.missingList, some a.pathSpan⟩
  | .value equals .. => .error ⟨.valueForList, some equals⟩
  | .list content closing => readKeys (content.length + 1) (content ++ [closing])

/-- Takes the keys of one attribute into account. -/
def FieldOptions.merge (o : FieldOptions) (a : Attribute) : Except Diagnostic FieldOptions := do
  let merged := (← a.fieldKeys).foldl FieldOptions.add o
  if merged.isContradictory then .error ⟨.preloadWithColumn, some a.span⟩
  else return merged

/-- The options of a field; its first bad attribute decides. -/
def FieldOptions.ofAttributes (attrs : List Attribute) : Except Diagnostic FieldOptions :=
  (attrs.filter (·.path.isWord "queryset")).foldlM FieldOptions.merge {}

end QueryChain
