/-
# Settings of a type

A type is given a table and told whether rows can be updated through it, by settings in
attributes.  All settings are looked at, and everything wrong with them is reported in order.
-/
import QueryChain.Item
import QueryChain.Model.Diagnostic
import QueryChain.Syntax.ItemPhrase
import QueryChain.Text.Similarity

namespace QueryChain

/-! ## Entries -/

/-- What an entry of an attribute sets: it is a word, has a list, or has a value. -/
inductive EntryBody where
  | word
  | list (content : List Token)
  | value (value : Expr) (span : Option Span)

/-- An entry of an attribute. -/
inductive Entry where
  | literal (span : Option Span)
  | setting (name : String) (body : EntryBody) (span : Option Span)

/-- The name of a setting; keywords may be names, too. -/
def readSettingName : Reader String := do
  let first ← Reader.anyName
  let rest ← Reader.repeatWhile (starts "::") do
    Reader.take "::"
    if startsAnyName (← get) then Reader.anyName
    else Reader.expected "expected path segment after `::`"
  return "::".intercalate (first :: rest)

/-- What follows the name of a setting. -/
def readSettingBody (g : Grammar) : Reader EntryBody := do
  match ← readAttrBody g with
  | .bare => return .word
  | .list content _ => return .list content
  | .value _ value place => return .value value place

/-- One entry. -/
def readEntry (g : Grammar) : Reader Entry := do
  let tokens ← get
  let isSetTruth := startsAnyName tokens && starts "=" (tokens.drop 1)
  if startsLiteral tokens && !isSetTruth then
    let (_, span) ← Reader.spanned readLiteral
    return .literal span
  else if startsAnyName tokens then
    let ((name, body), span) ← Reader.spanned do
      return (← readSettingName, ← readSettingBody g)
    return .setting name body span
  else Reader.expected "expected identifier or literal"

/-- All entries among tokens. -/
def entriesOf (tokens : List Token) : Except Diagnostic (List Entry) :=
  match (Reader.commas atEnd (readEntry (.ofTokens tokens))).runAll tokens with
  | .ok entries => .ok (entries.map (·.1))
  | .error e => .error e.diagnostic

/-! ## Values -/

/-- What the form of an expression is called. -/
def ExprForm.name : ExprForm → String
  | .literal (.text _) => "string"
  | .literal (.other kind _) =>
      match kind with
      | .byteText => "byte string"
      | .cText => "unknown"
      | .byte => "byte"
      | .char => "char"
      | .int => "int"
      | .float => "float"
      | .broken => "verbatim"
  | .truth _ => "bool"
  | .form name => name

/-- A setting that has to be a text. -/
def textSetting (body : EntryBody) (span : Option Span) : Except Diagnostic String :=
  match body with
  | .word => .error ⟨.wrongForm .word, span⟩
  | .list content => do
      let _ ← entriesOf content
      .error ⟨.wrongForm .list, span⟩
  | .value ⟨.literal (.text text), _⟩ _ => .ok text
  | .value value place => .error ⟨.wrongType value.form.name, place⟩

/-- A setting that has to be a truth value, which may be spelled as a text; the word alone means
yes. -/
def truthSetting (body : EntryBody) (span : Option Span) : Except Diagnostic Bool :=
  match body with
  | .word => .ok true
  | .list content => do
      let _ ← entriesOf content
      .error ⟨.wrongForm .list, span⟩
  | .value ⟨.truth value, _⟩ _ => .ok value
  | .value ⟨.literal (.text text), _⟩ place =>
      if text = "true" then .ok true
      else if text = "false" then .ok false
      else .error ⟨.unknownValue text, place⟩
  | .value value place => .error ⟨.wrongType value.form.name, place⟩

/-! ## Settings -/

/-- What has been set so far; a setting that was tried counts even if its value was wrong. -/
structure Settings where
  table : Option String := none
  updater : Bool := true
  tableSeen : Bool := false
  updaterSeen : Bool := false
  deriving DecidableEq, Repr

/-- The names of the settings. -/
def settingNames : List String := ["table", "updater"]

/-- Takes one entry into account, or reports what is wrong with it. -/
def Settings.add (s : Settings) : Entry → Settings × List Diagnostic
  | .literal span => (s, [⟨.wrongForm .literal, span⟩])
  | .setting name body span =>
      if name = "table" then
        if s.tableSeen then (s, [⟨.duplicateSetting name, span⟩])
        else
          match textSetting body span with
          | .ok table => ({ s with table := some table, tableSeen := true }, [])
          | .error d => ({ s with tableSeen := true }, [d])
      else if name = "updater" then
        if s.updaterSeen then (s, [⟨.duplicateSetting name, span⟩])
        else
          match truthSetting body span with
          | .ok updater => ({ s with updater, updaterSeen := true }, [])
          | .error d => ({ s with updaterSeen := true }, [d])
      else (s, [⟨.unknownSetting name settingNames (nearest? name settingNames), span⟩])

/-- Takes entries into account one after the other. -/
def Settings.addAll (s : Settings) : List Entry → Settings × List Diagnostic
  | [] => (s, [])
  | entry :: entries =>
      let (s, found) := s.add entry
      let (s, further) := s.addAll entries
      (s, found ++ further)

/-- The entries of an attribute. -/
def Attribute.entries (a : Attribute) : Except Diagnostic (List Entry) :=
  match a.body with
  | .bare => .ok []
  | .value equals _ place => .error ⟨.valueForSettings, some (a.pathSpan.to (place.getD equals))⟩
  | .list content _ => entriesOf content

/-- Takes attributes into account one after the other. -/
def Settings.addAttributes (s : Settings) : List Attribute → Settings × List Diagnostic
  | [] => (s, [])
  | a :: attrs =>
      let (s, found) :=
        match a.entries with
        | .ok entries => s.addAll entries
        | .error d => (s, [d])
      let (s, further) := s.addAttributes attrs
      (s, found ++ further)

/-- The settings of a type and everything that is wrong with them. -/
def Settings.ofAttributes (attrs : List Attribute) : Settings × List Diagnostic :=
  Settings.addAttributes {} (attrs.filter (·.path.isWord "queryset"))

end QueryChain
