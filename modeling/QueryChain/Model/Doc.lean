/-
# Summaries of documentation

Documentation arrives as attributes with texts.  The first text that is not blank is the
summary.
-/
import QueryChain.Item
import QueryChain.Text.Blank

namespace QueryChain

/-- The text that an attribute documents with, if it does. -/
def Attribute.docText? (a : Attribute) : Option String :=
  if a.path.isWord "doc" then
    match a.body with
    | .value _ ⟨.literal (.text text), _⟩ _ => some text
    | _ => none
  else none

/-- The first text that is not blank, trimmed. -/
def firstNonBlank : List String → Option String
  | [] => none
  | text :: rest =>
      let trimmed := trim text.toList
      if trimmed.isEmpty then firstNonBlank rest else some (String.ofList trimmed)

/-- The summary of the documentation among attributes. -/
def docSummary (attrs : List Attribute) : Option String :=
  firstNonBlank (attrs.filterMap Attribute.docText?)

end QueryChain
