/-
# Reading fields

What structures, unions and the variants of enumerations consist of.
-/
import QueryChain.Item
import QueryChain.Syntax.Bound

namespace QueryChain

section

variable (below : Grammar)

/-! ## Fields -/

/-- The type of a field without a name, which can be a structure written in its place. -/
def readUnnamedType (fields : Reader Unit) : Reader Ty := do
  let before ← get
  let startsUnion := starts "union" before && startsGroup .brace (before.drop 1)
  if starts "struct" before || startsUnion then
    Reader.skip 1
    fields
    return .other (← Reader.verbatimSince before)
  else below.type true

/-- Named fields in braces, at most so deep. -/
def readFieldsAtMost : (depth : Nat) → Reader (List (Field × Bool))
  | 0 => Reader.complain "nested too deeply"
  | depth + 1 => Reader.group .brace <| Reader.commas atEnd do
      let attrs ← readAttributes below
      let vis ← readVisibility
      let unnamed := starts "_" (← get)
      let (name, span) ← Reader.spanned (if unnamed then Reader.anyName else Reader.name)
      Reader.take ":"
      let type ←
        if unnamed then readUnnamedType below (discard (readFieldsAtMost depth))
        else below.type true
      match span with
      | some span => return ⟨attrs, vis, ⟨name, span⟩, type⟩
      | none => Reader.expected "expected identifier"

/-- Named fields in braces. -/
def readNamedFields : Reader (List (Field × Bool)) := do
  readFieldsAtMost below (← get).length

/-- Named fields in braces, as code. -/
def readNamedFieldsCode : Reader Code := do
  let fields ← readNamedFields below
  return Code.braces (withCommas (fields.map fun (field, comma) => (field.code, comma)))

/-- Fields in parentheses. -/
def readUnnamedFields : Reader (List (Code × Bool)) :=
  Reader.group .paren <| Reader.commas atEnd do
    let attrs ← readOuter below
    let vis ← readVisibility
    return attrs ++ vis ++ (← below.type true).code

/-- Fields in parentheses, as code. -/
def readUnnamedFieldsCode : Reader Code := do
  return Code.parens (withCommas (← readUnnamedFields below))

/-! ## Variants -/

/-- One variant of an enumeration.  Who can see it is not kept. -/
def readVariant : Reader Code := do
  let attrs ← readOuter below
  let _ ← readVisibility
  let name ← Reader.name
  let tokens ← get
  let fields ←
    if startsGroup .brace tokens then readNamedFieldsCode below
    else if startsGroup .paren tokens then readUnnamedFieldsCode below
    else pure []
  let value ←
    if ← Reader.take? "=" then do pure (Code.name "=" ++ (← below.expr true).code)
    else pure []
  return attrs ++ Code.name name ++ fields ++ value

/-- The variants of an enumeration. -/
def readVariants : Reader Code :=
  Reader.enclosed .brace (Reader.commaCode (readVariant below))

end

end QueryChain
