/-
# Reading items
-/
import QueryChain.Syntax.StatementPhrase
import QueryChain.Token.Scan

namespace QueryChain

/-- Readers of phrases up to a depth. -/
def Grammar.atDepth : Nat → Grammar
  | 0 => .empty
  | depth + 1 =>
      let below := atDepth depth
      { type := readType below
        bound := readBound below
        pattern := readPattern below
        operand := readOperand below
        chain := readChain below
        leadingExpr := readLeadingExpr below
        statements := readStatements below
        item := readItemCode below }

/-- Readers of phrases that are as deep as some tokens allow. -/
def Grammar.ofTokens (tokens : List Token) : Grammar :=
  .atDepth (3 * tokens.length + 3)

section

variable (g : Grammar)

/-- What a structure consists of, from behind its parameters. -/
def readStructShape : Reader Shape := do
  let conditions ← readWhere g
  let tokens ← get
  if startsGroup .brace tokens then
    return .named ((← readNamedFields g).map (·.1))
  else if conditions.isNone && startsGroup .paren tokens then
    let fields ← readUnnamedFields g
    let _ ← readWhere g
    Reader.take ";"
    return .unnamed fields.length
  else
    Reader.take ";"
    return .unit

/-- What an item consists of, by its keyword. -/
def readShape (keyword : String) : Reader Shape := do
  match keyword with
  | "struct" => readStructShape g
  | "enum" =>
      let _ ← readWhere g
      let _ ← readVariants g
      return .enumeration
  | "union" =>
      let _ ← readWhere g
      let _ ← readNamedFields g
      return .union
  | _ => Reader.expectedOneOf (["struct", "enum", "union"].map ticked)

/-- An item. -/
def readItem : Reader Item := do
  let attrs ← readAttributes g
  let vis ← readVisibility
  let keyword ← Reader.anyName
  let (name, span) ← Reader.spanned Reader.name
  let ((_, generics), genericsSpan) ← Reader.spanned (readGenerics g)
  let shape ← readShape g keyword
  match span with
  | some span =>
      return ⟨attrs, vis, ⟨name, span⟩, if generics.isEmpty then none else genericsSpan, shape⟩
  | none => Reader.expected "expected identifier"

end

/-- The item that a text declares, if it declares one. -/
def Item.ofText? (text : String) : Option Item := do
  let tokens ← scan text
  ((readItem (.ofTokens tokens)).runAll tokens).toOption

end QueryChain
