/-
# Items with their attributes

An item is a declared type: its attributes, its name, and the fields it has.
-/
import QueryChain.Syntax.Attribute

namespace QueryChain

/-- A name with its place. -/
structure Ident where
  name : String
  span : Span
  deriving DecidableEq, Repr

/-- A named field. -/
structure Field where
  attrs : List Attribute
  vis : Code
  ident : Ident
  type : Ty
  deriving Repr

/-- The words of a field. -/
def Field.code (f : Field) : Code :=
  outerCode f.attrs ++ f.vis ++ Code.name f.ident.name ++ Code.name ":" ++ f.type.code

/-- What an item consists of. -/
inductive Shape where
  | named (fields : List Field)
  | unnamed (count : Nat)
  | unit
  | enumeration
  | union
  deriving Repr

/-- An item.  `generics` is the place of its parameters, if it has any. -/
structure Item where
  attrs : List Attribute
  vis : Code
  ident : Ident
  generics : Option Span
  shape : Shape
  deriving Repr

end QueryChain
