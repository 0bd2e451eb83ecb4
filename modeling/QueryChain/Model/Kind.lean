/-
# Kinds of fields

The declared type of a field decides which comparisons make sense for its column.
-/
import QueryChain.Syntax.Type

namespace QueryChain

/-! ## What a type says -/

/-- The type inside an optional one. -/
def Ty.optionArg? : Ty → Option Ty
  | applied _ name _ arg _ => if name = "Option" then some arg else none
  | _ => none

/-- The last name of a path, through parentheses and groups. -/
def Ty.lastName? : Ty → Option String
  | path _ name _ | applied _ name .. => some name
  | paren inner | group inner => inner.lastName?
  | trait _ | other _ => none

/-- Names of numeric types. -/
def numericTypes : List String :=
  ["i8", "i16", "i32", "i64", "i128", "isize", "u8", "u16", "u32", "u64", "u128", "usize", "f32",
   "f64", "Decimal"]

/-- Names of types for dates, times and instants. -/
def temporalTypes : List String :=
  ["DateTime", "NaiveDate", "NaiveDateTime", "NaiveTime", "Date", "Time", "OffsetDateTime",
   "PrimitiveDateTime", "SystemTime"]

/-- Names of types for text. -/
def textualTypes : List String := ["String"]

/-! ## Kinds -/

/-- The kind of a field: whether its column may have no value, whether it can be compared by
size, whether it can be matched with patterns, and the type it is compared with. -/
structure Kind where
  nullable : Bool
  ordered : Bool
  textual : Bool
  valueType : Ty
  deriving DecidableEq, Repr

/-- The kind of a declared type; an optional type is of the kind of what is inside. -/
def Kind.of (t : Ty) : Kind :=
  let value := t.optionArg?.getD t
  let name := value.lastName?.getD ""
  { nullable := t.optionArg?.isSome
    ordered := numericTypes.contains name || temporalTypes.contains name
    textual := textualTypes.contains name
    valueType := value }

end QueryChain
