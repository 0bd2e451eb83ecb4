/-
# Values bound to a statement

A query never writes a value into its text: it writes a placeholder and hands the value over
beside the text.  This module holds the values that can be handed over, when two of them are
equal, and how typed values become such values.
-/
import QueryChain.Binary
import QueryChain.Calendar
import QueryChain.Decimal
import QueryChain.Uuid

namespace QueryChain

/-! ## Values -/

/-- A value bound to a statement.  `numeric` is a whole number too wide for a machine word, in
decimal digits, and `list` stands for as many values as it has elements. -/
inductive Value where
  | null
  | bool (b : Bool)
  | int (n : Int64)
  | uint (n : UInt64)
  | float (x : Binary64)
  | text (s : String)
  | bytes (data : List UInt8)
  | numeric (digits : String)
  | list (items : List Value)
  | uuid (u : Uuid)
  | timestamp (t : DateTime)
  | naiveTimestamp (t : DateTime)
  | date (d : Date)
  | time (c : Clock)
  | offsetDateTime (t : ZonedTime)
  | primitiveDateTime (t : DateTime)
  | timeDate (d : Date)
  | timeOfDay (c : Clock)
  | decimal (d : Decimal)
  deriving Repr

namespace Value

/-- Whether the value is the absent value. -/
def isNull : Value → Bool
  | null => true
  | _ => false

/-- Whether the value stands for several values. -/
def isList : Value → Bool
  | list _ => true
  | _ => false

/-! ## Equality -/

mutual

/-- Equality of values of one kind.  Floats and decimals compare as numbers and instants as
instants, wherever their clocks stood; everything else compares as written. -/
def equal : Value → Value → Bool
  | null, null => true
  | bool a, bool b => a == b
  | int a, int b => a == b
  | uint a, uint b => a == b
  | float a, float b => a.equal b
  | text a, text b => a == b
  | bytes a, bytes b => a == b
  | numeric a, numeric b => a == b
  | list a, list b => equalItems a b
  | uuid a, uuid b => a == b
  | timestamp a, timestamp b => a == b
  | naiveTimestamp a, naiveTimestamp b => a == b
  | date a, date b => a == b
  | time a, time b => a == b
  | offsetDateTime a, offsetDateTime b => a.unixNanos == b.unixNanos
  | primitiveDateTime a, primitiveDateTime b => a == b
  | timeDate a, timeDate b => a == b
  | timeOfDay a, timeOfDay b => a == b
  | decimal a, decimal b => a.equal b
  | _, _ => false

/-- Equality element by element. -/
def equalItems : List Value → List Value → Bool
  | [], [] => true
  | a :: as, b :: bs => equal a b && equalItems as bs
  | _, _ => false

end

end Value

/-! ## Typed values -/

/-- A value of a field's own type, before it is bound.  Machine integers of every width are one
kind per sign; integers of twice the width of a word are `wide`. -/
inductive Native where
  | bool (b : Bool)
  | signed (n : Int64)
  | unsigned (n : UInt64)
  | wide (n : Int)
  | single (x : Binary32)
  | double (x : Binary64)
  | text (s : String)
  | bytes (data : List UInt8)
  | values (items : List Value)
  | uuid (u : Uuid)
  | decimal (d : Decimal)
  | instant (utc : DateTime)
  | systemTime (utc : DateTime)
  | localDateTime (t : DateTime)
  | localDate (d : Date)
  | localTime (c : Clock)
  | offsetDateTime (t : ZonedTime)
  | primitiveDateTime (t : DateTime)
  | calendarDate (d : Date)
  | clockTime (c : Clock)
  | absent
  | present (v : Native)
  deriving Repr

namespace Native

/-- The bound form of a typed value: narrow numbers are widened, wide integers become decimal
digits, an absent value is null, and the system's clock knows no leap seconds. -/
def toValue : Native → Value
  | bool b => .bool b
  | signed n => .int n
  | unsigned n => .uint n
  | wide n => .numeric (toString n)
  | single x => .float x.widen
  | double x => .float x
  | text s => .text s
  | bytes data => .bytes data
  | values items => .list items
  | uuid u => .uuid u
  | decimal d => .decimal d
  | instant utc => .timestamp utc
  | systemTime utc => .timestamp utc.withoutLeap
  | localDateTime t => .naiveTimestamp t
  | localDate d => .date d
  | localTime c => .time c
  | offsetDateTime t => .offsetDateTime t
  | primitiveDateTime t => .primitiveDateTime t
  | calendarDate d => .timeDate d
  | clockTime c => .timeOfDay c
  | absent => .null
  | present v => v.toValue

end Native

end QueryChain
