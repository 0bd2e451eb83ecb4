/-
# Binding values to a typed connection

A connection that wants a type for every bind takes no untyped null, no list, and no unsigned
number beyond the signed range.  Binds are taken in order, and the first bad one decides.  How
the connection's own library keeps a query and its parameters is left open.
-/
import QueryChain.Statement

namespace QueryChain

/-! ## Errors -/

/-- Why a value cannot be bound. -/
inductive BindError where
  | null
  | list
  | tooLarge
  deriving DecidableEq, Repr

/-- The wording of an error. -/
def BindError.message : BindError → String
  | null => "encountered unexpected or invalid data: NULL must be rendered inline, not bound"
  | list =>
      "encountered unexpected or invalid data: list binds must be flattened before execution"
  | tooLarge =>
      "error occurred while encoding a value: number too large to fit in target type"

/-! ## Parameters -/

/-- A value in the form that a typed connection takes: whole numbers are signed, and a number in
digits is text. -/
inductive BindParameter where
  | bool (b : Bool)
  | int (n : Int64)
  | float (x : Binary64)
  | text (s : String)
  | bytes (data : List UInt8)
  | uuid (u : Uuid)
  | timestamp (t : DateTime)
  | naiveTimestamp (t : DateTime)
  | date (d : Date)
  | time (c : Clock)
  | offsetDateTime (t : ZonedTime)
  | primitiveDateTime (t : DateTime)
  | timeDate (d : Date)
  | timeOfDay (c : Clock)
  | decimal (d : Decimal)
  deriving Repr

/-- The parameter for a value, if there is one. -/
def Value.parameter : Value → Except BindError BindParameter
  | .null => .error .null
  | .bool b => .ok (.bool b)
  | .int n => .ok (.int n)
  | .uint n =>
      if n.toNat ≤ Int64.maxValue.toInt then .ok (.int n.toInt64) else .error .tooLarge
  | .float x => .ok (.float x)
  | .text s => .ok (.text s)
  | .bytes data => .ok (.bytes data)
  | .numeric digits => .ok (.text digits)
  | .list _ => .error .list
  | .uuid u => .ok (.uuid u)
  | .timestamp t => .ok (.timestamp t)
  | .naiveTimestamp t => .ok (.naiveTimestamp t)
  | .date d => .ok (.date d)
  | .time c => .ok (.time c)
  | .offsetDateTime t => .ok (.offsetDateTime t)
  | .primitiveDateTime t => .ok (.primitiveDateTime t)
  | .timeDate d => .ok (.timeDate d)
  | .timeOfDay c => .ok (.timeOfDay c)
  | .decimal d => .ok (.decimal d)

/-- An unsigned number is passed as the signed number of the same size. -/
theorem Value.toInt_of_parameter_uint {n : UInt64} {m : Int64}
    (h : (uint n).parameter = .ok (.int m)) : m.toInt = n.toNat := by
  rw [parameter] at h
  split at h
  · rename_i hle
    cases h
    have hmax : Int64.maxValue.toInt = 9223372036854775807 := by decide
    have hbits : 2 * n.toBitVec.toNat < 2 ^ 64 := by
      rw [UInt64.toNat_toBitVec]
      omega
    exact BitVec.toInt_eq_toNat_of_lt hbits
  · cases h

/-! ## Queries of a client library -/

/-- What a client library does for its queries: it starts one from a text, and adds a parameter
to it behind those that it has. -/
structure Client (θ : Type) where
  query : String → θ
  bind : θ → BindParameter → θ

namespace Client

variable {θ : Type} (client : Client θ)

/-- Adds one value to a query. -/
def bindValue (query : θ) (v : Value) : Except BindError θ :=
  v.parameter.map (client.bind query)

/-- The query of a statement, with its binds in order. -/
def build (s : Statement) : Except BindError θ :=
  s.binds.foldlM client.bindValue (client.query s.sql)

/-- A client that only keeps text and parameters. -/
def plain : Client (String × Array BindParameter) where
  query := fun sql => (sql, #[])
  bind := fun (sql, parameters) parameter => (sql, parameters.push parameter)

end Client

/-- Passes a statement's binds to a typed connection. -/
def Statement.bind (s : Statement) : Except BindError (String × Array BindParameter) :=
  Client.plain.build s

end QueryChain
