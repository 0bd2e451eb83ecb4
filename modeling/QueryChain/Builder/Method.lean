/-
# The methods of a query builder

A builder has methods for the whole model, and for each field methods that are named after it.
The catalog lists all of them in order; two methods never share a name.
-/
import QueryChain.Comparison
import QueryChain.Model
import QueryChain.Scope

namespace QueryChain

/-! ## Methods of a model -/

/-- What can be done with a whole query. -/
inductive ModelOperation where
  | limit
  | offset
  | all
  | one
  | count
  | delete
  | deleteNum
  | getUpdater
  deriving DecidableEq, Repr

namespace ModelOperation

/-- The name of the method. -/
def name : ModelOperation → String
  | limit => "limit"
  | offset => "offset"
  | all => "all"
  | one => "one"
  | count => "count"
  | delete => "delete"
  | deleteNum => "delete_num"
  | getUpdater => "get_updater"

/-- Whether the method runs a query, instead of going on with the chain. -/
def isTerminal : ModelOperation → Bool
  | all | one | count | delete | deleteNum => true
  | limit | offset | getUpdater => false

/-- The methods of a model; rows can be updated if the model allows it. -/
def ofModel (m : Model) : List ModelOperation :=
  [limit, offset, all, one, count, delete, deleteNum] ++ if m.updater then [getUpdater] else []

end ModelOperation

/-! ## Methods of a field -/

/-- What can be done with a field. -/
inductive FieldOperation where
  | compare (comparison : Comparison)
  | membership (membership : Membership)
  | presence (presence : Presence)
  | order (direction : SortDirection)
  | preload
  deriving DecidableEq, Repr

namespace FieldOperation

/-- The part of the method's name that tells the operation. -/
def name : FieldOperation → String
  | compare c => c.name
  | membership m => m.name
  | presence p => p.name
  | order .ascending => "order_asc_by"
  | order .descending => "order_desc_by"
  | preload => "preload"

/-- Whether the field comes first in the method's name. -/
def fieldFirst : FieldOperation → Bool
  | compare _ | membership _ | presence _ => true
  | order _ | preload => false

/-- What can be done with a column: it can be compared by size if it is ordered, matched with
patterns if it is text, and tested for a value if it may have none. -/
def ofColumn (f : ModelField) : List FieldOperation :=
  [compare .eq, compare .ne, membership .among, membership .outside]
    ++ (if f.isOrdered then [compare .lt, compare .lte, compare .gt, compare .gte] else [])
    ++ (if f.kind.textual then [compare .like, compare .notLike] else [])
    ++ (if f.kind.nullable then [presence .isAbsent, presence .isPresent] else [])
    ++ [order .ascending, order .descending]

/-- What can be done with a field: nothing if it is skipped. -/
def ofField (f : ModelField) : List FieldOperation :=
  if f.isColumn then ofColumn f else if f.isPreload then [preload] else []

/-- The name of the method for a field. -/
def methodName (op : FieldOperation) (f : ModelField) : String :=
  QueryChain.methodName op.name f.name op.fieldFirst

end FieldOperation

/-! ## The catalog -/

/-- A method of a query builder. -/
inductive Method where
  | onModel (operation : ModelOperation)
  | onField (field : ModelField) (operation : FieldOperation)
  deriving Repr

namespace Method

/-- The name of a method. -/
def name : Method → String
  | onModel op => op.name
  | onField f op => op.methodName f

/-- Whether the method runs a query. -/
def isTerminal : Method → Bool
  | onModel op => op.isTerminal
  | onField .. => false

/-- The methods of a field. -/
def ofField (f : ModelField) : List Method :=
  (FieldOperation.ofField f).map (onField f)

/-- The first of the names that is taken, by an earlier method or by one of these. -/
def firstClash? (taken : List String) : List String → Option String
  | [] => none
  | name :: names =>
      if taken.contains name then some name else firstClash? (name :: taken) names

/-- The methods of further fields, next to names that are taken. -/
def ofFields (taken : List String) : List ModelField → Except Diagnostic (List Method)
  | [] => .ok []
  | f :: fields => do
      let methods := ofField f
      let names := methods.map name
      match firstClash? taken names with
      | some clash => .error ⟨.methodClash clash, some f.ident.span⟩
      | none => return methods ++ (← ofFields (names ++ taken) fields)

/-- All methods of a model's query builder: those of the whole model first, then those of its
fields in their order. -/
def catalog (m : Model) : Except Diagnostic (List Method) := do
  let methods := (ModelOperation.ofModel m).map onModel
  return methods ++ (← ofFields (methods.map name) m.fields)

end Method

end QueryChain
