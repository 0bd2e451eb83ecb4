/-
# Code of the methods

Each method of the catalog as it is declared in the query builder.
-/
import QueryChain.Builder.Method
import QueryChain.Builder.Signature

namespace QueryChain

/-! ## Names -/

namespace Model

/-- The name of a generated type. -/
def typeName (m : Model) (suffix : String) : String := unraw m.ident.name ++ suffix

/-- The name of the query builder. -/
def builderName (m : Model) : String := m.typeName "QuerySet"

/-- The name of the updater. -/
def updaterName (m : Model) : String := m.typeName "Updater"

/-- The name of the type with the columns' constants. -/
def schemaName (m : Model) : String := m.typeName "DbSchema"

end Model

namespace ModelField

/-- The name of an argument for the field. -/
def argName (f : ModelField) : String := QueryChain.argName f.name

/-- The end of a method's documentation: the field's own summary. -/
def docSuffix (f : ModelField) : String :=
  match f.doc with
  | some doc => "\n\nField: " ++ doc
  | none => ""

end ModelField

/-- A value made from an argument. -/
def valueFrom (arg : String) : Code :=
  libraryPath "Value :: from" ++ Code.parens (Code.name arg)

/-! ## Methods of a model -/

/-- What the rows of a query have to be. -/
def rowCondition (model : Code) : Code :=
  words "where" ++ model ++ words ":" ++ libraryPath "FromRecord"
    ++ Code.angles (executorParam ++ words ":: Row") ++ words "+ :: core :: marker :: Send"

namespace ModelOperation

/-- The declaration of a method of the whole model. -/
def signature (m : Model) (op : ModelOperation) : Signature :=
  let model := Code.name m.ident.name
  match op with
  | limit =>
    { doc := "Return at most `limit` rows. The last call wins."
      name := op.name
      args := [words "limit : u64"]
      output := words "Self"
      body := wrapped (handleCall "limit" [words "limit"]) }
  | offset =>
    { doc := "Skip the first `offset` rows. The last call wins."
      name := op.name
      args := [words "offset : u64"]
      output := words "Self"
      body := wrapped (handleCall "offset" [words "offset"]) }
  | all =>
    { doc := "Fetch every matching row, then load requested preloads."
      name := op.name
      args := []
      output := resultOf (words ":: std :: vec :: Vec" ++ Code.angles model)
      body := awaitedCall "find" (some model) []
      conditions := rowCondition model
      isAsync := true }
  | one =>
    { doc := "Fetch the first matching row.\n\n# Errors\n\nReturns "
        ++ "`queryset_core::Error::RecordNotFound` when nothing was fetched."
      name := op.name
      args := []
      output := resultOf model
      body := awaitedCall "first" (some model) []
      conditions := rowCondition model
      isAsync := true }
  | count =>
    { doc := "Count matching rows. Ordering and pagination are ignored."
      name := op.name
      args := []
      output := resultOf (words "u64")
      body := awaitedCall "count" none []
      isAsync := true }
  | delete =>
    { doc := "Delete matching rows."
      name := op.name
      args := []
      output := resultOf (Code.parens [])
      body := discarding (awaitedCall "delete" none [])
      isAsync := true }
  | deleteNum =>
    { doc := "Delete matching rows and return how many were removed."
      name := op.name
      args := []
      output := resultOf (words "u64")
      body := awaitedCall "delete" none []
      isAsync := true }
  | getUpdater =>
    { doc := "Start a bulk update over the current scope with [" ++ ticked m.updaterName ++ "]."
      name := op.name
      args := []
      output := Code.name m.updaterName ++ Code.angles executorParam
      body := Code.name m.updaterName ++ words ":: new" ++ Code.parens (words "self . db") }

/-- A method is declared by its name. -/
theorem name_signature (m : Model) (op : ModelOperation) : (op.signature m).name = op.name := by
  cases op <;> rfl

end ModelOperation

/-! ## Methods of a field -/

/-- The handle with a condition on a column added. -/
def conditionCall (column test : String) (values : Code) : Code :=
  handleCall "where_column" [Code.literal column, Code.literal test, values]

/-- A list of values for a condition. -/
def valueList (values : Code) : Code :=
  words ":: std :: vec !" ++ Code.brackets values

/-- What a comparison's documentation says. -/
def keepsRows (f : ModelField) (phrase : String) : String :=
  "Keep rows where " ++ ticked f.column ++ " " ++ phrase ++ "." ++ f.docSuffix

namespace FieldOperation

/-- The declaration of a method of a field. -/
def signature (f : ModelField) (op : FieldOperation) : Signature :=
  let arg := f.argName
  let type := f.kind.valueType.code
  let argument := Code.name arg ++ words ":" ++ type
  match op with
  | compare c =>
    { doc := keepsRows f c.phrase
      name := op.methodName f
      args := [argument]
      output := words "Self"
      body := wrapped (conditionCall f.column c.test (valueList (valueFrom arg))) }
  | membership m =>
    let rest := arg ++ "_rest"
    let items :=
      words "impl :: core :: iter :: IntoIterator" ++ Code.angles (words "Item =" ++ type)
    let values := words "let args : :: std :: vec :: Vec" ++ Code.angles (libraryPath "Value")
      ++ words "= :: core :: iter :: once" ++ Code.parens (Code.name arg)
      ++ words ". chain" ++ Code.parens (Code.name rest)
      ++ words ". map" ++ Code.parens (libraryPath "Value :: from") ++ words ". collect ( ) ;"
    { doc := keepsRows f m.phrase
      name := op.methodName f
      args := [argument, Code.name rest ++ words ":" ++ items]
      output := words "Self"
      body := values ++ wrapped (conditionCall f.column m.test
        (valueList (libraryPath "Value :: List ( args )"))) }
  | presence p =>
    { doc := keepsRows f p.test
      name := op.methodName f
      args := []
      output := words "Self"
      body := wrapped (conditionCall f.column p.test (words ":: std :: vec :: Vec :: new ( )")) }
  | order d =>
    let (direction, word) := match d with
      | .ascending => ("SortDirection :: Asc", "ascending")
      | .descending => ("SortDirection :: Desc", "descending")
    { doc := "Order by " ++ ticked f.column ++ " " ++ word ++ "." ++ f.docSuffix
      name := op.methodName f
      args := []
      output := words "Self"
      body := wrapped (handleCall "order_column" [Code.literal f.column, libraryPath direction]) }
  | preload =>
    { doc := "Load the " ++ ticked f.name ++ " relation after the main query." ++ f.docSuffix
      name := op.methodName f
      args := []
      output := words "Self"
      body := wrapped (handleCall "preload" [Code.literal f.name]) }

/-- A method is declared by its name. -/
theorem name_signature (f : ModelField) (op : FieldOperation) :
    (op.signature f).name = op.methodName f := by
  cases op <;> rfl

end FieldOperation

/-- The declaration of a method. -/
def Method.signature (m : Model) : Method → Signature
  | onModel op => op.signature m
  | onField f op => op.signature f

/-- Each method of a catalog is declared by its name. -/
theorem Method.name_signature (m : Model) (method : Method) :
    (method.signature m).name = method.name := by
  cases method with
  | onModel op => exact op.name_signature m
  | onField f op => exact op.name_signature f

end QueryChain
