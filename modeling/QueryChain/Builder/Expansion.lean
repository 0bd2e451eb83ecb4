/-
# The generated items

A model is expanded into a query builder, an updater unless it is not wanted, a type with a
constant for each column, and the description of the table.
-/
import QueryChain.Builder.MethodCode

namespace QueryChain

/-- A generated item: a declaration, or the members of an implementation behind its head. -/
inductive GeneratedItem where
  | declaration (code : Code)
  | implementation (head : Code) (members : List Code)
  deriving Repr

/-! ## Pieces -/

/-- The head of an implementation for every executor, or for those that run statements. -/
def implHead (type : String) (runs : Bool) : Code :=
  let param := if runs then executorParam ++ words ":" ++ libraryPath "Executor" else executorParam
  words "impl" ++ Code.angles param ++ Code.name type ++ Code.angles executorParam

/-- Traits that a type derives. -/
def derives (traits : String) : Code :=
  words "# [ derive (" ++ words traits ++ words ") ]"

/-- A reference to a constant text. -/
def staticText : Code := words "& 'static str"

/-- The type of one assignment. -/
def assignmentType : Code :=
  Code.parens (staticText ++ words "," ++ libraryPath "Value")

/-- A function that is not a method of the chain. -/
def plainFunction (doc head : String) (args output body : Code) : Code :=
  docAttr doc ++ words head ++ Code.parens args ++ words "->" ++ output ++ Code.braces body

/-! ## The query builder -/

/-- The query builder with its methods, those that go on with the chain first, and the function
that starts a chain. -/
def builderItems (m : Model) (methods : List Method) : List GeneratedItem :=
  let model := Code.name m.ident.name
  let builder := Code.name m.builderName
  let declared (terminal : Bool) : List Code :=
    (methods.filter (·.isTerminal == terminal)).map fun method => (method.signature m).code
  [.declaration (docAttr ("Chainable query builder for [" ++ ticked m.ident.name ++ "].")
      ++ derives "Debug , Clone" ++ m.vis ++ words "struct" ++ builder
      ++ Code.angles executorParam ++ Code.braces (words "db :" ++ handleType)),
   .implementation (implHead m.builderName false) (
     [plainFunction " Wrap an existing handle, keeping its scope." "pub fn new"
        (words "db :" ++ handleType) (words "Self") (words "Self" ++ Code.braces (words "db")),
      plainFunction " Start an unfiltered query over the model's table." "pub fn from_executor"
        (words "executor :" ++ executorParam) (words "Self")
        (words "Self :: new" ++ Code.parens (libraryPath "Db :: for_model ::" ++ Code.angles model
          ++ words "( executor )")),
      plainFunction " Wrapped handle." "pub fn db" (words "& self") (words "&" ++ handleType)
        (words "& self . db"),
      plainFunction " Unwrap into the underlying handle." "pub fn into_db" (words "self") handleType
        (words "self . db")] ++ declared false),
   .implementation (implHead m.builderName true) (declared true),
   .implementation (words "impl" ++ model) [
     docAttr ("Start a [" ++ ticked m.builderName ++ "] over the whole table.")
       ++ words "pub fn query_set" ++ Code.angles executorParam
       ++ Code.parens (words "executor :" ++ executorParam) ++ words "->" ++ builder
       ++ Code.angles executorParam
       ++ Code.braces (builder ++ words ":: from_executor ( executor )")]]

/-! ## The updater -/

/-- The name of the method that assigns a field's column. -/
def ModelField.setterName (f : ModelField) : String := methodName "set" f.name false

/-- The method that assigns a field's column; it takes the declared type. -/
def ModelField.setter (f : ModelField) : Signature where
  doc := "Assign " ++ ticked f.column ++ "." ++ f.docSuffix
  name := f.setterName
  args := [Code.name f.argName ++ words ":" ++ f.type.code]
  output := words "Self"
  body := words "self . set"
    ++ Code.parens (Code.literal f.column ++ words "," ++ valueFrom f.argName)

/-- The methods that run an update. -/
def updateMethods : List Signature :=
  let errors := "\n\n# Errors\n\nFails with `RenderError::EmptyUpdate` when no column was set."
  let call := awaitedCall "updates" none [words "self . assignments"]
  [{ doc := "Run the update over the QuerySet's scope." ++ errors
     name := "update"
     args := []
     output := resultOf (Code.parens [])
     body := discarding call
     isAsync := true },
   { doc := "Run the update and return how many rows changed." ++ errors
     name := "update_num"
     args := []
     output := resultOf (words "u64")
     body := call
     isAsync := true }]

/-- The method behind all those that assign a column: it replaces an earlier value. -/
def setMethod : Code :=
  let replaced := words ":: core :: option :: Option :: Some ( slot ) => slot . 1 = value ,"
  let added := words ":: core :: option :: Option :: None =>"
    ++ words "self . assignments . push ( ( column , value ) )"
  words "fn set ( mut self , column :" ++ staticText ++ words ", value :" ++ libraryPath "Value"
    ++ words ") -> Self" ++ Code.braces (
      words "match self . assignments . iter_mut ( ) . find ( | ( name , _ ) | * name == column )"
        ++ Code.braces (replaced ++ added) ++ words "self")

/-- The updater. -/
def updaterItems (m : Model) : List GeneratedItem :=
  let updater := Code.name m.updaterName
  let assignments := words ":: std :: vec :: Vec" ++ Code.angles assignmentType
  [.declaration (docAttr ("Bulk update of [" ++ ticked m.ident.name ++ "] rows selected by a ["
        ++ ticked m.builderName ++ "]. Created with `get_updater`.")
      ++ derives "Debug , Clone" ++ m.vis ++ words "struct" ++ updater
      ++ Code.angles executorParam
      ++ Code.braces (words "db :" ++ handleType ++ words ", assignments :" ++ assignments)),
   .implementation (implHead m.updaterName false) (
     [plainFunction " Start an update over the scope of `db`." "pub fn new"
        (words "db :" ++ handleType) (words "Self")
        (words "Self" ++ Code.braces (words "db , assignments : :: std :: vec :: Vec :: new ( )")),
      plainFunction " Assignments recorded so far, in call order." "pub fn assignments"
        (words "& self") (words "&" ++ Code.brackets assignmentType)
        (words "& self . assignments"),
      setMethod] ++ m.columnFields.map fun f => f.setter.code),
   .implementation (implHead m.updaterName true) (updateMethods.map Signature.code)]

/-! ## The schema -/

/-- A constant for a column. -/
def constantCode (column : String) : Code :=
  docAttr (ticked column ++ " column.") ++ words "pub const" ++ Code.name (constName column)
    ++ words ":" ++ libraryPath "Field" ++ words "=" ++ libraryPath "Field :: new"
    ++ Code.parens (Code.literal column) ++ words ";"

/-- The type with a constant for each column, and the description of the table. -/
def schemaItems (m : Model) : List GeneratedItem :=
  let schema := Code.name m.schemaName
  let constants := m.columns.map fun column =>
    schema ++ words "::" ++ Code.name (constName column)
  let fieldList := Code.brackets (libraryPath "Field")
  [.declaration (docAttr ("Column names of [" ++ ticked m.ident.name ++ "].")
      ++ derives "Debug , Clone , Copy , Default" ++ m.vis ++ words "struct" ++ schema
      ++ words ";"),
   .implementation (words "impl" ++ schema) (
     m.columns.map constantCode ++
     [plainFunction " Every column, in field declaration order." "pub fn fields" []
        (words "& 'static" ++ fieldList)
        (words "const ALL : &" ++ fieldList ++ words "= &"
          ++ Code.brackets (Code.commaSeparated constants) ++ words "; ALL")]),
   .implementation (words "impl" ++ libraryPath "Model for" ++ Code.name m.ident.name) [
     words "const TABLE :" ++ staticText ++ words "=" ++ Code.literal m.table ++ words ";",
     words "const COLUMNS : & 'static" ++ Code.brackets staticText ++ words "= &"
       ++ Code.brackets (Code.commaSeparated (m.columns.map Code.literal)) ++ words ";"]]

/-! ## Expansion -/

/-- All items generated for a model. -/
def Model.expand (m : Model) : Except Diagnostic (List GeneratedItem) := do
  let methods ← Method.catalog m
  return builderItems m methods ++ (if m.updater then updaterItems m else []) ++ schemaItems m

/-- All items generated for a declared type, or everything that is wrong with it. -/
def Item.expand (item : Item) : Except (List Diagnostic) (List GeneratedItem) := do
  let m ← Model.ofItem item
  m.expand.mapError fun d => [d]

end QueryChain
