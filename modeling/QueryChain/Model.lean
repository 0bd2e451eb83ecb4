/-
# Models

A model is what a declared type says about a table: its name, its columns and its relations.
-/
import QueryChain.Model.Doc
import QueryChain.Model.FieldOptions
import QueryChain.Model.Kind
import QueryChain.Model.Settings
import QueryChain.Name

namespace QueryChain

/-! ## Fields -/

/-- A field of a model. -/
structure ModelField where
  ident : Ident
  type : Ty
  column : String
  kind : Kind
  options : FieldOptions
  doc : Option String
  deriving Repr

namespace ModelField

/-- A field from its declaration. -/
def ofField (f : Field) : Except Diagnostic ModelField := do
  let options ← FieldOptions.ofAttributes f.attrs
  return {
    ident := f.ident
    type := f.type
    column := options.column.getD (dbName f.ident.name)
    kind := .of f.type
    options
    doc := docSummary f.attrs }

/-- The name of a field, without the mark of a raw one. -/
def name (f : ModelField) : String := unraw f.ident.name

/-- Whether the field is a selected column. -/
def isColumn (f : ModelField) : Bool := !f.options.skip && !f.options.preload

/-- Whether the field is a relation that can be loaded. -/
def isPreload (f : ModelField) : Bool := !f.options.skip && f.options.preload

/-- Whether the field can be compared by size. -/
def isOrdered (f : ModelField) : Bool := f.kind.ordered || f.options.ordered

/-- No field is both a column and a relation. -/
theorem not_isPreload_of_isColumn {f : ModelField} (h : f.isColumn = true) :
    f.isPreload = false := by
  simp_all [isColumn, isPreload]

end ModelField

/-! ## Clashes -/

/-- Fields whose names clash.  `columns` and `constants` hold the names that are taken, with the
fields that took them, the latest first. -/
def clashes (columns constants : List (String × String)) : List ModelField → List Diagnostic
  | [] => []
  | f :: fields =>
      let columns' := (f.column, f.ident.name) :: columns
      match columns.lookup f.column with
      | some owner =>
          ⟨.duplicateColumn f.column owner, some f.ident.span⟩
            :: clashes columns' constants fields
      | none =>
          let constant := constName f.column
          match constants.lookup constant with
          | some owner =>
              ⟨.constantClash f.column constant owner, some f.ident.span⟩
                :: clashes columns' constants fields
          | none => clashes columns' ((constant, f.ident.name) :: constants) fields

/-! ## Models -/

/-- What a declared type says about a table. -/
structure Model where
  ident : Ident
  vis : Code
  table : String
  updater : Bool
  fields : List ModelField
  deriving Repr

namespace Model

/-- The fields that are selected columns. -/
def columnFields (m : Model) : List ModelField := m.fields.filter (·.isColumn)

/-- The names of the selected columns. -/
def columns (m : Model) : List String := m.columnFields.map (·.column)

/-- The fields of a declared type with named ones. -/
def namedFields : Shape → Except WrongShape (List Field)
  | .named fields => .ok fields
  | .unit => .error .noFields
  | .unnamed count => .error (if count = 1 then .oneUnnamed else .severalUnnamed)
  | .enumeration => .error .enumeration
  | .union => .error .union

/-- The fields that can be read, and what is wrong with the others. -/
def readFields : List Field → List ModelField × List Diagnostic
  | [] => ([], [])
  | f :: fields =>
      let (found, wrong) := readFields fields
      match ModelField.ofField f with
      | .ok field => (field :: found, wrong)
      | .error d => (found, d :: wrong)

/-- A model from a declared type, or everything that is wrong with it.  Wrong settings and a
wrong shape come first, then parameters; only then fields are looked at. -/
def ofItem (item : Item) : Except (List Diagnostic) Model := do
  let (settings, wrongSettings) := Settings.ofAttributes item.attrs
  match namedFields item.shape with
  | .error shape => .error (wrongSettings ++ [⟨.wrongShape shape, none⟩])
  | .ok declared =>
      unless wrongSettings.isEmpty do
        .error wrongSettings
      if let some span := item.generics then
        .error [⟨.generic, some span⟩]
      let (fields, wrongFields) := readFields declared
      let clashing := clashes [] [] (fields.filter (·.isColumn))
      let emptyTable : List Diagnostic :=
        if settings.table = some "" then [⟨.emptyTable, some item.ident.span⟩] else []
      let wrong := wrongFields ++ clashing ++ emptyTable
      unless wrong.isEmpty do
        .error wrong
      return {
        ident := item.ident
        vis := item.vis
        table := settings.table.getD (dbName item.ident.name)
        updater := settings.updater
        fields }

end Model

end QueryChain
