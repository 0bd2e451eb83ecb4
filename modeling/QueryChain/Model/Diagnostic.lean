/-
# Diagnostics

What can be wrong with a declared type that a query builder is asked for, and how it is said.
-/
import QueryChain.Syntax.Reader

namespace QueryChain

/-- Forms of settings in an attribute. -/
inductive SettingForm where
  | word
  | list
  | literal
  deriving DecidableEq, Repr

/-- Shapes of declared types that have no named fields. -/
inductive WrongShape where
  | noFields
  | oneUnnamed
  | severalUnnamed
  | enumeration
  | union
  deriving DecidableEq, Repr

/-- What is wrong. -/
inductive Cause where
  /-- The tokens of an attribute do not make sense. -/
  | malformed (message : String)
  /-- An attribute of a field has no list. -/
  | missingList
  /-- An attribute of a field has a value and no list. -/
  | valueForList
  /-- An attribute of the type has a value and no list. -/
  | valueForSettings
  | unknownFieldKey
  | emptyColumn
  | preloadWithColumn
  | wrongForm (form : SettingForm)
  | wrongType (type : String)
  | unknownValue (value : String)
  | duplicateSetting (name : String)
  | unknownSetting (name : String) (known : List String) (meant : Option String)
  | wrongShape (shape : WrongShape)
  | generic
  | duplicateColumn (column owner : String)
  | constantClash (column constant owner : String)
  | emptyTable
  | methodClash (method : String)
  deriving DecidableEq, Repr

/-- The name of a form. -/
def SettingForm.name : SettingForm → String
  | word => "word"
  | list => "list"
  | literal => "literal"

/-- What is said of a shape. -/
def WrongShape.message : WrongShape → String
  | noFields => "Unsupported shape `no fields`. Expected named fields."
  | oneUnnamed => "Unsupported shape `one unnamed field`. Expected named fields."
  | severalUnnamed => "Unsupported shape `unnamed fields`. Expected named fields."
  | enumeration => "Unsupported shape `enum`. Expected struct with named fields."
  | union => "Unsupported shape `union`. Expected struct with named fields."

/-- The wording of a cause. -/
def Cause.message : Cause → String
  | malformed message => message
  | missingList => "expected attribute arguments in parentheses: #[queryset(...)]"
  | valueForList => "expected parentheses: #[queryset(...)]"
  | valueForSettings => "Name-value arguments are not supported. Use #[queryset(...)]"
  | unknownFieldKey => "unknown queryset field attribute"
  | emptyColumn => "column name must not be empty"
  | preloadWithColumn => "`preload` fields are relations and cannot have a `column`"
  | wrongForm form => "Unexpected meta-item format " ++ ticked form.name
  | wrongType type => "Unexpected type " ++ ticked type
  | unknownValue value => "Unknown value: " ++ ticked value
  | duplicateSetting name => "Duplicate field " ++ ticked name
  | unknownSetting name _ (some meant) =>
      "Unknown field: " ++ ticked name ++ ". Did you mean " ++ ticked meant ++ "?"
  | unknownSetting name known none =>
      "Unknown field: " ++ ticked name ++ ". Available values: "
        ++ ", ".intercalate (known.map ticked)
  | wrongShape shape => shape.message
  | generic => "QuerySet cannot be derived for generic structs"
  | duplicateColumn column owner =>
      "column " ++ ticked column ++ " is already used by field " ++ ticked owner
  | constantClash column constant owner =>
      "column " ++ ticked column ++ " maps to schema constant " ++ ticked constant
        ++ " already used by field " ++ ticked owner
  | emptyTable => "table name must not be empty"
  | methodClash method =>
      "generated method " ++ ticked method ++ " is already defined by another field"

/-- A cause with the place it is found at, if it has one. -/
structure Diagnostic where
  cause : Cause
  span : Option Span
  deriving DecidableEq, Repr

/-- The wording of a diagnostic. -/
def Diagnostic.message (d : Diagnostic) : String := d.cause.message

/-- A complaint about a token as a diagnostic. -/
def SyntaxError.diagnostic (e : SyntaxError) : Diagnostic := ⟨.malformed e.message, e.span⟩

end QueryChain
