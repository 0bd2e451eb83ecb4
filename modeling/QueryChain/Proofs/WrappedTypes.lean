/-
# Wrapped types

A type means the same in parentheses, and also in a group, which has no delimiters to be seen.  The
name that decides what a column can be compared by is looked up through both.  Whether the type is
optional is not: only the outermost part of a type is asked for that.
-/
import QueryChain.Builder.Method
import Mathlib.Data.Option.Basic
import Mathlib.Tactic.ByContra

namespace QueryChain

/-! ## Parentheses and groups -/

/-- The second type is the first one in some parentheses and groups, which may be none. -/
inductive Ty.Wrapped (t : Ty) : Ty → Prop where
  | bare : Wrapped t t
  | paren {u : Ty} (h : Wrapped t u) : Wrapped t (.paren u)
  | group {u : Ty} (h : Wrapped t u) : Wrapped t (.group u)

namespace Ty

/-- A type without the parentheses and groups around it. -/
def unwrap : Ty → Ty
  | paren inner | group inner => inner.unwrap
  | t => t

namespace Wrapped

variable {t u : Ty}

/-- The last name is looked up through wrappers. -/
theorem lastName?_eq (h : Wrapped t u) : u.lastName? = t.lastName? := by
  induction h with
  | bare => rfl
  | paren _ ih => exact ih
  | group _ ih => exact ih

/-- Only the wrappers differ. -/
theorem unwrap_eq (h : Wrapped t u) : u.unwrap = t.unwrap := by
  induction h with
  | bare => rfl
  | paren _ ih => exact ih
  | group _ ih => exact ih

/-- A type with a wrapper around it is not seen to be optional. -/
theorem optionArg?_eq_none (h : Wrapped t u) (hne : u ≠ t) : u.optionArg? = none := by
  cases h with
  | bare => exact absurd rfl hne
  | paren _ => rfl
  | group _ => rfl

/-- So no wrapped type is seen to be optional if it is not without the wrappers. -/
theorem optionArg?_of_eq_none (h : Wrapped t u) (hnone : t.optionArg? = none) :
    u.optionArg? = none := by
  by_cases hsame : u = t
  · rw [hsame]
    exact hnone
  · exact h.optionArg?_eq_none hsame

end Wrapped

end Ty

/-! ## Kinds -/

/-- Two kinds are the same, except that their types may be wrapped differently. -/
structure Kind.Agrees (k l : Kind) : Prop where
  nullable : k.nullable = l.nullable
  ordered : k.ordered = l.ordered
  textual : k.textual = l.textual
  valueType : k.valueType.unwrap = l.valueType.unwrap

/-- The kind of a field that is compared with values of the type, and may have none if so told. -/
def Kind.ofValue (nullable : Bool) (value : Ty) : Kind :=
  let name := value.lastName?.getD ""
  { nullable
    ordered := numericTypes.contains name || temporalTypes.contains name
    textual := textualTypes.contains name
    valueType := value }

namespace Ty

variable {t u arg : Ty}

/-- The argument of an optional type. -/
theorem optionArg?_option (front before : Code) (arg : Ty) (after : Code) :
    (applied front "Option" before arg after).optionArg? = some arg := rfl

/-- What is not seen to be optional is compared with values of its own type. -/
theorem kind_of_optionArg?_eq_none (h : t.optionArg? = none) : Kind.of t = Kind.ofValue false t := by
  rw [Kind.of, h]
  rfl

/-- What is seen to be optional is compared with values of the type inside. -/
theorem kind_of_optionArg?_eq_some (h : t.optionArg? = some arg) :
    Kind.of t = Kind.ofValue true arg := by
  rw [Kind.of, h]
  rfl

/-- An optional type is a path whose last name is `Option`. -/
theorem lastName?_of_optionArg? (h : t.optionArg? = some arg) : t.lastName? = some "Option" := by
  cases t with
  | applied front name before inner after =>
    rw [optionArg?] at h
    split at h
    · rename_i hname
      exact congrArg some hname
    · cases h
  | _ => cases h

/-- Values are compared in the same way, however their type is wrapped. -/
theorem Wrapped.agrees_ofValue (h : Wrapped t u) (nullable : Bool) :
    (Kind.ofValue nullable u).Agrees (Kind.ofValue nullable t) := by
  have hname := h.lastName?_eq
  constructor
  · rfl
  · simp only [Kind.ofValue, hname]
  · simp only [Kind.ofValue, hname]
  · exact h.unwrap_eq

/-- With a wrapper around it, an optional type is neither optional nor anything else. -/
theorem Wrapped.kind_of_ne (h : Wrapped t u) (hoption : t.optionArg? = some arg) (hne : u ≠ t) :
    Kind.of u = ⟨false, false, false, u⟩ := by
  -- Looked up through the wrappers is the outer name, which is in none of the tables.
  have hname : u.lastName? = some "Option" := h.lastName?_eq.trans (lastName?_of_optionArg? hoption)
  rw [kind_of_optionArg?_eq_none (h.optionArg?_eq_none hne), Kind.ofValue, hname]
  rfl

end Ty

/-! ## Offered operations -/

/-- A field that is declared with another type. -/
def ModelField.withType (f : ModelField) (t : Ty) : ModelField := { f with type := t, kind := .of t }

namespace FieldOperation

/-- What is offered depends on the options of a field and on what its kind allows, and not on the
type that it is compared with. -/
theorem ofField_eq_of_agrees {f g : ModelField} (hoptions : f.options = g.options)
    (h : f.kind.Agrees g.kind) : ofField f = ofField g := by
  have hcolumn : ofColumn f = ofColumn g := by
    rw [ofColumn, ofColumn, ModelField.isOrdered, ModelField.isOrdered, hoptions, h.ordered,
      h.textual, h.nullable]
  rw [ofField, ofField, ModelField.isColumn, ModelField.isColumn, ModelField.isPreload,
    ModelField.isPreload, hcolumn, hoptions]

/-- A column is tested for having no value exactly if it may have none. -/
theorem isAbsent_mem_ofField_iff {f : ModelField} (hf : f.isColumn = true) :
    presence .isAbsent ∈ ofField f ↔ f.kind.nullable = true := by
  rw [ofField, if_pos hf]
  simp [ofColumn]

end FieldOperation

namespace Field

/-- Whether the field is read as a column. -/
def IsColumn (f : Field) : Prop :=
  ∃ g, ModelField.ofField f = .ok g ∧ g.isColumn = true

/-- What is offered for the field if it is declared with this type. -/
def operationsAs (f : Field) (t : Ty) : Except Diagnostic (List FieldOperation) :=
  (ModelField.ofField { f with type := t }).map FieldOperation.ofField

/-- Only the type and the kind change with what a field is declared to be. -/
theorem operationsAs_eq (f : Field) (t : Ty) :
    f.operationsAs t
      = (ModelField.ofField f).map fun g => FieldOperation.ofField (g.withType t) := by
  rw [operationsAs, ModelField.ofField, ModelField.ofField]
  cases FieldOptions.ofAttributes f.attrs <;> rfl

variable {t u : Ty}

/-- Types whose kinds agree are offered the same operations. -/
theorem operationsAs_eq_of_agrees (f : Field) (h : (Kind.of u).Agrees (Kind.of t)) :
    f.operationsAs u = f.operationsAs t := by
  rw [operationsAs_eq, operationsAs_eq]
  cases ModelField.ofField f with
  | error d => rfl
  | ok g => exact congrArg Except.ok (FieldOperation.ofField_eq_of_agrees rfl h)

/-- A column is offered other operations with a type by which it may have no value. -/
theorem operationsAs_ne {f : Field} (hf : f.IsColumn)
    (hu : (Kind.of u).nullable = false) (ht : (Kind.of t).nullable = true) :
    f.operationsAs u ≠ f.operationsAs t := by
  obtain ⟨g, hread, hcolumn⟩ := hf
  -- The test for no value tells the two lists apart, whatever else differs.
  rw [operationsAs_eq, operationsAs_eq, hread]
  intro heq
  have hsame : FieldOperation.ofField (g.withType u) = FieldOperation.ofField (g.withType t) :=
    Except.ok.inj heq
  have htested := FieldOperation.isAbsent_mem_ofField_iff (f := g.withType t) hcolumn
  rw [← hsame, FieldOperation.isAbsent_mem_ofField_iff (f := g.withType u) hcolumn] at htested
  have hnullable : (Kind.of u).nullable = true := htested.mpr ht
  rw [hu] at hnullable
  cases hnullable

end Field

/-! ## Main statement -/

/-- Two types are treated alike if their kinds agree and every field is offered the same operations
with both. -/
structure Ty.Alike (t u : Ty) : Prop where
  kinds : (Kind.of t).Agrees (Kind.of u)
  operations : ∀ f : Field, f.operationsAs t = f.operationsAs u

/-- Agreement of the kinds is enough. -/
theorem Kind.Agrees.alike {t u : Ty} (h : (Kind.of t).Agrees (Kind.of u)) : t.Alike u :=
  ⟨h, fun f => f.operationsAs_eq_of_agrees h⟩

/-- **Where wrappers are seen through.** In parentheses and groups a type is treated alike exactly
if there are none around it or it is not optional, and around the argument of an optional type they
always are seen through.  Around an optional type itself they are not: without them there may be no
value by the type, but with them it allows neither that nor any comparison by size or pattern, and
no column is offered the same operations. -/
theorem wrapped_types_alike_iff (t u : Ty) (h : Ty.Wrapped t u) :
    (Ty.Alike u t ↔ u = t ∨ t.optionArg? = none) ∧
    (∀ (front before after : Code),
      Ty.Alike (.applied front "Option" before u after) (.applied front "Option" before t after)) ∧
    (∀ arg, t.optionArg? = some arg → u ≠ t →
      Kind.of t = Kind.ofValue true arg ∧ Kind.of u = ⟨false, false, false, u⟩ ∧
        ∀ f : Field, f.IsColumn → f.operationsAs u ≠ f.operationsAs t) := by
  have hdetails : ∀ arg, t.optionArg? = some arg → u ≠ t →
      Kind.of t = Kind.ofValue true arg ∧ Kind.of u = ⟨false, false, false, u⟩ :=
    fun arg hoption hne => ⟨Ty.kind_of_optionArg?_eq_some hoption, h.kind_of_ne hoption hne⟩
  refine ⟨⟨fun halike => ?_, ?_⟩, fun front before after => Kind.Agrees.alike ?_, ?_⟩
  · by_contra hboth
    obtain ⟨hne, hsome⟩ := not_or.mp hboth
    obtain ⟨arg, hoption⟩ := Option.ne_none_iff_exists'.mp hsome
    obtain ⟨ht, hu⟩ := hdetails arg hoption hne
    have hnullable := halike.kinds.nullable
    rw [ht, hu] at hnullable
    cases hnullable
  · rintro (rfl | hnone)
    · exact Kind.Agrees.alike ⟨rfl, rfl, rfl, rfl⟩
    · apply Kind.Agrees.alike
      rw [Ty.kind_of_optionArg?_eq_none hnone,
        Ty.kind_of_optionArg?_eq_none (h.optionArg?_of_eq_none hnone)]
      exact h.agrees_ofValue false
  · rw [Ty.kind_of_optionArg?_eq_some (Ty.optionArg?_option front before u after),
      Ty.kind_of_optionArg?_eq_some (Ty.optionArg?_option front before t after)]
    exact h.agrees_ofValue true
  · intro arg hoption hne
    obtain ⟨ht, hu⟩ := hdetails arg hoption hne
    refine ⟨ht, hu, fun f hf => Field.operationsAs_ne hf ?_ ?_⟩
    · rw [hu]
    · rw [ht]
      rfl

/-- An optional type. -/
def optionOf (arg : Ty) : Ty := .applied [] "Option" [.plain "<"] arg [.plain ">"]

/-- A field of this type. -/
def declaredField (t : Ty) : Field := ⟨[], [], ⟨"a", ⟨⟨1, 0⟩, ⟨1, 0⟩⟩⟩, t⟩

/-- An integer is treated alike in both wrappers, and also inside an optional type; but not an
optional integer. -/
theorem wrappedInteger_alike :
    Ty.Wrapped (.named "i64") (.paren (.group (.named "i64"))) ∧
      Ty.Alike (.paren (.group (.named "i64"))) (.named "i64") ∧
      Ty.Alike (optionOf (.paren (.group (.named "i64")))) (optionOf (.named "i64")) ∧
      Ty.Wrapped (optionOf (.named "i64")) (.group (optionOf (.named "i64"))) ∧
      (optionOf (.named "i64")).optionArg? = some (.named "i64") ∧
      (declaredField (.named "i64")).IsColumn ∧
      (declaredField (.named "i64")).operationsAs (.group (optionOf (.named "i64")))
        ≠ (declaredField (.named "i64")).operationsAs (optionOf (.named "i64")) := by
  have hinteger : Ty.Wrapped (.named "i64") (.paren (.group (.named "i64"))) := .paren (.group .bare)
  have hoptional : Ty.Wrapped (optionOf (.named "i64")) (.group (optionOf (.named "i64"))) :=
    .group .bare
  have hcolumn : (declaredField (.named "i64")).IsColumn := ⟨_, rfl, rfl⟩
  obtain ⟨hbare, harg, -⟩ := wrapped_types_alike_iff _ _ hinteger
  obtain ⟨-, -, hlost⟩ := wrapped_types_alike_iff _ _ hoptional
  refine ⟨hinteger, hbare.mpr (Or.inr rfl), harg _ _ _, hoptional, rfl, hcolumn, ?_⟩
  obtain ⟨-, -, hoperations⟩ := hlost (.named "i64") rfl nofun
  exact hoperations _ hcolumn

/-- In parentheses, an optional integer that is accepted as a column is neither tested for having no
value nor compared by size. -/
theorem wrappedOption_not_optional :
    (Model.ofItem ⟨[], [], ⟨"S", ⟨⟨1, 0⟩, ⟨1, 0⟩⟩⟩, none,
        .named [declaredField (.paren (optionOf (.named "i64")))]⟩).isOk = true ∧
      Kind.of (optionOf (.named "i64")) = ⟨true, true, false, .named "i64"⟩ ∧
      Kind.of (.paren (optionOf (.named "i64")))
        = ⟨false, false, false, .paren (optionOf (.named "i64"))⟩ ∧
      (declaredField (.named "i64")).operationsAs (optionOf (.named "i64"))
        = .ok [.compare .eq, .compare .ne, .membership .among, .membership .outside, .compare .lt,
            .compare .lte, .compare .gt, .compare .gte, .presence .isAbsent, .presence .isPresent,
            .order .ascending, .order .descending] ∧
      (declaredField (.named "i64")).operationsAs (.paren (optionOf (.named "i64")))
        = .ok [.compare .eq, .compare .ne, .membership .among, .membership .outside,
            .order .ascending, .order .descending] :=
  ⟨by decide +kernel, by decide, by decide, rfl, rfl⟩

end QueryChain
