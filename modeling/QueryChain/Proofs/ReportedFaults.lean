/-
# What is reported for a declared type

The faults of a type with named fields, spelled out: one for each field with a wrong attribute, one
for each column behind an earlier one with the same constant, and one for an empty table.  Clashes are
looked up in two tables that are kept by different rules; together they always tell what the fields
walked so far have taken.
-/
import QueryChain.Proofs.Clashes
import Mathlib.Data.List.Basic

namespace QueryChain

/-! ## Fields with a wrong attribute -/

/-- What is wrong with the attributes of a field. -/
def attributeFault? (f : Field) : Option Diagnostic :=
  match FieldOptions.ofAttributes f.attrs with
  | .ok _ => none
  | .error d => some d

/-- What a field says if its attributes are right. -/
def soundField? (f : Field) : Option ModelField :=
  (ModelField.ofField f).toOption

/-- A field can be read exactly if its attributes are right; otherwise they are what is wrong. -/
theorem ofField_cases (f : Field) :
    (∃ field, ModelField.ofField f = .ok field ∧ attributeFault? f = none) ∨
      ∃ d, ModelField.ofField f = .error d ∧ attributeFault? f = some d := by
  rw [ModelField.ofField, attributeFault?]
  cases FieldOptions.ofAttributes f.attrs with
  | ok options => exact Or.inl ⟨_, rfl, rfl⟩
  | error d => exact Or.inr ⟨d, rfl, rfl⟩

/-- All fields with right attributes are read in order, and all others are reported in order. -/
theorem readFields_eq (declared : List Field) :
    Model.readFields declared
      = (declared.filterMap soundField?, declared.filterMap attributeFault?) := by
  induction declared with
  | nil => rfl
  | cons f rest ih =>
    rw [Model.readFields, ih]
    rcases ofField_cases f with ⟨field, hread, hright⟩ | ⟨d, hread, hwrong⟩
    · have hsound : soundField? f = some field := by rw [soundField?, hread]; rfl
      rw [hread, List.filterMap_cons_some hsound, List.filterMap_cons_none hright]
    · have hsound : soundField? f = none := by rw [soundField?, hread]; rfl
      rw [hread, List.filterMap_cons_none hsound, List.filterMap_cons_some hwrong]

/-! ## Clashes with earlier fields -/

/-- What is wrong with a field behind earlier ones.  If its column is used already, the latest field
with that column is named; if only its constant is, the first field with that constant. -/
def clashBehind (earlier : List ModelField) (f : ModelField) : Option Diagnostic :=
  match earlier.reverse.find? fun g => g.column == f.column with
  | some owner => some ⟨.duplicateColumn f.column owner.ident.name, some f.ident.span⟩
  | none =>
      (earlier.find? fun g => constName g.column == constName f.column).map fun owner =>
        ⟨.constantClash f.column (constName f.column) owner.ident.name, some f.ident.span⟩

/-- A field clashes exactly if an earlier one has its constant. -/
theorem clashBehind_eq_none_iff (earlier : List ModelField) (f : ModelField) :
    clashBehind earlier f = none ↔ ∀ g ∈ earlier, constName g.column ≠ constName f.column := by
  rw [clashBehind]
  cases hcolumn : earlier.reverse.find? fun g => g.column == f.column with
  | some owner =>
    have hmem : owner ∈ earlier := List.mem_reverse.mp (List.mem_of_find?_eq_some hcolumn)
    have hsame : owner.column = f.column := by simpa using List.find?_some hcolumn
    exact ⟨nofun, fun h => absurd (congrArg constName hsame) (h owner hmem)⟩
  | none => simp [List.find?_eq_none]

/-- A clash is found at the field and names an earlier one: with the same column if there is one, and
else with the same constant. -/
theorem exists_owner_of_clashBehind {earlier : List ModelField} {f : ModelField} {d : Diagnostic}
    (h : clashBehind earlier f = some d) :
    d.span = some f.ident.span ∧ ∃ owner ∈ earlier,
      (owner.column = f.column ∧ d.message = "column " ++ ticked f.column
        ++ " is already used by field " ++ ticked owner.ident.name) ∨
      ((∀ g ∈ earlier, g.column ≠ f.column) ∧ constName owner.column = constName f.column ∧
        d.message = "column " ++ ticked f.column ++ " maps to schema constant "
          ++ ticked (constName f.column) ++ " already used by field "
          ++ ticked owner.ident.name) := by
  rw [clashBehind] at h
  cases hcolumn : earlier.reverse.find? fun g => g.column == f.column with
  | some owner =>
    rw [hcolumn] at h
    obtain rfl := Option.some.inj h
    refine ⟨rfl, owner, List.mem_reverse.mp (List.mem_of_find?_eq_some hcolumn), Or.inl ⟨?_, rfl⟩⟩
    simpa using List.find?_some hcolumn
  | none =>
    rw [hcolumn] at h
    obtain ⟨owner, howner, rfl⟩ := Option.map_eq_some_iff.mp h
    refine ⟨rfl, owner, List.mem_of_find?_eq_some howner, Or.inr ⟨?_, ?_, rfl⟩⟩
    · simpa using hcolumn
    · simpa using List.find?_some howner

/-- The tables tell what earlier fields have taken: each column by the latest field that has it, each
constant by the first. -/
structure Taken (earlier : List ModelField) (columns constants : List (String × String)) :
    Prop where
  lookup_column : ∀ column, columns.lookup column
    = (earlier.reverse.find? fun g => g.column == column).map (·.ident.name)
  lookup_constant : ∀ constant, constants.lookup constant
    = (earlier.find? fun g => constName g.column == constant).map (·.ident.name)

namespace Taken

variable {earlier : List ModelField} {columns constants : List (String × String)}

/-- In the beginning nothing is taken. -/
theorem nothing : Taken [] [] [] := ⟨fun _ => rfl, fun _ => rfl⟩

/-- The column of a field always replaces the entry of an earlier one. -/
theorem lookup_column_cons (h : Taken earlier columns constants) (f : ModelField)
    (column : String) :
    ((f.column, f.ident.name) :: columns).lookup column
      = ((earlier ++ [f]).reverse.find? fun g => g.column == column).map (·.ident.name) := by
  rw [List.reverse_append, List.reverse_singleton, List.singleton_append, List.lookup_cons,
    List.find?_cons, h.lookup_column, BEq.comm]
  cases f.column == column <;> rfl

/-- Of a constant that is taken, a further field takes nothing. -/
theorem lookup_constant_of_taken (h : Taken earlier columns constants) {f : ModelField}
    (hf : ∃ g ∈ earlier, constName g.column = constName f.column) (constant : String) :
    constants.lookup constant
      = ((earlier ++ [f]).find? fun g => constName g.column == constant).map (·.ident.name) := by
  rw [h.lookup_constant, List.find?_append, List.find?_singleton]
  by_cases hconstant : constName f.column = constant
  · obtain ⟨g, hg, heq⟩ := hf
    have hfound : (earlier.find? fun g => constName g.column == constant).isSome :=
      List.find?_isSome.mpr ⟨g, hg, by simp [heq, hconstant]⟩
    obtain ⟨owner, howner⟩ := Option.isSome_iff_exists.mp hfound
    rw [howner]
    rfl
  · rw [if_neg (by simpa using hconstant), Option.or_none]

/-- A constant that is not taken is taken by the field. -/
theorem lookup_constant_cons (h : Taken earlier columns constants) {f : ModelField}
    (hf : constants.lookup (constName f.column) = none) (constant : String) :
    ((constName f.column, f.ident.name) :: constants).lookup constant
      = ((earlier ++ [f]).find? fun g => constName g.column == constant).map (·.ident.name) := by
  rw [List.lookup_cons, List.find?_append, List.find?_singleton]
  by_cases hconstant : constName f.column = constant
  · subst hconstant
    rw [h.lookup_constant, Option.map_eq_none_iff] at hf
    simp [hf]
  · have hne : (constant == constName f.column) = false := by simpa using Ne.symm hconstant
    rw [hne, h.lookup_constant, if_neg (by simpa using hconstant), Option.or_none]

/-- One more field is reported exactly if it clashes with an earlier one, and the tables go on to tell
what is taken. -/
theorem clashes_cons (h : Taken earlier columns constants) (f : ModelField)
    (fields : List ModelField) :
    ∃ columns' constants', Taken (earlier ++ [f]) columns' constants' ∧
      clashes columns constants (f :: fields)
        = (clashBehind earlier f).toList ++ clashes columns' constants' fields := by
  rw [clashes, clashBehind, h.lookup_column]
  cases hcolumn : earlier.reverse.find? fun g => g.column == f.column with
  | some owner =>
    have hmem : owner ∈ earlier := List.mem_reverse.mp (List.mem_of_find?_eq_some hcolumn)
    have hsame : owner.column = f.column := by simpa using List.find?_some hcolumn
    exact ⟨_, _, ⟨h.lookup_column_cons f,
      h.lookup_constant_of_taken ⟨owner, hmem, congrArg constName hsame⟩⟩, rfl⟩
  | none =>
    cases hconstant : constants.lookup (constName f.column) with
    | some name =>
      have hfound := hconstant
      rw [h.lookup_constant] at hfound
      obtain ⟨owner, howner, rfl⟩ := Option.map_eq_some_iff.mp hfound
      have hsame : constName owner.column = constName f.column := by
        simpa using List.find?_some howner
      refine ⟨_, _, ⟨h.lookup_column_cons f, h.lookup_constant_of_taken
        ⟨owner, List.mem_of_find?_eq_some howner, hsame⟩⟩, ?_⟩
      simp only [Option.map_none, hconstant, howner]
      rfl
    | none =>
      have hfree := hconstant
      rw [h.lookup_constant, Option.map_eq_none_iff] at hfree
      refine ⟨_, _, ⟨h.lookup_column_cons f, h.lookup_constant_cons hconstant⟩, ?_⟩
      simp only [Option.map_none, hconstant, hfree]
      rfl

/-- Each field is checked against those before it. -/
theorem clashes_eq (h : Taken earlier columns constants) (fields : List ModelField) :
    clashes columns constants fields
      = (fields.zipIdx earlier.length).filterMap fun (f, i) =>
          clashBehind ((earlier ++ fields).take i) f := by
  induction fields generalizing earlier columns constants with
  | nil => rfl
  | cons f rest ih =>
    obtain ⟨columns', constants', htaken, hclashes⟩ := h.clashes_cons f rest
    have hrest := ih htaken
    rw [List.append_assoc, List.singleton_append, List.length_append, List.length_singleton]
      at hrest
    have hearlier : (earlier ++ f :: rest).take earlier.length = earlier := List.take_left
    rw [hclashes, hrest, List.zipIdx_cons, List.filterMap_cons]
    simp only [hearlier]
    cases clashBehind earlier f <;> rfl

end Taken

/-! ## Main statement -/

/-- **What is reported.** For a type with named fields, without parameters and with right settings, the
faults are, in this order: one for each field with a wrong attribute; one for each of the columns that
are left, neither skipped nor relations, behind an earlier one with the same constant, which says that
the column is used if an earlier one has it, and that the constant is if not; and one if the type asks
for a table without a name.  There is a model exactly if there are none. -/
theorem faults_reported_as_listed (item : Item) (declared : List Field)
    (hshape : Model.namedFields item.shape = .ok declared)
    (hsettings : (Settings.ofAttributes item.attrs).2 = []) (hgenerics : item.generics = none) :
    let columns := (declared.filterMap soundField?).filter
      fun f => !f.options.skip && !f.options.preload
    let faults := declared.filterMap attributeFault?
      ++ columns.zipIdx.filterMap (fun (f, i) => clashBehind (columns.take i) f)
      ++ if (Settings.ofAttributes item.attrs).1.table = some "" then
          [⟨.emptyTable, some item.ident.span⟩]
        else []
    ((∃ m, Model.ofItem item = .ok m) ↔ faults = []) ∧
    (∀ ds, Model.ofItem item = .error ds ↔ ds = faults ∧ faults ≠ []) ∧
    ∀ earlier f,
      (clashBehind earlier f = none ↔ ∀ g ∈ earlier, constName g.column ≠ constName f.column) ∧
      ∀ d, clashBehind earlier f = some d →
        d.span = some f.ident.span ∧ ∃ owner ∈ earlier,
          (owner.column = f.column ∧ d.message = "column " ++ ticked f.column
            ++ " is already used by field " ++ ticked owner.ident.name) ∨
          ((∀ g ∈ earlier, g.column ≠ f.column) ∧ constName owner.column = constName f.column ∧
            d.message = "column " ++ ticked f.column ++ " maps to schema constant "
              ++ ticked (constName f.column) ++ " already used by field "
              ++ ticked owner.ident.name) := by
  intro columns faults
  have hfaults : Model.faults item declared = faults := by
    rw [Model.faults, readFields_eq, Taken.nothing.clashes_eq]
    rfl
  rw [Model.ofItem_eq_ite hshape hsettings hgenerics, hfaults]
  refine ⟨?_, fun ds => ?_, fun earlier f =>
    ⟨clashBehind_eq_none_iff earlier f, fun d => exists_owner_of_clashBehind⟩⟩
  · by_cases hnone : faults = []
    · rw [if_pos hnone]
      exact ⟨fun _ => hnone, fun _ => ⟨_, rfl⟩⟩
    · rw [if_neg hnone]
      exact ⟨nofun, fun h => absurd h hnone⟩
  · by_cases hnone : faults = []
    · rw [if_pos hnone]
      exact ⟨nofun, fun h => absurd hnone h.2⟩
    · rw [if_neg hnone, Except.error.injEq]
      exact ⟨fun h => ⟨h.symm, hnone⟩, fun h => h.1.symm⟩

/-- One place for all that is wrong with the following type. -/
def faultyPlace : Span := ⟨⟨1, 0⟩, ⟨1, 0⟩⟩

/-- An attribute with these tokens, in which texts are values. -/
def keysAttribute (tokens : List Lexeme) : Attribute :=
  ⟨⟨false, ["queryset"]⟩, faultyPlace, .list (tokens.map (⟨·, faultyPlace⟩))
    ⟨.closing .paren, faultyPlace⟩, faultyPlace⟩

/-- Fields of which one has no keys, two want one column, two have one constant, and one that would
clash is skipped. -/
def faultyFields : List Field :=
  let stored (column : String) : List Lexeme :=
    [.ident "column", .punct '=' false, .literal (.text column)]
  [⟨[], [], ⟨"id", faultyPlace⟩, .named "i64"⟩,
    ⟨[keysAttribute (stored "id" ++ [.punct ',' false, .ident "skip"])], [],
      ⟨"hidden", faultyPlace⟩, .named "i64"⟩,
    ⟨[keysAttribute (stored "id")], [], ⟨"key", faultyPlace⟩, .named "i64"⟩,
    ⟨[keysAttribute (stored "x-y")], [], ⟨"dashed", faultyPlace⟩, .named "i64"⟩,
    ⟨[⟨⟨false, ["queryset"]⟩, faultyPlace, .bare, faultyPlace⟩], [], ⟨"bare", faultyPlace⟩,
      .named "i64"⟩,
    ⟨[], [], ⟨"x_y", faultyPlace⟩, .named "i64"⟩]

/-- A type with these fields that asks for a table without a name. -/
def faultyItem : Item :=
  ⟨[keysAttribute [.ident "table", .punct '=' false, .literal (.text "")]], [],
    ⟨"Faulty", faultyPlace⟩, none, .named faultyFields⟩

/-- All four faults are reported, in order, and nothing about the field that is skipped. -/
theorem faultyItem_faults_reported :
    Model.namedFields faultyItem.shape = .ok faultyFields ∧
      (Settings.ofAttributes faultyItem.attrs).2 = [] ∧ faultyItem.generics = none ∧
      Model.ofItem faultyItem = .error
        [⟨.missingList, some faultyPlace⟩,
          ⟨.duplicateColumn "id" "id", some faultyPlace⟩,
          ⟨.constantClash "x_y" "X_Y" "dashed", some faultyPlace⟩,
          ⟨.emptyTable, some faultyPlace⟩] := by
  have hsettings : (Settings.ofAttributes faultyItem.attrs).2 = [] := by rfl
  refine ⟨rfl, hsettings, rfl, ?_⟩
  exact ((faults_reported_as_listed faultyItem faultyFields rfl hsettings rfl).2.1 _).mpr
    ⟨by rfl, by decide⟩

end QueryChain
