/-
# The names of a catalog

A catalog lists the methods of the whole model and then those of each field, and it exists
exactly if all of their names differ.
-/
import QueryChain.Builder.Method

namespace QueryChain

namespace Method

/-! ## Clashes -/

/-- There is no clash exactly if the names differ from each other and from those taken. -/
theorem firstClash?_eq_none_iff (taken names : List String) :
    firstClash? taken names = none ↔ names.Nodup ∧ ∀ n ∈ names, n ∉ taken := by
  induction names generalizing taken with
  | nil => simp [firstClash?]
  | cons n rest ih =>
    by_cases hn : n ∈ taken
    · rw [firstClash?, if_pos (List.contains_iff_mem.mpr hn)]
      simp [hn]
    · rw [firstClash?, if_neg (fun h => hn (List.contains_iff_mem.mp h)), ih]
      constructor
      · rintro ⟨hrest, hfresh⟩
        refine ⟨List.nodup_cons.mpr ⟨fun hmem => ?_, hrest⟩, ?_⟩
        · exact hfresh n hmem List.mem_cons_self
        · intro n' hn'
          rcases List.mem_cons.mp hn' with rfl | hmem
          · exact hn
          · exact fun h => hfresh n' hmem (List.mem_cons_of_mem _ h)
      · rintro ⟨hnodup, hfresh⟩
        obtain ⟨hnot, hrest⟩ := List.nodup_cons.mp hnodup
        refine ⟨hrest, fun n' hn' h => ?_⟩
        rcases List.mem_cons.mp h with rfl | htaken
        · exact hnot hn'
        · exact hfresh n' (List.mem_cons_of_mem _ hn') htaken

/-! ## The catalog -/

/-- All methods in catalog order, whether their names differ or not. -/
def listed (m : Model) : List Method :=
  (ModelOperation.ofModel m).map onModel ++ m.fields.flatMap ofField

/-- The methods of the first field come first, if none of their names is taken. -/
theorem ofFields_cons_eq_ok_iff (taken : List String) (f : ModelField)
    (fields : List ModelField) (methods : List Method) :
    ofFields taken (f :: fields) = .ok methods ↔
      firstClash? taken ((ofField f).map name) = none ∧
        ∃ further, ofFields ((ofField f).map name ++ taken) fields = .ok further ∧
          methods = ofField f ++ further := by
  rw [ofFields]
  cases firstClash? taken ((ofField f).map name) with
  | some clash => simp
  | none =>
    cases ofFields ((ofField f).map name ++ taken) fields with
    | error d => simp [bind, Except.bind]
    | ok further => simp [bind, Except.bind, pure, Except.pure, eq_comm]

/-- The methods of fields are listed in order exactly if their names differ from each other and
from those taken. -/
theorem ofFields_eq_ok_iff (taken : List String) (fields : List ModelField)
    (methods : List Method) :
    ofFields taken fields = .ok methods ↔
      methods = fields.flatMap ofField ∧ (methods.map name).Nodup ∧
        ∀ n ∈ methods.map name, n ∉ taken := by
  induction fields generalizing taken methods with
  | nil =>
    rw [ofFields, List.flatMap_nil]
    constructor
    · rintro ⟨⟩
      simp
    · rintro ⟨rfl, -, -⟩
      rfl
  | cons f rest ih =>
    rw [ofFields_cons_eq_ok_iff, firstClash?_eq_none_iff]
    constructor
    · rintro ⟨⟨hnodup, hfresh⟩, further, hfurther, rfl⟩
      -- The names of the first field are taken when the rest is listed.
      obtain ⟨rfl, hnodup', hfresh'⟩ := (ih _ _).mp hfurther
      refine ⟨rfl, ?_, ?_⟩
      · rw [List.map_append, List.nodup_append]
        refine ⟨hnodup, hnodup', fun n hn n' hn' heq => ?_⟩
        exact hfresh' n' hn' (List.mem_append_left _ (heq ▸ hn))
      · intro n hn
        rw [List.map_append, List.mem_append] at hn
        rcases hn with hn | hn
        · exact hfresh n hn
        · exact fun htaken => hfresh' n hn (List.mem_append_right _ htaken)
    · rintro ⟨rfl, hnodup, hfresh⟩
      rw [List.flatMap_cons, List.map_append, List.nodup_append] at hnodup
      rw [List.flatMap_cons, List.map_append] at hfresh
      obtain ⟨hfirst, hrest, hdisjoint⟩ := hnodup
      refine ⟨⟨hfirst, fun n hn => hfresh n (List.mem_append_left _ hn)⟩,
        rest.flatMap ofField, (ih _ _).mpr ⟨rfl, hrest, fun n hn htaken => ?_⟩, rfl⟩
      rcases List.mem_append.mp htaken with h | h
      · exact hdisjoint n h n hn rfl
      · exact hfresh n (List.mem_append_right _ hn) h

/-- The names of the whole model's methods differ. -/
theorem nodup_names_ofModel (m : Model) :
    (((ModelOperation.ofModel m).map onModel).map name).Nodup := by
  rw [ModelOperation.ofModel]
  cases m.updater <;> decide

/-- A catalog lists all methods, and there is one exactly if their names differ. -/
theorem catalog_eq_ok_iff (m : Model) (methods : List Method) :
    catalog m = .ok methods ↔ methods = listed m ∧ ((listed m).map name).Nodup := by
  have hcatalog : catalog m = .ok methods ↔
      ∃ further, ofFields (((ModelOperation.ofModel m).map onModel).map name) m.fields
          = .ok further ∧
        methods = (ModelOperation.ofModel m).map onModel ++ further := by
    rw [catalog]
    cases ofFields (((ModelOperation.ofModel m).map onModel).map name) m.fields with
    | error d => simp [bind, Except.bind]
    | ok further => simp [bind, Except.bind, pure, Except.pure, eq_comm]
  rw [hcatalog, listed, List.map_append, List.nodup_append]
  constructor
  · rintro ⟨further, hfurther, rfl⟩
    obtain ⟨rfl, hnodup, hfresh⟩ := (ofFields_eq_ok_iff _ _ _).mp hfurther
    exact ⟨rfl, nodup_names_ofModel m, hnodup, fun n hn n' hn' heq => hfresh n' hn' (heq ▸ hn)⟩
  · rintro ⟨rfl, -, hnodup, hdisjoint⟩
    refine ⟨_, (ofFields_eq_ok_iff _ _ _).mpr ⟨rfl, hnodup, fun n hn htaken => ?_⟩, rfl⟩
    exact hdisjoint n htaken n hn rfl

end Method

end QueryChain
