/-
# Columns and constants of a model

A model is only read from a declared type if no two of its columns have one constant, so neither
columns nor constants repeat.
-/
import QueryChain.Model

namespace QueryChain

/-- A key that is looked up in vain is no key. -/
theorem not_mem_keys_of_lookup_eq_none {entries : List (String × String)} {key : String}
    (h : entries.lookup key = none) : key ∉ entries.map Prod.fst := by
  rw [List.lookup_eq_none_iff] at h
  rw [List.mem_map]
  rintro ⟨entry, hmem, rfl⟩
  simpa using h entry hmem

/-- Without a clash, every constant is new: no field before has it, and it was not taken. -/
theorem nodup_constants_of_clashes_eq_nil (columns constants : List (String × String))
    (fields : List ModelField) (h : clashes columns constants fields = []) :
    (fields.map fun f => constName f.column).Nodup ∧
      ∀ f ∈ fields, constName f.column ∉ constants.map Prod.fst := by
  induction fields generalizing columns constants with
  | nil => simp
  | cons f rest ih =>
    rw [clashes] at h
    dsimp only at h
    split at h
    · cases h
    · split at h
      · cases h
      · rename_i hconstant
        obtain ⟨hnodup, hfresh⟩ := ih _ _ h
        have hnot := not_mem_keys_of_lookup_eq_none hconstant
        -- The constant is an entry for the rest, so no further field has it.
        refine ⟨?_, ?_⟩
        · rw [List.map_cons, List.nodup_cons]
          refine ⟨fun hmem => ?_, hnodup⟩
          obtain ⟨g, hg, heq⟩ := List.mem_map.mp hmem
          exact hfresh g hg (by rw [heq]; exact List.mem_cons_self)
        · intro g hg
          rcases List.mem_cons.mp hg with rfl | hrest
          · exact hnot
          · exact fun htaken => hfresh g hrest (List.mem_cons_of_mem _ htaken)

namespace Model

/-- Everything that is wrong with the fields of a type and with the table that it asks for. -/
def faults (item : Item) (declared : List Field) : List Diagnostic :=
  (readFields declared).2 ++ clashes [] [] ((readFields declared).1.filter (·.isColumn))
    ++ if (Settings.ofAttributes item.attrs).1.table = some "" then
        [⟨.emptyTable, some item.ident.span⟩]
      else []

/-- The model of a type with nothing wrong. -/
def ofDeclared (item : Item) (declared : List Field) : Model where
  ident := item.ident
  vis := item.vis
  table := (Settings.ofAttributes item.attrs).1.table.getD (dbName item.ident.name)
  updater := (Settings.ofAttributes item.attrs).1.updater
  fields := (readFields declared).1

/-- A type with named fields, without parameters and with right settings is a model unless
something is wrong with its fields or its table. -/
theorem ofItem_eq_ite {item : Item} {declared : List Field}
    (hshape : namedFields item.shape = .ok declared)
    (hsettings : (Settings.ofAttributes item.attrs).2 = []) (hgenerics : item.generics = none) :
    ofItem item = if faults item declared = [] then .ok (ofDeclared item declared)
      else .error (faults item declared) := by
  unfold ofItem
  simp only [hshape, hsettings, hgenerics, bind, Except.bind, ← List.isEmpty_iff]
  rfl

/-- Only such a type is a model. -/
theorem exists_declared_of_ofItem {item : Item} {m : Model} (h : ofItem item = .ok m) :
    ∃ declared, namedFields item.shape = .ok declared ∧ faults item declared = [] ∧
      m = ofDeclared item declared := by
  cases hshape : namedFields item.shape with
  | error shape =>
    unfold ofItem at h
    simp only [hshape] at h
    cases h
  | ok declared =>
    have hsettings : (Settings.ofAttributes item.attrs).2 = [] := by
      cases hwrong : (Settings.ofAttributes item.attrs).2 with
      | nil => rfl
      | cons d ds =>
        unfold ofItem at h
        simp [hshape, hwrong, bind, Except.bind] at h
    have hgenerics : item.generics = none := by
      cases hspan : item.generics with
      | none => rfl
      | some span =>
        unfold ofItem at h
        simp [hshape, hsettings, hspan, bind, Except.bind] at h
    rw [ofItem_eq_ite hshape hsettings hgenerics] at h
    split at h
    · rename_i hnone
      exact ⟨declared, rfl, hnone, (Except.ok.inj h).symm⟩
    · cases h

/-- No two columns of a model have one constant. -/
theorem nodup_constants {item : Item} {m : Model} (h : ofItem item = .ok m) :
    (m.columns.map constName).Nodup := by
  obtain ⟨declared, -, hfaults, rfl⟩ := exists_declared_of_ofItem h
  obtain ⟨hread, -⟩ := List.append_eq_nil_iff.mp hfaults
  obtain ⟨-, hclashes⟩ := List.append_eq_nil_iff.mp hread
  rw [columns, List.map_map]
  exact (nodup_constants_of_clashes_eq_nil [] [] _ hclashes).1

end Model

end QueryChain
