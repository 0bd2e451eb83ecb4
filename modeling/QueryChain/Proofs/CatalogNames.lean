/-
# Repeated names in a catalog

The names of all methods, spelled out in catalog order.  There is a catalog exactly if none of them
repeats; otherwise the first one that does is reported on its field.  Repetitions only come from two
different fields: the endings and beginnings that tell the methods of one field apart also keep them
apart from the methods of the whole model.
-/
import QueryChain.Proofs.Catalog
import Mathlib.Data.List.Nodup

namespace QueryChain

/-! ## The names in order -/

/-- The names of the methods for the whole model. -/
def modelNames (updater : Bool) : List String :=
  ["limit", "offset", "all", "one", "count", "delete", "delete_num"]
    ++ if updater then ["get_updater"] else []

/-- What stands behind a field's name in the names of its filters. -/
def filterEndings (ordered textual nullable : Bool) : List String :=
  ["_eq", "_ne", "_in", "_not_in"]
    ++ (if ordered then ["_lt", "_lte", "_gt", "_gte"] else [])
    ++ (if textual then ["_like", "_not_like"] else [])
    ++ (if nullable then ["_is_null", "_is_not_null"] else [])

/-- The names of the methods of a field, which has none if it is skipped. -/
def fieldNames (f : ModelField) : List String :=
  let stem := dbName f.name
  if f.options.skip then []
  else if f.options.preload then ["preload_" ++ stem]
  else
    (filterEndings f.isOrdered f.kind.textual f.kind.nullable).map (stem ++ ·)
      ++ ["order_asc_by_" ++ stem, "order_desc_by_" ++ stem]

/-- All names in catalog order, whether they repeat or not. -/
def catalogNames (m : Model) : List String :=
  modelNames m.updater ++ m.fields.flatMap fieldNames

namespace Method

/-- The methods of the whole model have its names. -/
theorem map_name_onModel (m : Model) :
    ((ModelOperation.ofModel m).map onModel).map name = modelNames m.updater := by
  rw [ModelOperation.ofModel]
  cases m.updater <;> rfl

/-- Operations that come behind a field's name are what its methods end with. -/
theorem map_methodName_of_fieldFirst (f : ModelField) {ops : List FieldOperation}
    (h : ∀ op ∈ ops, op.fieldFirst = true) :
    ops.map (fun op => op.methodName f)
      = (ops.map fun op => "_" ++ op.name).map (dbName f.name ++ ·) := by
  rw [List.map_map]
  refine List.map_congr_left fun op hop => ?_
  rw [FieldOperation.methodName, methodName, if_pos (h op hop), String.append_assoc]
  rfl

/-- The methods of a column have its names. -/
theorem map_methodName_ofColumn (f : ModelField) :
    (FieldOperation.ofColumn f).map (fun op => op.methodName f)
      = (filterEndings f.isOrdered f.kind.textual f.kind.nullable).map (dbName f.name ++ ·)
        ++ ["order_asc_by_" ++ dbName f.name, "order_desc_by_" ++ dbName f.name] := by
  have hfilters : ∃ filters : List FieldOperation,
      FieldOperation.ofColumn f = filters ++ [.order .ascending, .order .descending] ∧
        (∀ op ∈ filters, op.fieldFirst = true) ∧
        filters.map (fun op => "_" ++ op.name)
          = filterEndings f.isOrdered f.kind.textual f.kind.nullable := by
    refine ⟨_, rfl, ?_⟩
    cases f.isOrdered <;> cases f.kind.textual <;> cases f.kind.nullable <;> decide
  obtain ⟨filters, hops, hfirst, hendings⟩ := hfilters
  rw [hops, List.map_append, map_methodName_of_fieldFirst f hfirst, hendings]
  rfl

/-- The methods of a field have its names. -/
theorem map_name_ofField (f : ModelField) : (ofField f).map name = fieldNames f := by
  have hnames : (ofField f).map name
      = (FieldOperation.ofField f).map fun op => op.methodName f := List.map_map
  rw [hnames, fieldNames, FieldOperation.ofField, ModelField.isColumn, ModelField.isPreload]
  cases f.options.skip with
  | true => rfl
  | false =>
    cases f.options.preload with
    | true => rfl
    | false => exact map_methodName_ofColumn f

/-- The names of all methods are those spelled out. -/
theorem map_name_listed (m : Model) : (listed m).map name = catalogNames m := by
  have hfields : m.fields.flatMap (fun f => (ofField f).map name) = m.fields.flatMap fieldNames :=
    congrArg (m.fields.flatMap ·) (funext map_name_ofField)
  rw [listed, List.map_append, map_name_onModel, List.map_flatMap, hfields, catalogNames]

end Method

/-! ## Names of one field -/

/-- The endings of a column's filters differ. -/
theorem nodup_filterEndings (ordered textual nullable : Bool) :
    (filterEndings ordered textual nullable).Nodup := by
  cases ordered <;> cases textual <;> cases nullable <;> decide

/-- An ending is one of those that an ordered, textual and nullable column has. -/
theorem filterEndings_subset (ordered textual nullable : Bool) :
    filterEndings ordered textual nullable ⊆ filterEndings true true true := by
  cases ordered <;> cases textual <;> cases nullable <;> decide

/-- The names of a column's methods differ. -/
theorem nodup_columnNames (stem : String) (ordered textual nullable : Bool) :
    ((filterEndings ordered textual nullable).map (stem ++ ·)
      ++ ["order_asc_by_" ++ stem, "order_desc_by_" ++ stem]).Nodup := by
  rw [List.nodup_append']
  refine ⟨?_, ?_, ?_⟩
  · exact (nodup_filterEndings _ _ _).map fun e e' h => (String.append_right_inj stem).mp h
  · exact List.Nodup.map (fun b b' h => (String.append_left_inj stem).mp h)
      (show ["order_asc_by_", "order_desc_by_"].Nodup by decide)
  · -- No ending is as long as the beginning of an order.
    have hshort : ∀ e ∈ filterEndings true true true, e.length < 13 := by decide
    intro n hfilter horder
    obtain ⟨ending, hending, rfl⟩ := List.mem_map.mp hfilter
    have hlt := hshort ending (filterEndings_subset _ _ _ hending)
    have hlong : stem.length + 13 ≤ (stem ++ ending).length := by
      have hbeginning : ∀ b ∈ ["order_asc_by_", "order_desc_by_"], 13 ≤ b.length := by decide
      obtain ⟨b, hb, heq⟩ : ∃ b ∈ ["order_asc_by_", "order_desc_by_"], b ++ stem = stem ++ ending :=
        List.mem_map.mp horder
      rw [← heq, String.length_append, Nat.add_comm]
      exact Nat.add_le_add_right (hbeginning b hb) _
    rw [String.length_append] at hlong
    omega

/-- All names of a field differ. -/
theorem nodup_fieldNames (f : ModelField) : (fieldNames f).Nodup := by
  rw [fieldNames]
  split
  · exact List.nodup_nil
  · split
    · exact List.nodup_singleton _
    · exact nodup_columnNames _ _ _ _

/-- A name of a field begins like an order or a request for a relation, or it ends like a filter. -/
theorem affix_of_mem_fieldNames {f : ModelField} {n : String} (h : n ∈ fieldNames f) :
    (∃ beginning ∈ ["order_asc_by_", "order_desc_by_", "preload_"],
        beginning.toList <+: n.toList) ∨
      ∃ ending ∈ filterEndings true true true, ending.toList <:+ n.toList := by
  have hbegins : ∀ beginning stem : String, beginning.toList <+: (beginning ++ stem).toList := by
    intro beginning stem
    rw [String.toList_append]
    exact List.prefix_append _ _
  rw [fieldNames] at h
  split at h
  · exact absurd h List.not_mem_nil
  · split at h
    · rw [List.mem_singleton.mp h]
      exact Or.inl ⟨"preload_", by simp, hbegins _ _⟩
    · rcases List.mem_append.mp h with hfilter | horder
      · obtain ⟨ending, hending, rfl⟩ := List.mem_map.mp hfilter
        refine Or.inr ⟨ending, filterEndings_subset _ _ _ hending, ?_⟩
        rw [String.toList_append]
        exact List.suffix_append _ _
      · rcases List.mem_cons.mp horder with rfl | hlast
        · exact Or.inl ⟨"order_asc_by_", by simp, hbegins _ _⟩
        · rw [List.mem_singleton.mp hlast]
          exact Or.inl ⟨"order_desc_by_", by simp, hbegins _ _⟩

/-- No method of a field is named like one of the whole model. -/
theorem disjoint_fieldNames_modelNames (f : ModelField) (updater : Bool) :
    (fieldNames f).Disjoint (modelNames updater) := by
  have hbeginning : ∀ beginning ∈ ["order_asc_by_", "order_desc_by_", "preload_"],
      ∀ n ∈ modelNames updater, ¬ beginning.toList <+: n.toList := by
    cases updater <;> decide
  have hending : ∀ ending ∈ filterEndings true true true,
      ∀ n ∈ modelNames updater, ¬ ending.toList <:+ n.toList := by
    cases updater <;> decide
  intro n hfield hmodel
  rcases affix_of_mem_fieldNames hfield with ⟨beginning, hmem, h⟩ | ⟨ending, hmem, h⟩
  · exact hbeginning beginning hmem n hmodel h
  · exact hending ending hmem n hmodel h

/-- No name of the whole model repeats. -/
theorem nodup_modelNames (updater : Bool) : (modelNames updater).Nodup := by
  cases updater <;> decide

/-- Names repeat exactly if two fields have one in common. -/
theorem nodup_catalogNames_iff (m : Model) :
    (catalogNames m).Nodup ↔
      m.fields.Pairwise fun f g => (fieldNames f).Disjoint (fieldNames g) := by
  rw [catalogNames, List.nodup_append', List.nodup_flatMap]
  constructor
  · exact fun h => h.2.1.2
  · intro h
    refine ⟨nodup_modelNames _, ⟨fun f _ => nodup_fieldNames f, h⟩, ?_⟩
    intro n hmodel hfields
    obtain ⟨f, -, hfield⟩ := List.mem_flatMap.mp hfields
    exact disjoint_fieldNames_modelNames f _ hfield hmodel

/-! ## The first repetition -/

/-- In the names of fields, next to names that are taken, the first one to repeat an earlier one is
`name`; it belongs to the field `f`, which stands behind the fields `before`. -/
def FirstRepetition (taken : List String) (fields before : List ModelField) (f : ModelField)
    (name : String) : Prop :=
  ∃ after early late, fields = before ++ f :: after ∧ fieldNames f = early ++ name :: late ∧
    (taken ++ before.flatMap fieldNames ++ early).Nodup ∧
    name ∈ taken ++ before.flatMap fieldNames ++ early

namespace Method

/-- A clash is the first of the names that repeats one before it or one that is taken. -/
theorem exists_of_firstClash?_eq_some {taken names : List String} {clash : String}
    (htaken : taken.Nodup) (h : firstClash? taken names = some clash) :
    ∃ early late, names = early ++ clash :: late ∧ (taken ++ early).Nodup ∧
      clash ∈ taken ++ early := by
  induction names generalizing taken with
  | nil => cases h
  | cons n rest ih =>
    rw [firstClash?] at h
    by_cases hn : n ∈ taken
    · rw [if_pos (List.contains_iff_mem.mpr hn), Option.some.injEq] at h
      subst h
      exact ⟨[], rest, rfl, by simpa using htaken, by simpa using hn⟩
    · rw [if_neg (fun hc => hn (List.contains_iff_mem.mp hc))] at h
      obtain ⟨early, late, rfl, hnodup, hclash⟩ := ih (List.nodup_cons.mpr ⟨hn, htaken⟩) h
      -- The name moves from those that are taken to those that come before the clash.
      have hperm : (n :: taken ++ early).Perm (taken ++ n :: early) := List.perm_middle.symm
      exact ⟨n :: early, late, rfl, hperm.nodup_iff.mp hnodup, hperm.mem_iff.mp hclash⟩

/-- If the methods of fields cannot be listed, the first repetition is reported. -/
theorem exists_of_ofFields_eq_error {taken : List String} {fields : List ModelField}
    {d : Diagnostic} (htaken : taken.Nodup) (h : ofFields taken fields = .error d) :
    ∃ before f n, FirstRepetition taken fields before f n ∧
      d = ⟨.methodClash n, some f.ident.span⟩ := by
  induction fields generalizing taken with
  | nil => cases h
  | cons g rest ih =>
    rw [ofFields, map_name_ofField] at h
    cases hclash : firstClash? taken (fieldNames g) with
    | some n =>
      rw [hclash] at h
      obtain ⟨early, late, hnames, hnodup, hmem⟩ := exists_of_firstClash?_eq_some htaken hclash
      refine ⟨[], g, n, ⟨rest, early, late, rfl, hnames, ?_, ?_⟩, (Except.error.inj h).symm⟩
      · simpa using hnodup
      · simpa using hmem
    | none =>
      obtain ⟨hnames, hfresh⟩ := (firstClash?_eq_none_iff _ _).mp hclash
      have htaken' : (fieldNames g ++ taken).Nodup :=
        List.nodup_append'.mpr ⟨hnames, htaken, fun n hn => hfresh n hn⟩
      have hrest : ofFields (fieldNames g ++ taken) rest = .error d := by
        rw [hclash] at h
        cases hfurther : ofFields (fieldNames g ++ taken) rest with
        | error d' =>
          rw [hfurther] at h
          exact h
        | ok further =>
          rw [hfurther] at h
          cases h
      obtain ⟨before, f, n, ⟨after, early, late, rfl, hf, hnodup, hmem⟩, rfl⟩ := ih htaken' hrest
      -- The names of this field come behind those that were taken.
      have hperm : (fieldNames g ++ taken ++ before.flatMap fieldNames ++ early).Perm
          (taken ++ (g :: before).flatMap fieldNames ++ early) := by
        rw [List.flatMap_cons, ← List.append_assoc]
        exact (List.perm_append_comm.append_right _).append_right _
      exact ⟨g :: before, f, n,
        ⟨after, early, late, rfl, hf, hperm.nodup_iff.mp hnodup, hperm.mem_iff.mp hmem⟩, rfl⟩

/-- There is no catalog exactly if the methods of the fields cannot be listed. -/
theorem catalog_eq_error_iff (m : Model) (d : Diagnostic) :
    catalog m = .error d ↔ ofFields (modelNames m.updater) m.fields = .error d := by
  rw [catalog, map_name_onModel]
  cases ofFields (modelNames m.updater) m.fields with
  | error d' => exact Iff.rfl
  | ok further =>
    constructor
    · intro h
      cases h
    · intro h
      cases h

end Method

/-! ## Main statement -/

/-- **When names repeat.** If no name repeats, the catalog has exactly the names spelled out, in their
order.  Otherwise the first name that repeats an earlier one is reported on its field, and that it is
defined by another field is true: one of the fields before has it.  For no field repeats a name of its
own or of the whole model, so all names differ exactly if no two fields have one in common. -/
theorem catalog_lists_names_unless_repeated (m : Model) :
    (((catalogNames m).Nodup ∧ ∃ methods, Method.catalog m = .ok methods ∧
        methods.map Method.name = catalogNames m) ∨
      (¬ (catalogNames m).Nodup ∧ ∃ before f n,
        FirstRepetition (modelNames m.updater) m.fields before f n ∧
        (∃ g ∈ before, n ∈ fieldNames g) ∧
        Method.catalog m = .error ⟨.methodClash n, some f.ident.span⟩ ∧
        (Diagnostic.mk (.methodClash n) (some f.ident.span)).message
          = "generated method " ++ ticked n ++ " is already defined by another field")) ∧
    (∀ f, (fieldNames f).Nodup ∧ (fieldNames f).Disjoint (modelNames m.updater)) ∧
    ((catalogNames m).Nodup ↔
      m.fields.Pairwise fun f g => (fieldNames f).Disjoint (fieldNames g)) := by
  refine ⟨?_, fun f => ⟨nodup_fieldNames f, disjoint_fieldNames_modelNames f _⟩,
    nodup_catalogNames_iff m⟩
  cases hcatalog : Method.catalog m with
  | ok methods =>
    obtain ⟨rfl, hnodup⟩ := (Method.catalog_eq_ok_iff m methods).mp hcatalog
    rw [Method.map_name_listed] at hnodup
    exact Or.inl ⟨hnodup, _, rfl, Method.map_name_listed m⟩
  | error d =>
    have hnot : ¬ (catalogNames m).Nodup := by
      intro hnodup
      rw [← Method.map_name_listed] at hnodup
      rw [(Method.catalog_eq_ok_iff m _).mpr ⟨rfl, hnodup⟩] at hcatalog
      cases hcatalog
    obtain ⟨before, f, n, hfirst, rfl⟩ := Method.exists_of_ofFields_eq_error
      (nodup_modelNames m.updater) ((Method.catalog_eq_error_iff m d).mp hcatalog)
    have hother : ∃ g ∈ before, n ∈ fieldNames g := by
      obtain ⟨after, early, late, -, hnames, -, hmem⟩ := hfirst
      have hn : n ∈ fieldNames f := by
        rw [hnames]
        exact List.mem_append_right _ List.mem_cons_self
      have hown : n ∉ early := by
        have hnodup := nodup_fieldNames f
        rw [hnames, List.nodup_append'] at hnodup
        exact fun hearly => hnodup.2.2 hearly List.mem_cons_self
      rw [List.mem_append, List.mem_append] at hmem
      rcases hmem with (hmodel | hbefore) | hearly
      · exact absurd hmodel fun h => disjoint_fieldNames_modelNames f _ hn h
      · exact List.mem_flatMap.mp hbefore
      · exact absurd hearly hown
    exact Or.inr ⟨hnot, before, f, n, hfirst, hother, rfl, rfl⟩

end QueryChain
