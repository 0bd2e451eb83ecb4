/-
# One more field

What is generated for a type walks its fields several times, and each walk leaves out on its own
the fields that are no columns.  So a field that is skipped changes nothing, wherever it is put in,
and a relation adds one method to the query builder, behind those of the fields before it.
-/
import QueryChain.Proofs.CatalogNames
import QueryChain.Proofs.SharedColumns

namespace QueryChain

/-! ## Keys of a field -/

/-- The keys of a field, in all its attributes. -/
def Field.keys (f : Field) : Except Diagnostic (List FieldKey) := do
  let lists ← (f.attrs.filter (·.path.isWord "queryset")).mapM Attribute.fieldKeys
  return lists.flatten

namespace FieldOptions

/-- A field is skipped if one of its keys says so. -/
theorem skip_foldl_add (o : FieldOptions) (keys : List FieldKey) :
    (keys.foldl add o).skip = true ↔ o.skip = true ∨ .skip ∈ keys := by
  induction keys generalizing o with
  | nil => simp
  | cons key rest ih =>
    rw [List.foldl_cons, ih]
    cases key <;> simp [add]

/-- Likewise for relations. -/
theorem preload_foldl_add (o : FieldOptions) (keys : List FieldKey) :
    (keys.foldl add o).preload = true ↔ o.preload = true ∨ .preload ∈ keys := by
  induction keys generalizing o with
  | nil => simp
  | cons key rest ih =>
    rw [List.foldl_cons, ih]
    cases key <;> simp [add]

/-- And for columns. -/
theorem isSome_column_foldl_add (o : FieldOptions) (keys : List FieldKey) :
    (keys.foldl add o).column.isSome = true
      ↔ o.column.isSome = true ∨ ∃ name, .column name ∈ keys := by
  induction keys generalizing o with
  | nil => simp
  | cons key rest ih =>
    rw [List.foldl_cons, ih]
    cases key <;> simp [add]

/-- Keys contradict each other if there is one for a relation and one for a column. -/
theorem isContradictory_foldl_add_iff (o : FieldOptions) (keys : List FieldKey) :
    (keys.foldl add o).isContradictory = true
      ↔ (o.preload = true ∨ .preload ∈ keys)
        ∧ (o.column.isSome = true ∨ ∃ name, .column name ∈ keys) := by
  rw [isContradictory, Bool.and_eq_true, preload_foldl_add, isSome_column_foldl_add]

/-- Without a contradiction, all keys are taken into account. -/
theorem foldlM_merge_eq_ok {attrs : List Attribute} {lists : List (List FieldKey)}
    (o : FieldOptions) (hkeys : attrs.mapM Attribute.fieldKeys = .ok lists)
    (hsound : ¬ (lists.flatten.foldl add o).isContradictory = true) :
    attrs.foldlM merge o = .ok (lists.flatten.foldl add o) := by
  induction attrs generalizing o lists with
  | nil =>
    rw [List.mapM_nil] at hkeys
    cases hkeys
    rfl
  | cons a rest ih =>
    rw [List.mapM_cons] at hkeys
    cases hfirst : a.fieldKeys with
    | error d =>
      rw [hfirst] at hkeys
      cases hkeys
    | ok keys =>
      cases hrest : rest.mapM Attribute.fieldKeys with
      | error d =>
        rw [hfirst, hrest] at hkeys
        cases hkeys
      | ok further =>
        rw [hfirst, hrest] at hkeys
        cases hkeys
        rw [List.flatten_cons, List.foldl_append] at hsound ⊢
        -- A contradiction among the first keys would stay one with all others.
        have hstart : ¬ (keys.foldl add o).isContradictory = true := by
          intro hboth
          apply hsound
          rw [isContradictory_foldl_add_iff]
          rw [isContradictory, Bool.and_eq_true] at hboth
          exact ⟨Or.inl hboth.1, Or.inl hboth.2⟩
        have hmerge : merge o a = .ok (keys.foldl add o) := by
          rw [merge, hfirst]
          exact if_neg hstart
        rw [List.foldlM_cons, hmerge]
        exact ih _ hrest hsound

end FieldOptions

/-- A field whose keys can be read, and are not both for a relation and for a column, is read, with
what its keys ask for. -/
theorem exists_ofField_of_keys {f : Field} {keys : List FieldKey} (hkeys : f.keys = .ok keys)
    (hpair : ¬ (.preload ∈ keys ∧ ∃ name, .column name ∈ keys)) :
    ∃ field, ModelField.ofField f = .ok field ∧ field.ident = f.ident
      ∧ field.options = keys.foldl FieldOptions.add {} := by
  rw [Field.keys] at hkeys
  cases hlists : (f.attrs.filter (·.path.isWord "queryset")).mapM Attribute.fieldKeys with
  | error d =>
    rw [hlists] at hkeys
    cases hkeys
  | ok lists =>
    rw [hlists] at hkeys
    cases hkeys
    have hsound : ¬ (lists.flatten.foldl FieldOptions.add {}).isContradictory = true := by
      rw [FieldOptions.isContradictory_foldl_add_iff]
      simpa using hpair
    have hoptions : FieldOptions.ofAttributes f.attrs
        = .ok (lists.flatten.foldl FieldOptions.add {}) :=
      FieldOptions.foldlM_merge_eq_ok {} hlists hsound
    rw [ModelField.ofField, hoptions]
    exact ⟨_, rfl, rfl, rfl⟩

/-! ## Reading a type with one more field -/

/-- The same item with these fields. -/
def Item.withFields (item : Item) (fields : List Field) : Item :=
  { item with shape := .named fields }

/-- The same model with these fields. -/
def Model.withFields (m : Model) (fields : List ModelField) : Model :=
  { m with fields }

section

variable {f : Field} {field : ModelField}

/-- A field that is read is one of those that are right. -/
theorem soundField?_of_ofField (hread : ModelField.ofField f = .ok field) :
    soundField? f = some field := by
  rw [soundField?, hread]
  rfl

/-- A field that is read has no wrong attribute. -/
theorem attributeFault?_of_ofField (hread : ModelField.ofField f = .ok field) :
    attributeFault? f = none := by
  rcases ofField_cases f with ⟨-, -, hright⟩ | ⟨d, hwrong, -⟩
  · exact hright
  · rw [hread] at hwrong
    cases hwrong

/-- One more field that is no column is no fault and causes none. -/
theorem faults_insert (item : Item) (before after : List Field)
    (hread : ModelField.ofField f = .ok field) (hcolumn : field.isColumn = false) :
    Model.faults item (before ++ f :: after) = Model.faults item (before ++ after) := by
  have hwrong : (before ++ f :: after).filterMap attributeFault?
      = (before ++ after).filterMap attributeFault? := by
    rw [List.filterMap_append, List.filterMap_append,
      List.filterMap_cons_none (attributeFault?_of_ofField hread)]
  have hcolumns : ((before ++ f :: after).filterMap soundField?).filter (·.isColumn)
      = ((before ++ after).filterMap soundField?).filter (·.isColumn) := by
    rw [List.filterMap_append, List.filterMap_append,
      List.filterMap_cons_some (soundField?_of_ofField hread), List.filter_append,
      List.filter_append, List.filter_cons_of_neg (by simp [hcolumn])]
  rw [Model.faults, Model.faults, readFields_eq, readFields_eq]
  dsimp only
  rw [hwrong, hcolumns]

end

/-- Whether fields are looked at depends on the settings and the parameters only; if they are, a
type is a model unless something is wrong with them or with the table. -/
theorem ofItem_withFields (item : Item) :
    (∃ ds, ∀ declared, Model.ofItem (item.withFields declared) = .error ds) ∨
      ∀ declared, Model.ofItem (item.withFields declared)
        = if Model.faults item declared = [] then .ok (Model.ofDeclared item declared)
          else .error (Model.faults item declared) := by
  cases hwrong : (Settings.ofAttributes item.attrs).2 with
  | cons d ds =>
    left
    refine ⟨d :: ds, fun declared => ?_⟩
    unfold Model.ofItem
    simp [Item.withFields, Model.namedFields, hwrong, bind, Except.bind]
  | nil =>
    cases hgenerics : item.generics with
    | some span =>
      left
      refine ⟨[⟨.generic, some span⟩], fun declared => ?_⟩
      unfold Model.ofItem
      simp [Item.withFields, Model.namedFields, hwrong, hgenerics, bind, Except.bind]
    | none =>
      right
      intro declared
      exact Model.ofItem_eq_ite rfl hwrong hgenerics

/-- A model has the fields that are right, and nothing else depends on them. -/
theorem ofDeclared_eq_withFields (item : Item) (declared : List Field) :
    Model.ofDeclared item declared
      = (Model.ofDeclared item []).withFields (declared.filterMap soundField?) := by
  rw [Model.ofDeclared, readFields_eq]
  rfl

/-- With one more field that is no column, a type is rejected for the same reasons before its
methods are compared, or it has the same model but for the field. -/
theorem expand_withFields_insert (item : Item) (before after : List Field) {f : Field}
    {field : ModelField} (hread : ModelField.ofField f = .ok field)
    (hcolumn : field.isColumn = false) :
    (∃ ds, (item.withFields (before ++ after)).expand = .error ds ∧
      (item.withFields (before ++ f :: after)).expand = .error ds) ∨
    ∃ m : Model, m.builderName = unraw item.ident.name ++ "QuerySet" ∧
      m.updater = (Settings.ofAttributes item.attrs).1.updater ∧
      (item.withFields (before ++ after)).expand
        = (m.withFields (before.filterMap soundField?
            ++ after.filterMap soundField?)).expand.mapError (fun d => [d]) ∧
      (item.withFields (before ++ f :: after)).expand
        = (m.withFields (before.filterMap soundField?
            ++ field :: after.filterMap soundField?)).expand.mapError (fun d => [d]) := by
  have hsound : (before ++ f :: after).filterMap soundField?
      = before.filterMap soundField? ++ field :: after.filterMap soundField? := by
    rw [List.filterMap_append, List.filterMap_cons_some (soundField?_of_ofField hread)]
  have hfaults := faults_insert item before after hread hcolumn
  rw [Item.expand, Item.expand]
  rcases ofItem_withFields item with ⟨ds, hrejected⟩ | hread
  · left
    exact ⟨ds, by rw [hrejected]; rfl, by rw [hrejected]; rfl⟩
  · rw [hread, hread, hfaults]
    by_cases hnone : Model.faults item (before ++ after) = []
    · right
      rw [if_pos hnone, if_pos hnone, ofDeclared_eq_withFields item (before ++ after),
        ofDeclared_eq_withFields item (before ++ f :: after), hsound, List.filterMap_append]
      exact ⟨Model.ofDeclared item [], rfl, rfl, rfl, rfl⟩
    · left
      rw [if_neg hnone, if_neg hnone]
      exact ⟨_, rfl, rfl⟩

/-! ## Generated items -/

namespace Model

variable (m : Model) (fields : List ModelField)

/-- The declaration of a method does not depend on other fields. -/
theorem signature_withFields (method : Method) :
    method.signature (m.withFields fields) = method.signature m := by
  cases method with
  | onModel op => cases op <;> rfl
  | onField g op => rfl

/-- The query builder depends on its methods only. -/
theorem builderItems_withFields (methods : List Method) :
    builderItems (m.withFields fields) methods = builderItems m methods := by
  unfold builderItems
  simp only [signature_withFields]
  rfl

/-- The items that are generated for the columns. -/
def columnItems : List GeneratedItem :=
  (if m.updater then updaterItems m else []) ++ schemaItems m

/-- The updater and the schema depend on the columns only. -/
theorem columnItems_withFields {fields fields' : List ModelField}
    (h : fields.filter (·.isColumn) = fields'.filter (·.isColumn)) :
    (m.withFields fields).columnItems = (m.withFields fields').columnItems := by
  have hfields : (m.withFields fields).columnFields = (m.withFields fields').columnFields := h
  have hcolumns : (m.withFields fields).columns = (m.withFields fields').columns :=
    congrArg (List.map ModelField.column) h
  have hupdater : updaterItems (m.withFields fields) = updaterItems (m.withFields fields') := by
    unfold updaterItems
    rw [hfields]
    rfl
  have hschema : schemaItems (m.withFields fields) = schemaItems (m.withFields fields') := by
    unfold schemaItems
    rw [hcolumns]
    rfl
  rw [columnItems, columnItems, hupdater, hschema]
  rfl

/-- The query builder comes first, and then what is generated for the columns. -/
theorem generatedItems_withFields :
    (m.withFields fields).generatedItems
      = builderItems m (Method.listed (m.withFields fields))
        ++ (m.withFields fields).columnItems := by
  rw [generatedItems, builderItems_withFields, List.append_assoc]
  rfl

end Model

/-! ## Methods of one more field -/

namespace Method

/-- Whether a name clashes depends on nothing but which of the names are taken. -/
theorem firstClash?_congr {taken taken' names : List String}
    (h : ∀ n ∈ names, (n ∈ taken ↔ n ∈ taken')) :
    firstClash? taken names = firstClash? taken' names := by
  induction names generalizing taken taken' with
  | nil => rfl
  | cons n rest ih =>
    rw [List.forall_mem_cons] at h
    have hcontains : taken.contains n = taken'.contains n := by
      rw [Bool.eq_iff_iff, List.contains_iff_mem, List.contains_iff_mem]
      exact h.1
    have hrest : firstClash? (n :: taken) rest = firstClash? (n :: taken') rest := by
      apply ih
      intro n' hn'
      rw [List.mem_cons, List.mem_cons, h.2 n' hn']
    rw [firstClash?, firstClash?, hcontains, hrest]

/-- Names that no field has can be taken or not. -/
theorem ofFields_congr {taken taken' : List String} {fields : List ModelField}
    (h : ∀ g ∈ fields, ∀ n ∈ fieldNames g, (n ∈ taken ↔ n ∈ taken')) :
    ofFields taken fields = ofFields taken' fields := by
  induction fields generalizing taken taken' with
  | nil => rfl
  | cons g rest ih =>
    rw [List.forall_mem_cons] at h
    have hrest :
        ofFields (fieldNames g ++ taken) rest = ofFields (fieldNames g ++ taken') rest := by
      apply ih
      intro g' hg' n hn
      rw [List.mem_append, List.mem_append, h.2 g' hg' n hn]
    rw [ofFields, ofFields, map_name_ofField, firstClash?_congr h.1, hrest]

/-- The methods of fields cannot be listed if the first field clashes or those behind it do. -/
theorem ofFields_cons_eq_error_iff (taken : List String) (f : ModelField)
    (fields : List ModelField) (d : Diagnostic) :
    ofFields taken (f :: fields) = .error d ↔
      (∃ clash, firstClash? taken (fieldNames f) = some clash ∧
        d = ⟨.methodClash clash, some f.ident.span⟩) ∨
      (firstClash? taken (fieldNames f) = none ∧
        ofFields (fieldNames f ++ taken) fields = .error d) := by
  rw [ofFields, map_name_ofField]
  cases firstClash? taken (fieldNames f) with
  | some clash => simp [eq_comm]
  | none =>
    cases ofFields (fieldNames f ++ taken) fields with
    | error d' => simp [bind, Except.bind]
    | ok further => simp [bind, Except.bind, pure, Except.pure]

/-- One more field, with names that no other has and that are not taken, is not reported and changes
nothing about what is. -/
theorem ofFields_insert_eq_error_iff {taken : List String} {before after : List ModelField}
    {field : ModelField} (htaken : (fieldNames field).Disjoint taken)
    (hfresh : ∀ g ∈ before ++ after, (fieldNames field).Disjoint (fieldNames g)) (d : Diagnostic) :
    ofFields taken (before ++ field :: after) = .error d ↔
      ofFields taken (before ++ after) = .error d := by
  -- The names of each field before are taken for the next one, and the new ones are not among them.
  induction before generalizing taken with
  | nil =>
    have hclash : firstClash? taken (fieldNames field) = none :=
      (firstClash?_eq_none_iff _ _).mpr ⟨nodup_fieldNames field, fun n hn => htaken hn⟩
    have hafter : ofFields (fieldNames field ++ taken) after = ofFields taken after := by
      apply ofFields_congr
      intro g hg n hn
      have hother : n ∉ fieldNames field := fun hown => hfresh g hg hown hn
      simp [hother]
    rw [List.nil_append, ofFields_cons_eq_error_iff, hclash, hafter]
    simp
  | cons g rest ih =>
    have hg : (fieldNames field).Disjoint (fieldNames g) := hfresh g List.mem_cons_self
    have hrest : (fieldNames field).Disjoint (fieldNames g ++ taken) :=
      List.disjoint_append_right.mpr ⟨hg, htaken⟩
    rw [List.cons_append, List.cons_append, ofFields_cons_eq_error_iff,
      ofFields_cons_eq_error_iff, ih hrest fun g' hg' => hfresh g' (List.mem_cons_of_mem g hg')]

end Method

namespace Model

variable (m : Model) {before after : List ModelField} {field : ModelField}

/-- All names differ with one more field exactly if they differ without it and no other field has
one of its names. -/
theorem nodup_names_insert_iff :
    ((Method.listed (m.withFields (before ++ field :: after))).map Method.name).Nodup ↔
      (∀ g ∈ before ++ after, (fieldNames field).Disjoint (fieldNames g)) ∧
        ((Method.listed (m.withFields (before ++ after))).map Method.name).Nodup := by
  rw [Method.map_name_listed, Method.map_name_listed, nodup_catalogNames_iff,
    nodup_catalogNames_iff]
  show List.Pairwise _ (before ++ field :: after) ↔ _ ∧ List.Pairwise _ (before ++ after)
  rw [List.pairwise_middle fun h => h.symm, List.pairwise_cons]

/-- A model is not expanded if its catalog cannot be made. -/
theorem expand_eq_error_iff (d : Diagnostic) :
    m.expand = .error d ↔ Method.ofFields (modelNames m.updater) m.fields = .error d := by
  rw [← Method.catalog_eq_error_iff, expand]
  cases Method.catalog m with
  | error d' => simp [bind, Except.bind]
  | ok methods => simp [bind, Except.bind, pure, Except.pure]

/-- One more field with names of its own leaves what is wrong as it was. -/
theorem expand_insert_eq_error_iff
    (hfresh : ∀ g ∈ before ++ after, (fieldNames field).Disjoint (fieldNames g)) (d : Diagnostic) :
    (m.withFields (before ++ field :: after)).expand = .error d ↔
      (m.withFields (before ++ after)).expand = .error d := by
  rw [expand_eq_error_iff, expand_eq_error_iff]
  exact Method.ofFields_insert_eq_error_iff (disjoint_fieldNames_modelNames field _) hfresh d

/-- The methods of one more field stand behind those of the fields before it. -/
theorem listed_insert :
    Method.listed (m.withFields (before ++ field :: after))
      = (ModelOperation.ofModel m).map Method.onModel ++ before.flatMap Method.ofField
        ++ (Method.ofField field ++ after.flatMap Method.ofField) := by
  rw [Method.listed, List.append_assoc]
  show _ ++ (before ++ field :: after).flatMap Method.ofField = _
  rw [List.flatMap_append, List.flatMap_cons]
  rfl

/-- Without it, those of the fields behind it follow. -/
theorem listed_append :
    Method.listed (m.withFields (before ++ after))
      = (ModelOperation.ofModel m).map Method.onModel ++ before.flatMap Method.ofField
        ++ after.flatMap Method.ofField := by
  rw [Method.listed, List.append_assoc]
  show _ ++ (before ++ after).flatMap Method.ofField = _
  rw [List.flatMap_append]
  rfl

/-- One more field that is no column leaves the items for the columns as they are. -/
theorem columnItems_insert (hcolumn : field.isColumn = false) :
    (m.withFields (before ++ field :: after)).columnItems
      = (m.withFields (before ++ after)).columnItems := by
  apply columnItems_withFields
  rw [List.filter_append, List.filter_append, List.filter_cons_of_neg (by simp [hcolumn])]

/-- A field that is no column and has no methods changes nothing. -/
theorem expand_insert_of_ofField_eq_nil (hcolumn : field.isColumn = false)
    (hnone : Method.ofField field = []) :
    (m.withFields (before ++ field :: after)).expand = (m.withFields (before ++ after)).expand := by
  have hlisted : Method.listed (m.withFields (before ++ field :: after))
      = Method.listed (m.withFields (before ++ after)) := by
    rw [listed_insert, listed_append, hnone, List.nil_append]
  have hfresh : ∀ g ∈ before ++ after, (fieldNames field).Disjoint (fieldNames g) := by
    intro g _
    rw [← Method.map_name_ofField, hnone]
    exact List.disjoint_nil_left _
  cases hold : (m.withFields (before ++ after)).expand with
  | error d => exact (m.expand_insert_eq_error_iff hfresh d).mpr hold
  | ok items =>
    rw [expand_eq_ok_iff] at hold ⊢
    rw [hlisted, generatedItems_withFields, hlisted, columnItems_insert m hcolumn,
      ← generatedItems_withFields]
    exact hold

end Model

/-! ## One more member -/

/-- The second items are the first with one more member: in an implementation of the type, behind
members that declare the names before and in front of those that declare the names after. -/
def InsertsMember (type : String) (before : List String) (member : Code) (after : List String)
    (items items' : List GeneratedItem) : Prop :=
  ∃ start head front back rest,
    items = start ++ .implementation head (front ++ back) :: rest ∧
    items' = start ++ .implementation head (front ++ member :: back) :: rest ∧
    Code.selfType? head = some type ∧
    front.map Code.declaredName? = before.map some ∧
    back.map Code.declaredName? = after.map some

/-- Methods declare their names, one each. -/
theorem map_declaredName?_methods (m : Model) (methods : List Method) :
    (methods.map fun method => (method.signature m).code).map Code.declaredName?
      = (methods.map Method.name).map some := by
  rw [List.map_map, List.map_map]
  refine List.map_congr_left fun method _ => ?_
  show Code.declaredName? (method.signature m).code = some method.name
  rw [declaredName?_signature, Method.name_signature]

/-- The query builder is made of its methods, those that go on with the chain and those that run a
query, and of what every builder has. -/
theorem builderItems_eq (m : Model) (methods : List Method) :
    builderItems m methods
      = (builderItems m []).take 1
        ++ .implementation (implHead m.builderName false) (builderMembers m []
            ++ (methods.filter (·.isTerminal == false)).map fun method =>
              (method.signature m).code)
        :: .implementation (implHead m.builderName true)
            ((methods.filter (·.isTerminal == true)).map fun method => (method.signature m).code)
        :: (builderItems m []).drop 3 := rfl

/-- One more method that goes on with the chain is one more member of the query builder. -/
theorem insertsMember_builderItems (m : Model) (before after : List Method) (method : Method)
    (hchained : method.isTerminal = false) (rest : List GeneratedItem) :
    InsertsMember m.builderName
      (["new", "from_executor", "db", "into_db"]
        ++ (before.filter (·.isTerminal == false)).map Method.name)
      (method.signature m).code ((after.filter (·.isTerminal == false)).map Method.name)
      (builderItems m (before ++ after) ++ rest)
      (builderItems m (before ++ method :: after) ++ rest) := by
  have hfor : m.builderName ≠ "for" := m.typeName_ne_of_length_lt (by decide)
  have hterminal : (before ++ method :: after).filter (·.isTerminal == true)
      = (before ++ after).filter (·.isTerminal == true) := by
    rw [List.filter_append, List.filter_append, List.filter_cons_of_neg (by simp [hchained])]
  have hnew : (before ++ method :: after).filter (·.isTerminal == false)
      = before.filter (·.isTerminal == false)
        ++ method :: after.filter (·.isTerminal == false) := by
    rw [List.filter_append, List.filter_cons_of_pos (by simp [hchained])]
  refine ⟨(builderItems m []).take 1, implHead m.builderName false, builderMembers m []
      ++ (before.filter (·.isTerminal == false)).map fun method => (method.signature m).code,
    (after.filter (·.isTerminal == false)).map fun method => (method.signature m).code,
    .implementation (implHead m.builderName true)
        (((before ++ after).filter (·.isTerminal == true)).map fun method =>
          (method.signature m).code)
      :: (builderItems m []).drop 3 ++ rest,
    ?_, ?_, selfType?_implHead hfor false, ?_, map_declaredName?_methods m _⟩
  · rw [builderItems_eq, List.filter_append, List.map_append, List.append_assoc, List.append_assoc]
    rfl
  · rw [builderItems_eq, hnew, hterminal, List.map_append, List.map_cons, List.append_assoc,
      List.append_assoc]
    rfl
  · rw [List.map_append, map_declaredName?_methods, List.map_append]
    rfl

/-- No method of a field runs a query. -/
theorem filter_ofFields (fields : List ModelField) :
    (fields.flatMap Method.ofField).filter (·.isTerminal == false)
      = fields.flatMap Method.ofField := by
  rw [List.filter_eq_self]
  intro method hmethod
  obtain ⟨g, -, hg⟩ := List.mem_flatMap.mp hmethod
  obtain ⟨op, -, rfl⟩ := List.mem_map.mp hg
  rfl

/-- The methods of fields have the names of the fields. -/
theorem map_name_ofFields (fields : List ModelField) :
    (fields.flatMap Method.ofField).map Method.name = fields.flatMap fieldNames := by
  rw [List.map_flatMap]
  exact congrArg (fields.flatMap ·) (funext Method.map_name_ofField)

/-- Of the methods of the whole model, these go on with the chain. -/
theorem map_name_filter_ofModel (m : Model) :
    (((ModelOperation.ofModel m).map Method.onModel).filter (·.isTerminal == false)).map Method.name
      = ["limit", "offset"] ++ if m.updater then ["get_updater"] else [] := by
  rw [ModelOperation.ofModel]
  cases m.updater <;> rfl

/-- No relation is a column. -/
theorem isColumn_of_isPreload {field : ModelField} (h : field.isPreload = true) :
    field.isColumn = false := by
  rw [← Bool.not_eq_true]
  intro hcolumn
  rw [ModelField.not_isPreload_of_isColumn hcolumn] at h
  cases h

/-- One more relation is one more member of the query builder. -/
theorem insertsMember_generatedItems (m : Model) (before after : List ModelField)
    {field : ModelField} (hrelation : field.isPreload = true) :
    InsertsMember m.builderName
      (["new", "from_executor", "db", "into_db", "limit", "offset"]
        ++ (if m.updater then ["get_updater"] else []) ++ before.flatMap fieldNames)
      (FieldOperation.preload.signature field).code (after.flatMap fieldNames)
      (m.withFields (before ++ after)).generatedItems
      (m.withFields (before ++ field :: after)).generatedItems := by
  have hcolumn := isColumn_of_isPreload hrelation
  have hmethods : Method.ofField field = [.onField field .preload] := by
    rw [Method.ofField, FieldOperation.ofField, hcolumn, hrelation]
    rfl
  have hinserted := insertsMember_builderItems m
    ((ModelOperation.ofModel m).map Method.onModel ++ before.flatMap Method.ofField)
    (after.flatMap Method.ofField) (.onField field .preload) rfl
    (m.withFields (before ++ after)).columnItems
  have hcode : (Method.onField field .preload).signature m
      = FieldOperation.preload.signature field := rfl
  rw [List.filter_append, filter_ofFields, filter_ofFields, List.map_append, map_name_ofFields,
    map_name_ofFields, map_name_filter_ofModel, hcode] at hinserted
  rw [Model.generatedItems_withFields, Model.generatedItems_withFields, Model.listed_append,
    Model.listed_insert, Model.columnItems_insert m hcolumn, hmethods]
  simpa using hinserted

/-- A model that is expanded without a relation is expanded with it exactly if no other field has a
method named like its own; then this method is added. -/
theorem expand_insert_of_isPreload (m : Model) {before after : List ModelField}
    {field : ModelField} (hrelation : field.isPreload = true) {items : List GeneratedItem}
    (hexpand : (m.withFields (before ++ after)).expand = .ok items) :
    ((∃ items', (m.withFields (before ++ field :: after)).expand = .ok items') ↔
      ∀ g ∈ before ++ after, (fieldNames field).Disjoint (fieldNames g)) ∧
    ∀ items', (m.withFields (before ++ field :: after)).expand = .ok items' →
      InsertsMember m.builderName
        (["new", "from_executor", "db", "into_db", "limit", "offset"]
          ++ (if m.updater then ["get_updater"] else []) ++ before.flatMap fieldNames)
        (FieldOperation.preload.signature field).code (after.flatMap fieldNames) items items' := by
  obtain ⟨hnodup, rfl⟩ := (Model.expand_eq_ok_iff _ _).mp hexpand
  constructor
  · constructor
    · rintro ⟨items', hexpand'⟩
      have hnodup' := ((Model.expand_eq_ok_iff _ _).mp hexpand').1
      exact (m.nodup_names_insert_iff.mp hnodup').1
    · intro hfresh
      have hnodup' := m.nodup_names_insert_iff.mpr ⟨hfresh, hnodup⟩
      exact ⟨_, (Model.expand_eq_ok_iff _ _).mpr ⟨hnodup', rfl⟩⟩
  · intro items' hexpand'
    obtain ⟨-, rfl⟩ := (Model.expand_eq_ok_iff _ _).mp hexpand'
    exact insertsMember_generatedItems m before after hrelation

/-! ## One more field of a type -/

/-- What is wrong with a model is all that is wrong with its type. -/
theorem mapError_singleton_eq_error_iff {α : Type} (result : Except Diagnostic α)
    (ds : List Diagnostic) :
    result.mapError (fun d => [d]) = .error ds ↔ ∃ d, result = .error d ∧ ds = [d] := by
  cases result with
  | error d => simp [Except.mapError, eq_comm]
  | ok a => simp [Except.mapError]

/-- What comes out of a model comes out of its type. -/
theorem mapError_singleton_eq_ok_iff {α : Type} (result : Except Diagnostic α) (a : α) :
    result.mapError (fun d => [d]) = .ok a ↔ result = .ok a := by
  cases result <;> simp [Except.mapError]

section

variable (item : Item) (before after : List Field) {f : Field} {field : ModelField}

/-- A field that is skipped changes nothing. -/
theorem expand_insert_of_skip (hread : ModelField.ofField f = .ok field)
    (hskipped : field.options.skip = true) :
    (item.withFields (before ++ f :: after)).expand
      = (item.withFields (before ++ after)).expand := by
  have hcolumn : field.isColumn = false := by simp [ModelField.isColumn, hskipped]
  have hnone : Method.ofField field = [] := by
    simp [Method.ofField, FieldOperation.ofField, hcolumn, ModelField.isPreload, hskipped]
  rcases expand_withFields_insert item before after hread hcolumn with
    ⟨ds, hold, hnew⟩ | ⟨m, -, -, hold, hnew⟩
  · rw [hold, hnew]
  · rw [hold, hnew, m.expand_insert_of_ofField_eq_nil hcolumn hnone]

/-- A relation whose method has a name of its own leaves faults as they are. -/
theorem expand_insert_eq_error_iff_of_isPreload (hread : ModelField.ofField f = .ok field)
    (hrelation : field.isPreload = true)
    (hfresh : ∀ g ∈ (before ++ after).filterMap soundField?,
      (fieldNames field).Disjoint (fieldNames g)) (ds : List Diagnostic) :
    (item.withFields (before ++ f :: after)).expand = .error ds ↔
      (item.withFields (before ++ after)).expand = .error ds := by
  have hcolumn := isColumn_of_isPreload hrelation
  rw [List.filterMap_append] at hfresh
  rcases expand_withFields_insert item before after hread hcolumn with
    ⟨ds', hold, hnew⟩ | ⟨m, -, -, hold, hnew⟩
  · rw [hold, hnew]
  · rw [hold, hnew, mapError_singleton_eq_error_iff, mapError_singleton_eq_error_iff]
    simp only [m.expand_insert_eq_error_iff hfresh]

/-- A type that is expanded without a relation is expanded with it exactly if the relation's method
has a name of its own; then this method is added. -/
theorem expand_insert_eq_ok_of_isPreload (hread : ModelField.ofField f = .ok field)
    (hrelation : field.isPreload = true) {items : List GeneratedItem}
    (hexpand : (item.withFields (before ++ after)).expand = .ok items) :
    ((∃ items', (item.withFields (before ++ f :: after)).expand = .ok items') ↔
      ∀ g ∈ (before ++ after).filterMap soundField?,
        (fieldNames field).Disjoint (fieldNames g)) ∧
    ∀ items', (item.withFields (before ++ f :: after)).expand = .ok items' →
      InsertsMember (unraw item.ident.name ++ "QuerySet")
        (["new", "from_executor", "db", "into_db", "limit", "offset"]
          ++ (if (Settings.ofAttributes item.attrs).1.updater then ["get_updater"] else [])
          ++ (before.filterMap soundField?).flatMap fieldNames)
        (FieldOperation.preload.signature field).code
        ((after.filterMap soundField?).flatMap fieldNames) items items' := by
  have hcolumn := isColumn_of_isPreload hrelation
  rcases expand_withFields_insert item before after hread hcolumn with
    ⟨ds, hold, -⟩ | ⟨m, hbuilder, hupdater, hold, hnew⟩
  · rw [hold] at hexpand
    cases hexpand
  · rw [hold, mapError_singleton_eq_ok_iff] at hexpand
    rw [hnew, List.filterMap_append, ← hbuilder, ← hupdater]
    simp only [mapError_singleton_eq_ok_iff]
    exact expand_insert_of_isPreload m hrelation hexpand

end

/-! ## Main statement -/

/-- **One more field.** Take a field whose keys can be read and are not both for a relation and for
a column; its name, its type and its documentation may be any.  If it is to be skipped, a type with
it is expanded into the same code as without it, or rejected for the same reasons, wherever it
stands among the fields.  If it is a relation, and no other field has a method named like the one
that loads it, a type with it is rejected exactly for the reasons for which it is rejected without
it; and a type that is expanded without it is expanded with it as well, exactly under this
condition.  Then the one change is a member of the query builder, which stands behind the methods of
the fields before it. -/
theorem inserted_field_adds_relation_at_most (item : Item) (before after : List Field) (f : Field)
    (keys : List FieldKey) (hkeys : f.keys = .ok keys)
    (hpair : ¬ (.preload ∈ keys ∧ ∃ name, .column name ∈ keys)) :
    let expansion := (item.withFields (before ++ after)).expand
    let expansion' := (item.withFields (before ++ f :: after)).expand
    (.skip ∈ keys → expansion' = expansion) ∧
    (.skip ∉ keys → .preload ∈ keys →
      let relation := "preload_" ++ dbName (unraw f.ident.name)
      let fresh := ∀ g ∈ (before ++ after).filterMap soundField?, relation ∉ fieldNames g
      (fresh → ∀ ds, expansion' = .error ds ↔ expansion = .error ds) ∧
      ∀ items, expansion = .ok items →
        ((∃ items', expansion' = .ok items') ↔ fresh) ∧
        ∀ items', expansion' = .ok items' →
          ∃ field, ModelField.ofField f = .ok field ∧
            Code.declaredName? (FieldOperation.preload.signature field).code = some relation ∧
            InsertsMember (unraw item.ident.name ++ "QuerySet")
              (["new", "from_executor", "db", "into_db", "limit", "offset"]
                ++ (if (Settings.ofAttributes item.attrs).1.updater then ["get_updater"] else [])
                ++ (before.filterMap soundField?).flatMap fieldNames)
              (FieldOperation.preload.signature field).code
              ((after.filterMap soundField?).flatMap fieldNames) items items') := by
  obtain ⟨field, hread, hident, hoptions⟩ := exists_ofField_of_keys hkeys hpair
  have hskip : field.options.skip = true ↔ .skip ∈ keys := by
    rw [hoptions, FieldOptions.skip_foldl_add]
    simp
  have hpreload : field.options.preload = true ↔ .preload ∈ keys := by
    rw [hoptions, FieldOptions.preload_foldl_add]
    simp
  constructor
  · intro hkey
    exact expand_insert_of_skip item before after hread (hskip.mpr hkey)
  · intro hunskipped hkey relation fresh
    have hskipped : field.options.skip = false := by
      rw [← Bool.not_eq_true, hskip]
      exact hunskipped
    have hloaded : field.options.preload = true := hpreload.mpr hkey
    have hrelation : field.isPreload = true := by simp [ModelField.isPreload, hskipped, hloaded]
    have hnames : fieldNames field = [relation] := by
      simp [fieldNames, hskipped, hloaded, ModelField.name, hident, relation]
    have hname : Code.declaredName? (FieldOperation.preload.signature field).code
        = some relation := by
      rw [declaredName?_signature]
      show some ("preload_" ++ dbName (unraw field.ident.name)) = some relation
      rw [hident]
    have hfresh : fresh ↔ ∀ g ∈ (before ++ after).filterMap soundField?,
        (fieldNames field).Disjoint (fieldNames g) := by
      simp only [hnames, List.singleton_disjoint, fresh]
    constructor
    · intro hfree ds
      exact expand_insert_eq_error_iff_of_isPreload item before after hread hrelation
        (hfresh.mp hfree) ds
    · intro items hitems
      obtain ⟨hiff, hinserted⟩ :=
        expand_insert_eq_ok_of_isPreload item before after hread hrelation hitems
      refine ⟨hiff.trans hfresh.symm, fun items' hitems' => ?_⟩
      exact ⟨field, hread, hname, hinserted items' hitems'⟩

/-- A relation in camel case that has a key for comparisons, too. -/
def authorField : Field :=
  ⟨[keysAttribute [.ident "preload", .punct ',' false, .ident "ordered"]], [],
    ⟨"postAuthor", faultyPlace⟩, .named "i64"⟩

/-- A field that is skipped though it asks for the column of another one. -/
def shadowField : Field :=
  ⟨[keysAttribute [.ident "skip", .punct ',' false, .ident "column", .punct '=' false,
    .literal (.text "id")]], [], ⟨"shadow", faultyPlace⟩, .named "i64"⟩

/-- The relation is loaded by one more method, in front of the one for the other relation; the field
that is skipped changes nothing. -/
theorem mixedItem_adds_relation :
    (∃ items items', mixedItem.expand = .ok items ∧
      (mixedItem.withFields (mixedFields.take 2 ++ authorField :: mixedFields.drop 2)).expand
        = .ok items' ∧
      ∃ member, Code.declaredName? member = some "preload_post_author" ∧
        InsertsMember "MixedQuerySet"
          ["new", "from_executor", "db", "into_db", "limit", "offset", "get_updater", "type_eq",
            "type_ne", "type_in", "type_not_in", "order_asc_by_type", "order_desc_by_type", "id_eq",
            "id_ne", "id_in", "id_not_in", "order_asc_by_id", "order_desc_by_id"]
          member ["preload_posts"] items items') ∧
    (mixedItem.withFields (mixedFields.take 2 ++ shadowField :: mixedFields.drop 2)).expand
      = mixedItem.expand := by
  have hitems : mixedItem.expand = .ok mixedModel.generatedItems :=
    mixedItem.expand_eq_ok_iff.mpr
      ⟨mixedModel, rfl, (mixedModel.expand_eq_ok_iff _).mpr ⟨by decide +kernel, rfl⟩⟩
  have hauthor := (inserted_field_adds_relation_at_most mixedItem (mixedFields.take 2)
    (mixedFields.drop 2) authorField [.preload, .ordered] rfl (by simp)).2 (by decide) (by decide)
  have hshadow := (inserted_field_adds_relation_at_most mixedItem (mixedFields.take 2)
    (mixedFields.drop 2) shadowField [.skip, .column "id"] rfl (by simp)).1 (by decide)
  obtain ⟨hfresh, hinserted⟩ := hauthor.2 _ hitems
  obtain ⟨items', hitems'⟩ := hfresh.mpr (by decide +kernel)
  obtain ⟨field, -, hname, hmember⟩ := hinserted items' hitems'
  exact ⟨⟨_, items', hitems, hitems', _, hname, hmember⟩, hshadow⟩

end QueryChain
