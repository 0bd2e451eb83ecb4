/-
# Names in generated types

The names that the implementations of a generated type declare are read off its code.  Only the
methods of a catalog are compared with each other when it is made; that nothing else is declared
twice follows from how names are put together.
-/
import QueryChain.Builder.Expansion
import QueryChain.Proofs.Catalog
import QueryChain.Proofs.Clashes
import Mathlib

namespace QueryChain

/-! ## Reading names off code -/

/-- The name that a member declares: the word behind the first `fn` or `const`. -/
def Code.declaredName? : Code → Option String
  | .plain keyword :: .plain name :: rest =>
      if keyword = "fn" ∨ keyword = "const" then some name
      else declaredName? (.plain name :: rest)
  | _ :: rest => declaredName? rest
  | [] => none

/-- Code behind the angle brackets that it may start with. -/
def Code.behindAngles (code : Code) : Code :=
  if code.head? = some (.plain "<") then (code.dropWhile (· != .plain ">")).drop 1 else code

/-- The type whose own implementation has this head; a head with `for` is that of a trait. -/
def Code.selfType? (head : Code) : Option String :=
  if .plain "for" ∈ head then none
  else
    match Code.behindAngles (head.drop 1) with
    | .plain name :: _ => some name
    | _ => none

/-- The names that an item declares in a type. -/
def GeneratedItem.namesIn (type : String) : GeneratedItem → List String
  | .declaration _ => []
  | .implementation head members =>
      if Code.selfType? head = some type then members.filterMap Code.declaredName? else []

/-- All names that are declared in a type, in order. -/
def definedNames (type : String) (items : List GeneratedItem) : List String :=
  items.flatMap (GeneratedItem.namesIn type)

/-- The members of an item. -/
def GeneratedItem.members : GeneratedItem → List Code
  | .declaration _ => []
  | .implementation _ members => members

/-- Whether an item is an implementation of a type's own. -/
def GeneratedItem.isOwn (type : String) : GeneratedItem → Bool
  | .declaration _ => false
  | .implementation head _ => Code.selfType? head == some type

/-- The members of all implementations of a type's own, in order. -/
def ownMembers (type : String) (items : List GeneratedItem) : List Code :=
  (items.filter (GeneratedItem.isOwn type)).flatMap GeneratedItem.members

/-- The names that are declared in a type are those of its members. -/
theorem definedNames_eq_filterMap (type : String) (items : List GeneratedItem) :
    definedNames type items = (ownMembers type items).filterMap Code.declaredName? := by
  induction items with
  | nil => rfl
  | cons item rest ih =>
    rw [definedNames, List.flatMap_cons, ← definedNames, ih, ownMembers, ownMembers]
    cases item with
    | declaration code => rfl
    | implementation head members =>
      by_cases hown : Code.selfType? head = some type
      · rw [List.filter_cons_of_pos (by simpa [GeneratedItem.isOwn] using hown),
          List.flatMap_cons, List.filterMap_append, GeneratedItem.namesIn, if_pos hown]
        rfl
      · rw [List.filter_cons_of_neg (by simpa [GeneratedItem.isOwn] using hown),
          GeneratedItem.namesIn, if_neg hown, List.nil_append]

/-! ## Names of members -/

/-- A function declares its name. -/
theorem declaredName?_signature (s : Signature) : Code.declaredName? s.code = some s.name := by
  unfold Signature.code
  cases s.isAsync <;> rfl

/-- A constant declares the name of its column. -/
theorem declaredName?_constantCode (column : String) :
    Code.declaredName? (constantCode column) = some (constName column) := rfl

/-- Members that declare one name each declare these names, in order. -/
theorem filterMap_declaredName? {α : Type} {code : α → Code} {name : α → String}
    (h : ∀ a, Code.declaredName? (code a) = some (name a)) (as : List α) :
    (as.map code).filterMap Code.declaredName? = as.map name := by
  have hone : Code.declaredName? ∘ code = some ∘ name := funext h
  rw [List.filterMap_map, hone, List.filterMap_eq_map]

/-- Methods declare their names. -/
theorem filterMap_declaredName?_methods (m : Model) (methods : List Method) :
    (methods.map fun method => (method.signature m).code).filterMap Code.declaredName?
      = methods.map Method.name := by
  refine filterMap_declaredName? (fun method => ?_) methods
  rw [declaredName?_signature, Method.name_signature]

/-! ## Names of types -/

/-- Taking the mark of a raw name off makes it at most two letters shorter. -/
theorem length_le_length_unraw (name : String) : name.length ≤ (unraw name).length + 2 := by
  rw [unraw, String.length_ofList, ← String.length_toList]
  unfold unrawChars
  split <;> simp_all

namespace Model

/-- The names of types made with different endings differ. -/
theorem typeName_ne {suffix suffix' : String} (m : Model) (h : suffix ≠ suffix') :
    m.typeName suffix ≠ m.typeName suffix' := by
  intro heq
  exact h ((String.append_right_inj _).mp heq)

/-- The name of a type with a long ending is not the model's own. -/
theorem typeName_ne_ident {suffix : String} (m : Model) (h : 2 < suffix.length) :
    m.typeName suffix ≠ m.ident.name := by
  intro heq
  -- All that the name can lose is the mark of a raw name, and the ending is longer.
  have hlength := congrArg String.length heq
  have hunraw := length_le_length_unraw m.ident.name
  rw [typeName, String.length_append] at hlength
  omega

/-- The name of a type is no shorter than its ending. -/
theorem typeName_ne_of_length_lt {suffix word : String} (m : Model)
    (h : word.length < suffix.length) : m.typeName suffix ≠ word := by
  intro heq
  have hlength := congrArg String.length heq
  rw [typeName, String.length_append] at hlength
  omega

end Model

/-- An implementation for an executor is one of its type. -/
theorem selfType?_implHead {type : String} (h : type ≠ "for") (runs : Bool) :
    Code.selfType? (implHead type runs) = some type := by
  have hfor : Word.plain "for" ∉ implHead type runs := by
    have hname : Word.plain "for" ≠ .plain type := fun heq => h (Word.plain.inj heq).symm
    cases runs
    · show Word.plain "for" ∉ [Word.plain "impl", .plain "<", .plain "__QsExecutor", .plain ">",
        .plain type, .plain "<", .plain "__QsExecutor", .plain ">"]
      simp [Ne.symm h]
    · show Word.plain "for" ∉ [Word.plain "impl", .plain "<", .plain "__QsExecutor", .plain ":",
        .plain "::", .plain "queryset_core", .plain "::", .plain "Executor", .plain ">",
        .plain type, .plain "<", .plain "__QsExecutor", .plain ">"]
      simp [Ne.symm h]
  rw [Code.selfType?, if_neg hfor]
  cases runs <;> rfl

/-- An implementation without parameters is one of its type. -/
theorem selfType?_impl {type : String} (hfor : type ≠ "for") (hangle : type ≠ "<") :
    Code.selfType? (words "impl" ++ Code.name type) = some type := by
  show Code.selfType? [.plain "impl", .plain type] = some type
  simp [Code.selfType?, Code.behindAngles, Ne.symm hfor, hangle]

/-- An implementation without parameters is one of no other type. -/
theorem selfType?_impl_ne {type other : String} (h : other ≠ type) :
    Code.selfType? (words "impl" ++ Code.name type) ≠ some other := by
  show Code.selfType? [.plain "impl", .plain type] ≠ some other
  by_cases hfor : type = "for"
  · simp [Code.selfType?, hfor]
  · by_cases hangle : type = "<"
    · have hnone : Code.selfType? [.plain "impl", .plain "<"] = none := by decide
      rw [hangle, hnone]
      exact fun heq => nomatch heq
    · rw [show Code.selfType? [.plain "impl", .plain type] = some type from
        selfType?_impl hfor hangle]
      exact fun heq => h (Option.some.inj heq).symm

/-- An implementation of a trait is no type's own. -/
theorem selfType?_trait (trait type : Code) :
    Code.selfType? (words "impl" ++ (trait ++ words "for") ++ type) = none := by
  rw [Code.selfType?, if_pos]
  have hwords : words "for" = [.plain "for"] := rfl
  simp [hwords]

/-! ## Members of each type -/

section

variable (m : Model) (type : String)

/-- The members of the query builder: those that every builder has, and the methods. -/
def builderMembers (methods : List Method) : List Code :=
  ((builderItems m methods).take 3).flatMap GeneratedItem.members

/-- The members of the updater. -/
def updaterMembers : List Code := (updaterItems m).flatMap GeneratedItem.members

/-- The members of the schema. -/
def schemaMembers : List Code := ((schemaItems m).take 2).flatMap GeneratedItem.members

/-- A catalog adds its methods to what every query builder has, those that go on with the chain
first. -/
theorem builderMembers_eq (methods : List Method) :
    builderMembers m methods = builderMembers m []
      ++ (methods.filter (·.isTerminal == false)).map (fun method => (method.signature m).code)
      ++ (methods.filter (·.isTerminal == true)).map (fun method => (method.signature m).code) := by
  rw [List.append_assoc, ← List.append_nil (List.map _ (methods.filter (·.isTerminal == true)))]
  rfl

/-- The setters stand behind three members that every updater has, and before two. -/
theorem updaterMembers_eq :
    updaterMembers m = (updaterMembers m).take 3 ++ m.columnFields.map (fun f => f.setter.code)
      ++ updateMethods.map Signature.code := by
  rw [List.append_assoc]
  rfl

/-- The items of the query builder have no members in another generated type. -/
theorem ownMembers_builderItems (methods : List Method) (h : type ≠ m.ident.name) :
    ownMembers type (builderItems m methods)
      = if m.builderName = type then builderMembers m methods else [] := by
  have hfor : m.builderName ≠ "for" := m.typeName_ne_of_length_lt (by decide)
  rw [ownMembers, builderMembers]
  unfold builderItems
  simp only [List.filter_cons, List.filter_nil, GeneratedItem.isOwn, selfType?_implHead hfor,
    beq_eq_false_iff_ne.mpr (selfType?_impl_ne h), Option.some_beq_some, beq_iff_eq,
    Bool.false_eq_true, if_false]
  split <;> rfl

/-- The items of the updater have no members in another generated type. -/
theorem ownMembers_updaterItems :
    ownMembers type (updaterItems m) = if m.updaterName = type then updaterMembers m else [] := by
  have hfor : m.updaterName ≠ "for" := m.typeName_ne_of_length_lt (by decide)
  rw [ownMembers, updaterMembers]
  unfold updaterItems
  simp only [List.filter_cons, List.filter_nil, GeneratedItem.isOwn, selfType?_implHead hfor,
    Option.some_beq_some, beq_iff_eq, Bool.false_eq_true, if_false]
  split <;> rfl

/-- The items of the schema have no members in another generated type. -/
theorem ownMembers_schemaItems :
    ownMembers type (schemaItems m) = if m.schemaName = type then schemaMembers m else [] := by
  have hfor : m.schemaName ≠ "for" := m.typeName_ne_of_length_lt (by decide)
  have hangle : m.schemaName ≠ "<" := m.typeName_ne_of_length_lt (by decide)
  have htrait : Code.selfType? (words "impl" ++ libraryPath "Model for"
      ++ Code.name m.ident.name) = none :=
    selfType?_trait (libraryPath "Model") (Code.name m.ident.name)
  rw [ownMembers, schemaMembers]
  unfold schemaItems
  simp only [List.filter_cons, List.filter_nil, GeneratedItem.isOwn, selfType?_impl hfor hangle,
    htrait, Option.some_beq_some, beq_iff_eq, Option.none_beq_some, Bool.false_eq_true, if_false]
  split <;> rfl

end

/-! ## Names in each type -/

section

variable (m : Model)

/-- The names of the query builder's own: those that every builder has, and the catalog. -/
def builderNames (methods : List Method) : List String :=
  ["new", "from_executor", "db", "into_db"]
    ++ (methods.filter (·.isTerminal == false)).map Method.name
    ++ (methods.filter (·.isTerminal == true)).map Method.name

/-- The names of an updater: those that every updater has, and a setter for each column. -/
def updaterNames : List String :=
  ["new", "assignments", "set"] ++ m.columnFields.map ModelField.setterName
    ++ ["update", "update_num"]

/-- The names of a schema: a constant for each column, and the list of them. -/
def schemaNames : List String :=
  m.columns.map constName ++ ["fields"]

/-- The query builder's members declare its names. -/
theorem filterMap_declaredName?_builderMembers (methods : List Method) :
    (builderMembers m methods).filterMap Code.declaredName? = builderNames methods := by
  rw [builderMembers_eq, List.filterMap_append, List.filterMap_append,
    filterMap_declaredName?_methods, filterMap_declaredName?_methods]
  rfl

/-- The updater's members declare its names. -/
theorem filterMap_declaredName?_updaterMembers :
    (updaterMembers m).filterMap Code.declaredName? = updaterNames m := by
  have hsetter : ∀ f : ModelField, Code.declaredName? f.setter.code = some f.setterName :=
    fun f => declaredName?_signature f.setter
  rw [updaterMembers_eq, List.filterMap_append, List.filterMap_append,
    filterMap_declaredName? hsetter]
  rfl

/-- The schema's members declare its names. -/
theorem filterMap_declaredName?_schemaMembers :
    (schemaMembers m).filterMap Code.declaredName? = schemaNames m := by
  show ((m.columns.map constantCode ++ _) ++ []).filterMap Code.declaredName? = _
  rw [List.append_nil, List.filterMap_append, filterMap_declaredName? declaredName?_constantCode]
  rfl

end

/-! ## Names of builders -/

/-- A method of a field starts with the name of an operation on order or relations, or it ends
with that of a comparison. -/
theorem ends_methodName (op : FieldOperation) (f : ModelField) :
    (op.methodName f).toList.head? ∈ [some 'o', some 'p'] ∨
      (op.methodName f).toList.getLast? ∈ [some 'q', some 'e', some 'n', some 't', some 'l'] := by
  have hlast : ∀ word : String, word.toList ≠ [] →
      (methodName word f.name true).toList.getLast? = word.toList.getLast? := by
    intro word hword
    rw [methodName, if_pos rfl, String.toList_append, List.getLast?_append_of_ne_nil _ hword]
  cases op with
  | compare c =>
    right
    show (methodName c.name f.name true).toList.getLast? ∈ _
    cases c <;> rw [hlast _ (by decide)] <;> decide
  | membership c =>
    right
    show (methodName c.name f.name true).toList.getLast? ∈ _
    cases c <;> rw [hlast _ (by decide)] <;> decide
  | presence c =>
    right
    show (methodName c.name f.name true).toList.getLast? ∈ _
    cases c <;> rw [hlast _ (by decide)] <;> decide
  | order d =>
    left
    cases d <;> simp [FieldOperation.methodName, methodName, FieldOperation.name,
      FieldOperation.fieldFirst, String.toList_append]
  | preload =>
    left
    simp [FieldOperation.methodName, methodName, FieldOperation.name,
      FieldOperation.fieldFirst, String.toList_append]

/-- No method of a catalog has a name that every builder has. -/
theorem name_not_mem_fixed (method : Method) :
    method.name ∉ ["new", "from_executor", "db", "into_db"] := by
  cases method with
  | onModel op => cases op <;> decide
  | onField f op =>
    show op.methodName f ∉ _
    intro hmem
    -- The first and the last letter are enough to tell the four names apart from this one.
    have hends := ends_methodName op f
    generalize op.methodName f = n at hmem hends
    fin_cases hmem <;> revert hends <;> decide

/-- Listing those methods first that go on with the chain leaves none out. -/
theorem chained_append_terminal_perm (methods : List Method) :
    (methods.filter (·.isTerminal == false) ++ methods.filter (·.isTerminal == true)).Perm
      methods := by
  have hchained : methods.filter (·.isTerminal == false) = methods.filter (!·.isTerminal) := by
    congr 1
    funext method
    cases method.isTerminal <;> rfl
  have hterminal : methods.filter (·.isTerminal == true) = methods.filter (·.isTerminal) := by
    congr 1
    funext method
    cases method.isTerminal <;> rfl
  rw [hchained, hterminal]
  exact (List.perm_append_comm).trans (List.filter_append_perm _ methods)

/-- The names of a query builder are those that every builder has and its catalog, in another
order. -/
theorem builderNames_perm (methods : List Method) :
    (builderNames methods).Perm
      (["new", "from_executor", "db", "into_db"] ++ methods.map Method.name) := by
  rw [builderNames, List.append_assoc, ← List.map_append]
  exact List.Perm.append_left _ (List.Perm.map _ (chained_append_terminal_perm methods))

/-- The names of a query builder differ if those of its catalog do. -/
theorem nodup_builderNames {methods : List Method} (h : (methods.map Method.name).Nodup) :
    (builderNames methods).Nodup := by
  rw [(builderNames_perm methods).nodup_iff, List.nodup_append]
  refine ⟨by decide, h, fun n hn n' hn' heq => ?_⟩
  obtain ⟨method, -, rfl⟩ := List.mem_map.mp hn'
  exact name_not_mem_fixed method (heq ▸ hn)

/-! ## Names of updaters -/

/-- Every column has a comparison for equality in the catalog. -/
theorem sublist_eq_names (fields : List ModelField) :
    ((fields.filter (·.isColumn)).map (FieldOperation.compare .eq).methodName).Sublist
      ((fields.flatMap Method.ofField).map Method.name) := by
  induction fields with
  | nil => exact List.Sublist.refl _
  | cons f rest ih =>
    rw [List.flatMap_cons, List.map_append]
    cases hf : f.isColumn with
    | false =>
      rw [List.filter_cons_of_neg (by simp [hf])]
      exact ih.trans (List.sublist_append_right _ _)
    | true =>
      rw [List.filter_cons_of_pos hf, List.map_cons, ← List.singleton_append]
      refine List.Sublist.append ?_ ih
      rw [List.singleton_sublist, Method.ofField, FieldOperation.ofField, if_pos hf]
      simp [FieldOperation.ofColumn, Method.name]

/-- Setters differ if the methods of the catalog do: equal setters would belong to fields with
equal comparisons. -/
theorem nodup_setterNames {m : Model} (h : ((Method.listed m).map Method.name).Nodup) :
    (m.columnFields.map ModelField.setterName).Nodup := by
  have hfields : ((m.fields.flatMap Method.ofField).map Method.name).Nodup := by
    rw [Method.listed, List.map_append] at h
    exact h.of_append_right
  have heq : (m.columnFields.map (FieldOperation.compare .eq).methodName).Nodup :=
    hfields.sublist (sublist_eq_names m.fields)
  -- Without the comparison, what is left is the part that the setters are made of, too.
  have hstems : (m.columnFields.map fun f => dbName f.name).Nodup := by
    refine List.Nodup.of_map (· ++ "_" ++ "eq") ?_
    rw [List.map_map]
    exact heq
  have hset : m.columnFields.map ModelField.setterName
      = (m.columnFields.map fun f => dbName f.name).map ("set" ++ "_" ++ ·) := by
    rw [List.map_map]
    rfl
  rw [hset]
  exact hstems.map fun a b hab => (String.append_right_inj _).mp hab

/-- A setter has none of the names that every updater has. -/
theorem setterName_not_mem_fixed (f : ModelField) :
    f.setterName ∉ ["new", "assignments", "set", "update", "update_num"] := by
  have hstart : f.setterName.toList.take 4 = ['s', 'e', 't', '_'] := by
    simp [ModelField.setterName, methodName, String.toList_append]
  intro hmem
  generalize f.setterName = n at hmem hstart
  fin_cases hmem <;> revert hstart <;> decide

/-- The names of an updater differ if those of the catalog do. -/
theorem nodup_updaterNames {m : Model} (h : ((Method.listed m).map Method.name).Nodup) :
    (updaterNames m).Nodup := by
  have hperm : (updaterNames m).Perm
      (["new", "assignments", "set", "update", "update_num"]
        ++ m.columnFields.map ModelField.setterName) := by
    rw [updaterNames, List.append_assoc]
    exact List.Perm.append_left ["new", "assignments", "set"] List.perm_append_comm
  rw [hperm.nodup_iff, List.nodup_append]
  refine ⟨by decide, nodup_setterNames h, fun n hn n' hn' heq => ?_⟩
  obtain ⟨f, -, rfl⟩ := List.mem_map.mp hn'
  exact setterName_not_mem_fixed f (heq ▸ hn)

/-! ## Names of schemas -/

/-- The letters of a constant's name. -/
theorem toList_constName (column : String) :
    (constName column).toList
      = if (column.toList.map constChar).head?.all Char.isDigit then
          '_' :: column.toList.map constChar
        else column.toList.map constChar := by
  rw [constName]
  split <;> rw [String.toList_ofList]

/-- Each letter of a constant's name stands for some letter. -/
theorem exists_constChar_of_mem_constName {column : String} {c : Char}
    (h : c ∈ (constName column).toList) : ∃ d, constChar d = c := by
  have hletters : ∀ {c}, c ∈ column.toList.map constChar → ∃ d, constChar d = c := by
    intro c hc
    obtain ⟨d, -, hd⟩ := List.mem_map.mp hc
    exact ⟨d, hd⟩
  rw [toList_constName] at h
  split at h
  · rcases List.mem_cons.mp h with rfl | hmem
    · exact ⟨'_', by decide⟩
    · exact hletters hmem
  · exact hletters h

/-- A constant has no small letters. -/
theorem isLower_of_mem_constName {column : String} {c : Char}
    (h : c ∈ (constName column).toList) : c.isLower = false := by
  obtain ⟨d, rfl⟩ := exists_constChar_of_mem_constName h
  unfold constChar
  split
  · exact Char.isLower_toUpper_eq_false d
  · rfl

/-- The names of a schema differ if its constants do. -/
theorem nodup_schemaNames {m : Model} (h : (m.columns.map constName).Nodup) :
    (schemaNames m).Nodup := by
  rw [schemaNames, List.nodup_append]
  refine ⟨h, by decide, fun n hn n' hn' heq => ?_⟩
  obtain ⟨column, -, rfl⟩ := List.mem_map.mp hn
  have hname : constName column = "fields" := by rw [heq, List.mem_singleton.mp hn']
  -- One small letter is enough: constants have none.
  have hmem : 'f' ∈ (constName column).toList := by rw [hname]; decide
  exact absurd (isLower_of_mem_constName hmem) (by decide)

/-! ## Names in an expansion -/

namespace Model

/-- All items of a model, whether the names of its methods differ or not. -/
def generatedItems (m : Model) : List GeneratedItem :=
  builderItems m (Method.listed m) ++ (if m.updater then updaterItems m else []) ++ schemaItems m

/-- A model is expanded exactly if the names of its methods differ. -/
theorem expand_eq_ok_iff (m : Model) (items : List GeneratedItem) :
    m.expand = .ok items ↔
      ((Method.listed m).map Method.name).Nodup ∧ items = m.generatedItems := by
  rw [expand]
  constructor
  · intro h
    cases hcatalog : Method.catalog m with
    | error d => rw [hcatalog] at h; cases h
    | ok methods =>
      obtain ⟨rfl, hnodup⟩ := (Method.catalog_eq_ok_iff m methods).mp hcatalog
      rw [hcatalog] at h
      exact ⟨hnodup, (Except.ok.inj h).symm⟩
  · rintro ⟨hnodup, rfl⟩
    rw [(Method.catalog_eq_ok_iff m _).mpr ⟨rfl, hnodup⟩]
    rfl

/-- Each member in an expansion stands in one of the three groups of items. -/
theorem ownMembers_generatedItems (m : Model) {type : String} (h : type ≠ m.ident.name) :
    ownMembers type m.generatedItems
      = (if m.builderName = type then builderMembers m (Method.listed m) else [])
        ++ (if m.updater ∧ m.updaterName = type then updaterMembers m else [])
        ++ (if m.schemaName = type then schemaMembers m else []) := by
  have hupdater : ownMembers type (if m.updater then updaterItems m else [])
      = if m.updater ∧ m.updaterName = type then updaterMembers m else [] := by
    cases m.updater with
    | false => rfl
    | true => simp [ownMembers_updaterItems]
  rw [generatedItems, ownMembers, List.filter_append, List.filter_append, List.flatMap_append,
    List.flatMap_append, ← ownMembers, ← ownMembers, ← ownMembers,
    ownMembers_builderItems m type _ h, hupdater, ownMembers_schemaItems]

/-- The query builder has its members from its own items. -/
theorem ownMembers_builderName (m : Model) :
    ownMembers m.builderName m.generatedItems = builderMembers m (Method.listed m) := by
  have hident : m.builderName ≠ m.ident.name := m.typeName_ne_ident (by decide)
  have hupdater : m.updaterName ≠ m.builderName := m.typeName_ne (by decide)
  have hschema : m.schemaName ≠ m.builderName := m.typeName_ne (by decide)
  rw [ownMembers_generatedItems m hident]
  simp [hupdater, hschema]

/-- The updater has its members from its own items, if there is one. -/
theorem ownMembers_updaterName (m : Model) :
    ownMembers m.updaterName m.generatedItems = if m.updater then updaterMembers m else [] := by
  have hident : m.updaterName ≠ m.ident.name := m.typeName_ne_ident (by decide)
  have hbuilder : m.builderName ≠ m.updaterName := m.typeName_ne (by decide)
  have hschema : m.schemaName ≠ m.updaterName := m.typeName_ne (by decide)
  rw [ownMembers_generatedItems m hident]
  simp [hbuilder, hschema]

/-- The schema has its members from its own items. -/
theorem ownMembers_schemaName (m : Model) :
    ownMembers m.schemaName m.generatedItems = schemaMembers m := by
  have hident : m.schemaName ≠ m.ident.name := m.typeName_ne_ident (by decide)
  have hbuilder : m.builderName ≠ m.schemaName := m.typeName_ne (by decide)
  have hupdater : m.updaterName ≠ m.schemaName := m.typeName_ne (by decide)
  rw [ownMembers_generatedItems m hident]
  simp [hbuilder, hupdater]

/-- The names declared in the query builder. -/
theorem definedNames_builderName (m : Model) :
    definedNames m.builderName m.generatedItems = builderNames (Method.listed m) := by
  rw [definedNames_eq_filterMap, ownMembers_builderName, filterMap_declaredName?_builderMembers]

/-- The names declared in the updater, if there is one. -/
theorem definedNames_updaterName (m : Model) :
    definedNames m.updaterName m.generatedItems = if m.updater then updaterNames m else [] := by
  rw [definedNames_eq_filterMap, ownMembers_updaterName,
    ← filterMap_declaredName?_updaterMembers]
  split <;> rfl

/-- The names declared in the schema. -/
theorem definedNames_schemaName (m : Model) :
    definedNames m.schemaName m.generatedItems = schemaNames m := by
  rw [definedNames_eq_filterMap, ownMembers_schemaName, filterMap_declaredName?_schemaMembers]

end Model

/-! ## Main statement -/

/-- **Nothing is defined twice.** When a declared type is expanded, no generated type declares a
name twice: neither the query builder, whose names are four fixed ones and the catalog, nor the
updater, whose setters are compared with nothing when they are made, nor the schema. -/
theorem generated_names_nodup (item : Item) (m : Model) (items : List GeneratedItem)
    (hread : Model.ofItem item = .ok m) (hexpand : m.expand = .ok items) :
    ((definedNames m.builderName items).Nodup ∧
      ∃ methods, Method.catalog m = .ok methods ∧
        (definedNames m.builderName items).Perm
          (["new", "from_executor", "db", "into_db"] ++ methods.map Method.name)) ∧
    ((definedNames m.updaterName items).Nodup ∧
      definedNames m.updaterName items
        = if m.updater then
            ["new", "assignments", "set"] ++ m.columnFields.map ModelField.setterName
              ++ ["update", "update_num"]
          else []) ∧
    ((definedNames m.schemaName items).Nodup ∧
      definedNames m.schemaName items = m.columns.map constName ++ ["fields"]) := by
  obtain ⟨hnodup, rfl⟩ := (m.expand_eq_ok_iff items).mp hexpand
  rw [m.definedNames_builderName, m.definedNames_updaterName, m.definedNames_schemaName]
  refine ⟨⟨nodup_builderNames hnodup, ?_⟩, ⟨?_, rfl⟩, ?_, rfl⟩
  · exact ⟨_, (Method.catalog_eq_ok_iff m _).mpr ⟨rfl, hnodup⟩, builderNames_perm _⟩
  · split
    · exact nodup_updaterNames hnodup
    · exact List.nodup_nil
  · exact nodup_schemaNames (Model.nodup_constants hread)

/-- One place for every token of the following type. -/
def userPlace : Span := ⟨⟨1, 0⟩, ⟨1, 0⟩⟩

/-- The fields of a type: in capitals, raw, and stored under another name. -/
def userFields : List Field :=
  let fullName : Attribute :=
    ⟨⟨false, ["queryset"]⟩, userPlace,
      .list [⟨.ident "column", userPlace⟩, ⟨.punct '=' false, userPlace⟩,
        ⟨.literal (.text "full name"), userPlace⟩] ⟨.closing .paren, userPlace⟩, userPlace⟩
  [⟨[], [], ⟨"ID", userPlace⟩, .named "i64"⟩,
    ⟨[], [], ⟨"r#type", userPlace⟩, .named "String"⟩,
    ⟨[fullName], [], ⟨"name", userPlace⟩, .named "String"⟩]

/-- A type with these fields. -/
def userItem : Item := ⟨[], [], ⟨"User", userPlace⟩, none, .named userFields⟩

/-- Its model. -/
def userModel : Model := .ofDeclared userItem userFields

/-- The three generated types of this type declare nothing twice. -/
theorem userModel_names_nodup :
    Model.ofItem userItem = .ok userModel ∧ userModel.expand = .ok userModel.generatedItems ∧
      (definedNames "UserQuerySet" userModel.generatedItems).Nodup ∧
      (definedNames "UserUpdater" userModel.generatedItems).Nodup ∧
      (definedNames "UserDbSchema" userModel.generatedItems).Nodup ∧
      definedNames "UserDbSchema" userModel.generatedItems
        = ["ID", "TYPE", "FULL_NAME", "fields"] := by
  have hread : Model.ofItem userItem = .ok userModel := rfl
  have hexpand : userModel.expand = .ok userModel.generatedItems :=
    (userModel.expand_eq_ok_iff _).mpr ⟨by decide +kernel, rfl⟩
  obtain ⟨⟨hbuilder, -⟩, ⟨hupdater, -⟩, hschema, hnames⟩ :=
    generated_names_nodup userItem userModel _ hread hexpand
  exact ⟨hread, hexpand, hbuilder, hupdater, hschema, hnames⟩

end QueryChain
