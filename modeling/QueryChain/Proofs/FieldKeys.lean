/-
# Keys in several attributes

The keys of a field may be repeated and distributed over any number of attributes.  Whether a
relation has a column is asked after each attribute, about all keys up to there; since no key takes
another one back, the answer for the whole field depends only on which keys there are.
-/
import QueryChain.Proofs.InsertedFields
import Mathlib.Data.List.Forall2

namespace QueryChain

/-! ## Spelled keys -/

/-- The tokens of a key, wherever they stand. -/
inductive FieldKey.Spelled : FieldKey → List Token → Prop where
  | skip (place : Span) : Spelled .skip [⟨.ident "skip", place⟩]
  | preload (place : Span) : Spelled .preload [⟨.ident "preload", place⟩]
  | ordered (place : Span) : Spelled .ordered [⟨.ident "ordered", place⟩]
  | column {name : String} (hname : name ≠ "") (joint : Bool) (word equals value : Span) :
      Spelled (.column name)
        [⟨.ident "column", word⟩, ⟨.punct '=' joint, equals⟩, ⟨.literal (.text name), value⟩]

/-- The tokens of several keys: commas stand between them, and one more may follow the last. -/
inductive SpelledKeys : List FieldKey → List Token → Prop where
  | nil : SpelledKeys [] []
  | last {key : FieldKey} {tokens : List Token} (hkey : key.Spelled tokens) :
      SpelledKeys [key] tokens
  | cons {key : FieldKey} {keys : List FieldKey} {tokens rest : List Token} (joint : Bool)
      (comma : Span) (hkey : key.Spelled tokens) (hrest : SpelledKeys keys rest) :
      SpelledKeys (key :: keys) (tokens ++ ⟨.punct ',' joint, comma⟩ :: rest)

/-- Where no colon comes next, a name is at its end. -/
theorem readKeyNames_of_not_starts {tokens : List Token} (h : starts ":" tokens = false)
    (count : Nat) (last : Span) : readKeyNames count last tokens = .ok (count, last, tokens) := by
  unfold readKeyNames
  split
  · cases h
  · cases h
  · rfl

/-- A single word in front of anything but a colon is a whole name. -/
theorem readKeyName_ident {rest : List Token} (h : starts ":" rest = false) (word : String)
    (place : Span) :
    readKeyName (⟨.ident word, place⟩ :: rest) = .ok (some word, place.to place, rest) := by
  have hrelative : starts "::" (⟨.ident word, place⟩ :: rest) = false := rfl
  simp only [readKeyName, hrelative, Bool.false_eq_true, if_false, readKeyNames_of_not_starts h]
  rfl

/-- A spelled key is read as itself. -/
theorem readKey_append {key : FieldKey} {tokens rest : List Token} (h : key.Spelled tokens)
    (hrest : starts ":" rest = false) : readKey (tokens ++ rest) = .ok (key, rest) := by
  cases h with
  | skip place => rw [List.singleton_append, readKey, readKeyName_ident hrest]; rfl
  | preload place => rw [List.singleton_append, readKey, readKeyName_ident hrest]; rfl
  | ordered place => rw [List.singleton_append, readKey, readKeyName_ident hrest]; rfl
  | column hname joint word equals value =>
    rw [List.cons_append, readKey, readKeyName_ident rfl]
    exact if_neg (by simpa using hname)

/-- In front of a key there is no end. -/
theorem atEnd_append {key : FieldKey} {tokens : List Token} (h : key.Spelled tokens)
    (rest : List Token) : atEnd (tokens ++ rest) = false := by
  cases h <;> rfl

section

variable {key : FieldKey} {tokens : List Token} (h : key.Spelled tokens) (count : Nat)

include h

/-- A spelled key at the end is the last one. -/
theorem readKeys_last (d : Delimiter) (place : Span) :
    readKeys (count + 1) (tokens ++ [⟨.closing d, place⟩]) = .ok [key] := by
  rw [readKeys, atEnd_append h, readKey_append h rfl]
  rfl

/-- Behind a spelled key and a comma, reading goes on. -/
theorem readKeys_cons (joint : Bool) (comma : Span) (rest : List Token) :
    readKeys (count + 1) (tokens ++ ⟨.punct ',' joint, comma⟩ :: rest)
      = (readKeys count rest).map (key :: ·) := by
  rw [readKeys, atEnd_append h, readKey_append h rfl]
  rfl

end

/-- In front of a closing delimiter, spelled keys are read as themselves. -/
theorem readKeys_append {keys : List FieldKey} {tokens : List Token} (h : SpelledKeys keys tokens)
    {count : Nat} (hcount : keys.length < count) (d : Delimiter) (place : Span) :
    readKeys count (tokens ++ [⟨.closing d, place⟩]) = .ok keys := by
  induction h generalizing count with
  | nil =>
    match count, hcount with
    | count + 1, _ => rfl
  | last hkey =>
    match count, hcount with
    | count + 1, _ => exact readKeys_last hkey count d place
  | cons joint comma hkey hrest ih =>
    match count, hcount with
    | count + 1, hcount =>
      rw [List.append_assoc, List.cons_append, readKeys_cons hkey,
        ih (Nat.lt_of_succ_lt_succ hcount)]
      rfl

/-- Each key takes at least one token. -/
theorem SpelledKeys.length_le {keys : List FieldKey} {tokens : List Token}
    (h : SpelledKeys keys tokens) : keys.length ≤ tokens.length := by
  induction h with
  | nil => exact Nat.le_refl 0
  | last hkey => cases hkey <;> simp
  | cons joint comma hkey hrest ih =>
    simp only [List.length_cons, List.length_append]
    omega

/-! ## Keys of an attribute -/

/-- The attribute lists these keys between its delimiters. -/
def Attribute.Lists (a : Attribute) (keys : List FieldKey) : Prop :=
  ∃ content d place, a.body = .list content ⟨.closing d, place⟩ ∧ SpelledKeys keys content

/-- The keys that an attribute lists are its keys. -/
theorem Attribute.Lists.fieldKeys_eq {a : Attribute} {keys : List FieldKey} (h : a.Lists keys) :
    a.fieldKeys = .ok keys := by
  obtain ⟨content, d, place, hbody, hkeys⟩ := h
  rw [fieldKeys, hbody]
  exact readKeys_append hkeys (Nat.lt_succ_of_le hkeys.length_le) d place

/-- Attributes that each list keys have these keys. -/
theorem mapM_fieldKeys_eq {attrs : List Attribute} {groups : List (List FieldKey)}
    (h : List.Forall₂ Attribute.Lists attrs groups) :
    attrs.mapM Attribute.fieldKeys = .ok groups := by
  induction h with
  | nil => rfl
  | cons hkeys hrest ih =>
    rw [List.mapM_cons, hkeys.fieldKeys_eq, ih]
    rfl

/-! ## Merged keys -/

/-- The name in a key for a column. -/
def FieldKey.column? : FieldKey → Option String
  | column name => some name
  | _ => none

/-- The column that keys ask for last. -/
def lastColumn? (keys : List FieldKey) : Option String :=
  (keys.filterMap FieldKey.column?).getLast?

namespace FieldOptions

/-- A field can be compared by size if one of its keys says so. -/
theorem ordered_foldl_add (o : FieldOptions) (keys : List FieldKey) :
    (keys.foldl add o).ordered = true ↔ o.ordered = true ∨ .ordered ∈ keys := by
  induction keys generalizing o with
  | nil => simp
  | cons key rest ih =>
    rw [List.foldl_cons, ih]
    cases key <;> simp [add]

/-- The last key for a column decides. -/
theorem column_foldl_add (o : FieldOptions) (keys : List FieldKey) :
    (keys.foldl add o).column = (lastColumn? keys).or o.column := by
  induction keys generalizing o with
  | nil => rfl
  | cons key rest ih =>
    rw [List.foldl_cons, ih]
    cases key with
    | column name =>
      have hname : (FieldKey.column name).column? = some name := rfl
      rw [lastColumn?, lastColumn?, List.filterMap_cons_some hname, List.getLast?_cons]
      cases (rest.filterMap FieldKey.column?).getLast? <;> rfl
    | _ => rfl

/-- What keys ask for: a flag is set if there is a key for it, and the last column is taken. -/
def ofKeys (keys : List FieldKey) : FieldOptions where
  skip := .skip ∈ keys
  preload := .preload ∈ keys
  ordered := .ordered ∈ keys
  column := lastColumn? keys

/-- Taking one key after the other into account gives what all of them ask for. -/
theorem foldl_add_eq_ofKeys (keys : List FieldKey) : keys.foldl add {} = ofKeys keys := by
  have hskip := skip_foldl_add {} keys
  have hpreload := preload_foldl_add {} keys
  have hordered := ordered_foldl_add {} keys
  have hcolumn := column_foldl_add {} keys
  cases hoptions : keys.foldl add {} with
  | mk skip preload ordered column =>
    rw [hoptions] at hskip hpreload hordered hcolumn
    rw [ofKeys, mk.injEq]
    refine ⟨?_, ?_, ?_, by simpa using hcolumn⟩
    · rw [Bool.eq_iff_iff, hskip]
      simp
    · rw [Bool.eq_iff_iff, hpreload]
      simp
    · rw [Bool.eq_iff_iff, hordered]
      simp

/-- With the same keys in another order and number, only the column may differ. -/
theorem ofKeys_congr {keys keys' : List FieldKey} (h : ∀ key, key ∈ keys' ↔ key ∈ keys) :
    ofKeys keys' = { ofKeys keys with column := lastColumn? keys' } := by
  simp only [ofKeys, h]

/-- The keys of one more attribute are looked at together with all before. -/
theorem merge_eq_ite {a : Attribute} {keys : List FieldKey} (o : FieldOptions)
    (h : a.fieldKeys = .ok keys) :
    merge o a = if (keys.foldl add o).isContradictory then
        .error ⟨.preloadWithColumn, some a.span⟩
      else .ok (keys.foldl add o) := by
  rw [merge, h]
  rfl

/-- Keys for both a relation and a column are reported at the first attribute up to which there are
both. -/
theorem foldlM_merge_eq_error {attrs : List Attribute} {groups : List (List FieldKey)}
    {o : FieldOptions} (h : List.Forall₂ (fun a keys => a.fieldKeys = .ok keys) attrs groups)
    (hsound : ¬ o.isContradictory = true)
    (hboth : (groups.flatten.foldl add o).isContradictory = true) :
    ∃ before a after, attrs = before ++ a :: after ∧
      ¬ ((groups.take before.length).flatten.foldl add o).isContradictory = true ∧
      ((groups.take (before.length + 1)).flatten.foldl add o).isContradictory = true ∧
      attrs.foldlM merge o = .error ⟨.preloadWithColumn, some a.span⟩ := by
  induction h generalizing o with
  | nil => exact absurd hboth hsound
  | @cons a keys attrs groups hkeys hrest ih =>
    rw [List.flatten_cons, List.foldl_append] at hboth
    by_cases hhere : (keys.foldl add o).isContradictory = true
    · refine ⟨[], a, attrs, rfl, hsound, by simpa using hhere, ?_⟩
      rw [List.foldlM_cons, merge_eq_ite o hkeys, if_pos hhere]
      rfl
    · obtain ⟨before, a', after, rfl, hnot, hfirst, herror⟩ := ih hhere hboth
      refine ⟨a :: before, a', after, rfl, ?_, ?_, ?_⟩
      · rwa [List.length_cons, List.take_succ_cons, List.flatten_cons, List.foldl_append]
      · rwa [List.length_cons, List.take_succ_cons, List.flatten_cons, List.foldl_append]
      · rw [List.foldlM_cons, merge_eq_ite o hkeys, if_neg hhere]
        exact herror

end FieldOptions

/-! ## Options of a field -/

/-- The attributes of the field for its options list these groups of keys, one after the other. -/
def Field.Lists (f : Field) (groups : List (List FieldKey)) : Prop :=
  List.Forall₂ Attribute.Lists (f.attrs.filter (·.path.isWord "queryset")) groups

/-- Among the keys there is one for a relation and one for a column. -/
def RelationWithColumn (keys : List FieldKey) : Prop :=
  .preload ∈ keys ∧ ∃ name, .column name ∈ keys

/-- Options that start from nothing contradict each other if there are both kinds of keys. -/
theorem isContradictory_foldl_add_nothing (keys : List FieldKey) :
    (keys.foldl FieldOptions.add {}).isContradictory = true ↔ RelationWithColumn keys := by
  rw [FieldOptions.isContradictory_foldl_add_iff, RelationWithColumn]
  simp

namespace Field.Lists

variable {f : Field} {groups : List (List FieldKey)} (h : f.Lists groups)

include h

/-- The keys of the field are those of all its attributes. -/
theorem keys_eq : f.keys = .ok groups.flatten := by
  rw [Field.keys, mapM_fieldKeys_eq h]
  rfl

/-- A relation with a column is refused at the first attribute up to which it is one. -/
theorem ofField_eq_error (hboth : RelationWithColumn groups.flatten) :
    ∃ before a after, f.attrs.filter (·.path.isWord "queryset") = before ++ a :: after ∧
      ¬ RelationWithColumn (groups.take before.length).flatten ∧
      RelationWithColumn (groups.take (before.length + 1)).flatten ∧
      ModelField.ofField f = .error ⟨.preloadWithColumn, some a.span⟩ := by
  have hkeys : List.Forall₂ (fun a keys => a.fieldKeys = .ok keys)
      (f.attrs.filter (·.path.isWord "queryset")) groups :=
    List.Forall₂.imp (fun _ _ hlists => hlists.fieldKeys_eq) h
  obtain ⟨before, a, after, hattrs, hnot, hfirst, herror⟩ :=
    FieldOptions.foldlM_merge_eq_error hkeys (by decide)
      ((isContradictory_foldl_add_nothing _).mpr hboth)
  rw [isContradictory_foldl_add_nothing] at hnot hfirst
  have hoptions : FieldOptions.ofAttributes f.attrs = .error ⟨.preloadWithColumn, some a.span⟩ :=
    herror
  refine ⟨before, a, after, hattrs, hnot, hfirst, ?_⟩
  rw [ModelField.ofField, hoptions]
  rfl

/-- A field is accepted unless it is a relation with a column. -/
theorem exists_ofField_iff :
    (∃ field, ModelField.ofField f = .ok field) ↔ ¬ RelationWithColumn groups.flatten := by
  constructor
  · rintro ⟨field, hread⟩ hboth
    obtain ⟨before, a, after, -, -, -, herror⟩ := h.ofField_eq_error hboth
    rw [herror] at hread
    cases hread
  · intro hnot
    obtain ⟨field, hread, -, -⟩ := exists_ofField_of_keys h.keys_eq hnot
    exact ⟨field, hread⟩

/-- An accepted field has the options that its keys ask for. -/
theorem options_eq {field : ModelField} (hread : ModelField.ofField f = .ok field) :
    field.options = FieldOptions.ofKeys groups.flatten := by
  obtain ⟨field', hread', -, hoptions⟩ :=
    exists_ofField_of_keys h.keys_eq (h.exists_ofField_iff.mp ⟨field, hread⟩)
  rw [hread] at hread'
  obtain rfl := Except.ok.inj hread'
  rw [hoptions, FieldOptions.foldl_add_eq_ofKeys]

end Field.Lists

/-- The column of an accepted field is the one in its options, or else that of its name. -/
theorem column_of_ofField {f : Field} {field : ModelField} (h : ModelField.ofField f = .ok field) :
    field.column = field.options.column.getD (dbName f.ident.name) := by
  rw [ModelField.ofField] at h
  cases hoptions : FieldOptions.ofAttributes f.attrs with
  | error d =>
    rw [hoptions] at h
    cases h
  | ok options =>
    rw [hoptions] at h
    cases h
    rfl

/-! ## Every distribution of keys -/

/-- The tokens of a key. -/
def FieldKey.lexemes : FieldKey → List Lexeme
  | skip => [.ident "skip"]
  | preload => [.ident "preload"]
  | ordered => [.ident "ordered"]
  | column name => [.ident "column", .punct '=' false, .literal (.text name)]

/-- A field with an attribute for each group of keys, in which a comma stands behind each key. -/
def fieldWithKeys (groups : List (List FieldKey)) : Field where
  attrs := groups.map fun keys =>
    keysAttribute (keys.flatMap fun key => key.lexemes ++ [.punct ',' false])
  vis := []
  ident := ⟨"author", faultyPlace⟩
  type := .named "i64"

/-- Keys are spelled by their tokens, if no column is without a name. -/
theorem spelledKeys_lexemes {keys : List FieldKey} (h : .column "" ∉ keys) :
    SpelledKeys keys ((keys.flatMap fun key => key.lexemes ++ [.punct ',' false]).map
      (⟨·, faultyPlace⟩)) := by
  induction keys with
  | nil => exact .nil
  | cons key rest ih =>
    rw [List.mem_cons, not_or] at h
    have hrest := ih h.2
    cases key with
    | skip => exact .cons false faultyPlace (.skip faultyPlace) hrest
    | preload => exact .cons false faultyPlace (.preload faultyPlace) hrest
    | ordered => exact .cons false faultyPlace (.ordered faultyPlace) hrest
    | column name =>
      have hname : name ≠ "" := by
        rintro rfl
        exact h.1 rfl
      exact .cons false faultyPlace
        (.column hname false faultyPlace faultyPlace faultyPlace) hrest

/-- However keys are distributed, there is a field whose attributes list them. -/
theorem lists_fieldWithKeys {groups : List (List FieldKey)} (h : .column "" ∉ groups.flatten) :
    (fieldWithKeys groups).Lists groups := by
  have hattrs : (fieldWithKeys groups).attrs.filter (·.path.isWord "queryset")
      = (fieldWithKeys groups).attrs := by
    rw [List.filter_eq_self]
    intro a ha
    obtain ⟨keys, -, rfl⟩ := List.mem_map.mp ha
    rfl
  rw [Field.Lists, hattrs, fieldWithKeys, List.forall₂_map_left_iff, List.forall₂_same]
  intro keys hkeys
  exact ⟨_, .paren, faultyPlace, rfl,
    spelledKeys_lexemes fun hcolumn => h (List.mem_flatten_of_mem hkeys hcolumn)⟩

/-! ## Main statement -/

/-- **Keys in several attributes.** A field is accepted exactly if there are not both a key for a
relation and one for a column among the keys of all its attributes.  If it is accepted, each flag is
set exactly if there is a key for it, and its column is the last one asked for, or else the default
one; if not, the first attribute up to which there are both keys is reported.  So another field with
the same keys, in any order, number and distribution, is accepted exactly if this one is, and has the
same options but for the column, which is the last one that it asks for itself. -/
theorem field_options_of_keys (f : Field) (groups : List (List FieldKey)) (h : f.Lists groups) :
    let keys := groups.flatten
    ((∃ field, ModelField.ofField f = .ok field)
      ↔ ¬ (.preload ∈ keys ∧ ∃ name, .column name ∈ keys)) ∧
    (∀ field, ModelField.ofField f = .ok field →
      (field.options.skip = true ↔ .skip ∈ keys) ∧
      (field.options.preload = true ↔ .preload ∈ keys) ∧
      (field.options.ordered = true ↔ .ordered ∈ keys) ∧
      field.options.column = lastColumn? keys ∧
      field.column = (lastColumn? keys).getD (dbName f.ident.name)) ∧
    (∀ d, ModelField.ofField f = .error d →
      ∃ before a after, f.attrs.filter (·.path.isWord "queryset") = before ++ a :: after ∧
        ¬ RelationWithColumn (groups.take before.length).flatten ∧
        RelationWithColumn (groups.take (before.length + 1)).flatten ∧
        d = ⟨.preloadWithColumn, some a.span⟩) ∧
    ∀ (f' : Field) (groups' : List (List FieldKey)), f'.Lists groups' →
      (∀ key, key ∈ groups'.flatten ↔ key ∈ keys) →
      ((∃ field', ModelField.ofField f' = .ok field') ↔ ∃ field, ModelField.ofField f = .ok field) ∧
      ∀ field field', ModelField.ofField f = .ok field → ModelField.ofField f' = .ok field' →
        field'.options = { field.options with column := lastColumn? groups'.flatten } ∧
        (lastColumn? groups'.flatten = lastColumn? keys → field'.options = field.options) := by
  intro keys
  refine ⟨h.exists_ofField_iff, fun field hread => ?_, fun d herror => ?_, ?_⟩
  · have hoptions := h.options_eq hread
    have hcolumn := column_of_ofField hread
    rw [hoptions] at hcolumn ⊢
    exact ⟨decide_eq_true_iff, decide_eq_true_iff, decide_eq_true_iff, rfl, hcolumn⟩
  · have hboth : RelationWithColumn keys := by
      by_contra hnot
      obtain ⟨field, hread⟩ := h.exists_ofField_iff.mpr hnot
      rw [hread] at herror
      cases herror
    obtain ⟨before, a, after, hattrs, hbefore, hfirst, hreported⟩ := h.ofField_eq_error hboth
    rw [hreported] at herror
    exact ⟨before, a, after, hattrs, hbefore, hfirst, (Except.error.inj herror).symm⟩
  · intro f' groups' h' hsame
    refine ⟨?_, fun field field' hread hread' => ?_⟩
    · rw [h.exists_ofField_iff, h'.exists_ofField_iff]
      simp only [RelationWithColumn, hsame, keys]
    · have hoptions : field'.options
          = { field.options with column := lastColumn? groups'.flatten } := by
        rw [h.options_eq hread, h'.options_eq hread', FieldOptions.ofKeys_congr hsame]
      refine ⟨hoptions, fun hlast => ?_⟩
      rw [hoptions, hlast, h.options_eq hread]
      rfl

/-- Keys in three attributes, one of them empty. -/
def scatteredKeys : List (List FieldKey) :=
  [[.ordered, .column "a"], [], [.skip, .column "b", .ordered]]

/-- The same keys in one attribute, with another column last. -/
def gatheredKeys : List (List FieldKey) :=
  [[.column "b", .skip, .ordered, .column "a"]]

/-- A column and a relation, in attributes that do not know of each other. -/
def dividedKeys : List (List FieldKey) :=
  [[.column "a", .skip], [.ordered], [.preload], [.preload]]

/-- Of two columns the last one counts, in whichever attribute it is, and nothing else depends on the
order; a relation is refused for the column in another attribute, although the field is skipped. -/
theorem scatteredKeys_options :
    (fieldWithKeys scatteredKeys).Lists scatteredKeys ∧
      (fieldWithKeys gatheredKeys).Lists gatheredKeys ∧
      (∀ key, key ∈ gatheredKeys.flatten ↔ key ∈ scatteredKeys.flatten) ∧
      (∃ field field', ModelField.ofField (fieldWithKeys scatteredKeys) = .ok field ∧
        ModelField.ofField (fieldWithKeys gatheredKeys) = .ok field' ∧
        field.options.skip = true ∧ ¬ field.options.preload = true ∧ field.column = "b" ∧
        field'.options = { field.options with column := some "a" }) ∧
      (fieldWithKeys dividedKeys).Lists dividedKeys ∧
      ¬ ∃ field, ModelField.ofField (fieldWithKeys dividedKeys) = .ok field := by
  have hscattered : (fieldWithKeys scatteredKeys).Lists scatteredKeys :=
    lists_fieldWithKeys (by decide)
  have hgathered : (fieldWithKeys gatheredKeys).Lists gatheredKeys :=
    lists_fieldWithKeys (by decide)
  have hdivided : (fieldWithKeys dividedKeys).Lists dividedKeys :=
    lists_fieldWithKeys (by decide)
  have hsame : ∀ key, key ∈ gatheredKeys.flatten ↔ key ∈ scatteredKeys.flatten := by
    intro key
    simp only [gatheredKeys, scatteredKeys, List.flatten_cons, List.flatten_nil, List.mem_append,
      List.mem_cons, List.not_mem_nil, or_false, false_or]
    tauto
  obtain ⟨haccepted, hread, -, hother⟩ := field_options_of_keys _ _ hscattered
  obtain ⟨hrefused, -⟩ := field_options_of_keys _ _ hdivided
  obtain ⟨field, hfield⟩ := haccepted.mpr fun hboth => absurd hboth.1 (by decide)
  obtain ⟨hiff, hagree⟩ := hother _ _ hgathered hsame
  obtain ⟨field', hfield'⟩ := hiff.mpr ⟨field, hfield⟩
  obtain ⟨hskip, hpreload, -, -, hcolumn⟩ := hread field hfield
  refine ⟨hscattered, hgathered, hsame, ⟨field, field', hfield, hfield', hskip.mpr (by decide),
    fun hset => absurd (hpreload.mp hset) (by decide), hcolumn, (hagree _ _ hfield hfield').1⟩,
    hdivided, ?_⟩
  rw [hrefused, not_not]
  exact ⟨by decide, "a", by decide⟩

end QueryChain
