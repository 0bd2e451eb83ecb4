/-
# Owners of clashing names

A column that is used already is reported with the field that used it last, and a constant with the
field that has had it first.  So fields with one column are each reported with the one right before
them, and only the second is told which field is the first of all.
-/
import QueryChain.Proofs.ReportedFaults

namespace QueryChain

/-! ## Clashes among the faults -/

/-- Whether a column or a constant is taken by another field. -/
def Cause.isClash : Cause → Bool
  | duplicateColumn .. | constantClash .. => true
  | _ => false

/-- If this fails, then not for a clash. -/
def NoClash {α : Type} (r : Except Diagnostic α) : Prop :=
  ∀ d, r = .error d → d.cause.isClash = false

namespace NoClash

variable {α β : Type}

/-- What does not fail reports no clash. -/
theorem ok (a : α) : NoClash (.ok a : Except Diagnostic α) := nofun

/-- A failure for another reason is no clash. -/
theorem error {d : Diagnostic} (h : d.cause.isClash = false) :
    NoClash (.error d : Except Diagnostic α) := by
  rintro _ ⟨⟩
  exact h

/-- One step after the other fails if one of them does. -/
theorem bind {r : Except Diagnostic α} {f : α → Except Diagnostic β} (hr : NoClash r)
    (hf : ∀ a, NoClash (f a)) : NoClash (r >>= f) := by
  cases r with
  | error d => exact error (hr d rfl)
  | ok a => exact hf a

end NoClash

/-! ### Keys of fields -/

/-- Words that are not the expected ones are no clash. -/
theorem noClash_keyExpected {α : Type} (tokens : List Token) (message : String) :
    NoClash (keyExpected tokens message : Except Diagnostic α) :=
  .error rfl

/-- A name that breaks off behind its colons is no clash. -/
theorem noClash_readKeyNames (count : Nat) (last : Span) (tokens : List Token) :
    NoClash (readKeyNames count last tokens) := by
  fun_induction readKeyNames count last tokens with
  | case1 count last _ _ _ _ span rest ih => exact ih
  | case2 => exact noClash_keyExpected _ _
  | case3 => exact .ok _

/-- A name that cannot be read is no clash. -/
theorem noClash_readKeyName (tokens : List Token) : NoClash (readKeyName tokens) := by
  unfold readKeyName
  dsimp only
  generalize (if starts "::" tokens then tokens.drop 2 else tokens) = named
  split
  · exact (noClash_readKeyNames _ _ _).bind fun _ => .ok _
  · exact noClash_keyExpected _ _
  · split
    · exact noClash_keyExpected _ _
    · split <;> exact noClash_keyExpected _ _

/-- A column whose name is missing or empty is no clash. -/
theorem noClash_readColumn (place : Span) (tokens : List Token) :
    NoClash (readColumn place tokens) := by
  unfold readColumn
  split
  · split
    · exact .error rfl
    · exact .ok _
  · exact noClash_keyExpected _ _
  · exact .error rfl

/-- A key that is unknown or not complete is no clash. -/
theorem noClash_readKey (tokens : List Token) : NoClash (readKey tokens) := by
  refine (noClash_readKeyName tokens).bind fun found => ?_
  dsimp only
  split
  · exact .ok _
  · exact .ok _
  · exact .ok _
  · exact noClash_readColumn _ _
  · exact .error rfl

/-- Keys are read one after the other, and none of them is compared with other fields. -/
theorem noClash_readKeys (count : Nat) (tokens : List Token) : NoClash (readKeys count tokens) := by
  induction count generalizing tokens with
  | zero => exact .ok _
  | succ count ih =>
    rw [readKeys]
    split
    · exact .ok _
    · refine (noClash_readKey tokens).bind fun found => ?_
      dsimp only
      split
      · exact .ok _
      · split
        · exact (ih _).bind fun _ => .ok _
        · exact .error rfl

/-- So the keys of an attribute report no clash. -/
theorem noClash_fieldKeys (a : Attribute) : NoClash a.fieldKeys := by
  unfold Attribute.fieldKeys
  split
  · exact .error rfl
  · exact .error rfl
  · exact noClash_readKeys _ _

/-- A relation with a column is refused, but not as a clash. -/
theorem noClash_merge (o : FieldOptions) (a : Attribute) : NoClash (o.merge a) := by
  refine (noClash_fieldKeys a).bind fun keys => ?_
  dsimp only
  split
  · exact .error rfl
  · exact .ok _

/-- What is wrong with the attributes of a field is no clash. -/
theorem isClash_of_attributeFault? {f : Field} {d : Diagnostic} (h : attributeFault? f = some d) :
    d.cause.isClash = false := by
  have hattrs : ∀ (attrs : List Attribute) (o : FieldOptions),
      NoClash (attrs.foldlM FieldOptions.merge o) := by
    intro attrs
    induction attrs with
    | nil => exact fun o => .ok o
    | cons a rest ih =>
      intro o
      rw [List.foldlM_cons]
      exact (noClash_merge o a).bind ih
  rw [attributeFault?] at h
  cases hoptions : FieldOptions.ofAttributes f.attrs with
  | ok options =>
    rw [hoptions] at h
    cases h
  | error d' =>
    rw [hoptions] at h
    obtain rfl := Option.some.inj h
    exact hattrs _ _ d' hoptions

/-! ### Settings of the type -/

/-- Tokens that are no settings are no clash. -/
theorem noClash_entriesOf (tokens : List Token) : NoClash (entriesOf tokens) := by
  unfold entriesOf
  split
  · exact .ok _
  · exact .error rfl

/-- A setting that wants a text is wrong by its form or by its type. -/
theorem noClash_textSetting (body : EntryBody) (span : Option Span) :
    NoClash (textSetting body span) := by
  unfold textSetting
  split
  · exact .error rfl
  · exact (noClash_entriesOf _).bind fun _ => .error rfl
  · exact .ok _
  · exact .error rfl

/-- A setting that wants a truth value is wrong by its form, its type or its text. -/
theorem noClash_truthSetting (body : EntryBody) (span : Option Span) :
    NoClash (truthSetting body span) := by
  unfold truthSetting
  split
  · exact .ok _
  · exact (noClash_entriesOf _).bind fun _ => .error rfl
  · exact .ok _
  · split
    · exact .ok _
    · split
      · exact .ok _
      · exact .error rfl
  · exact .error rfl

/-- What is wrong with one setting is no clash, not even that it was made before. -/
theorem isClash_of_mem_add (s : Settings) (entry : Entry) :
    ∀ d ∈ (s.add entry).2, d.cause.isClash = false := by
  unfold Settings.add
  split
  · simp [Cause.isClash]
  · split
    · split
      · simp [Cause.isClash]
      · split
        · simp
        · rename_i d herror
          simpa using noClash_textSetting _ _ d herror
    · split
      · split
        · simp [Cause.isClash]
        · split
          · simp
          · rename_i d herror
            simpa using noClash_truthSetting _ _ d herror
      · simp [Cause.isClash]

/-- Nor is what is wrong with several settings. -/
theorem isClash_of_mem_addAll (s : Settings) (entries : List Entry) :
    ∀ d ∈ (s.addAll entries).2, d.cause.isClash = false := by
  induction entries generalizing s with
  | nil => nofun
  | cons entry rest ih =>
    intro d hd
    rcases List.mem_append.mp hd with hd | hd
    · exact isClash_of_mem_add s entry d hd
    · exact ih _ d hd

/-- An attribute that is no list of settings is no clash. -/
theorem noClash_entries (a : Attribute) : NoClash a.entries := by
  unfold Attribute.entries
  split
  · exact .ok _
  · exact .error rfl
  · exact noClash_entriesOf _

/-- What is wrong with settings is no clash. -/
theorem isClash_of_mem_settings (attrs : List Attribute) :
    ∀ d ∈ (Settings.ofAttributes attrs).2, d.cause.isClash = false := by
  have hall : ∀ (attrs : List Attribute) (s : Settings),
      ∀ d ∈ (s.addAttributes attrs).2, d.cause.isClash = false := by
    intro attrs
    induction attrs with
    | nil => exact fun s => nofun
    | cons a rest ih =>
      intro s d hd
      rw [Settings.addAttributes] at hd
      rcases List.mem_append.mp hd with hd | hd
      · split at hd
        · exact isClash_of_mem_addAll s _ d hd
        · rename_i d' herror
          obtain rfl := List.mem_singleton.mp hd
          exact noClash_entries a d herror
      · exact ih _ d hd
  exact hall _ _

/-! ## The errors of a type -/

/-- The fields of a type that are columns, in their order, as far as they can be read. -/
def Item.columnFields (item : Item) : List ModelField :=
  match Model.namedFields item.shape with
  | .ok declared => (declared.filterMap soundField?).filter (·.isColumn)
  | .error _ => []

/-- A field that clashes with earlier ones is reported for that. -/
theorem isClash_of_clashBehind {earlier : List ModelField} {f : ModelField} {d : Diagnostic}
    (h : clashBehind earlier f = some d) : d.cause.isClash = true := by
  rw [clashBehind] at h
  split at h
  · obtain rfl := Option.some.inj h
    rfl
  · obtain ⟨owner, -, rfl⟩ := Option.map_eq_some_iff.mp h
    rfl

/-- What is reported as a clash is a field that clashes with the fields before it. -/
theorem mem_clashes_iff {columns : List ModelField} {d : Diagnostic} :
    d ∈ clashes [] [] columns ↔
      ∃ earlier f later, columns = earlier ++ f :: later ∧ clashBehind earlier f = some d := by
  rw [Taken.nothing.clashes_eq, List.mem_filterMap]
  constructor
  · rintro ⟨⟨f, i⟩, hf, hd⟩
    rw [List.length_nil, List.mem_zipIdx_iff_getElem?] at hf
    dsimp only at hf
    obtain ⟨hi, rfl⟩ := List.getElem?_eq_some_iff.mp hf
    refine ⟨columns.take i, columns[i], columns.drop (i + 1), ?_, hd⟩
    rw [List.getElem_cons_drop, List.take_append_drop]
  · rintro ⟨earlier, f, later, rfl, hd⟩
    refine ⟨(f, earlier.length), ?_, ?_⟩
    · rw [List.length_nil, List.mem_zipIdx_iff_getElem?]
      simp
    · simpa using hd

/-- The clashes among the faults of a type are those of its columns. -/
theorem filter_isClash_faults {item : Item} {declared : List Field}
    (hshape : Model.namedFields item.shape = .ok declared) :
    (Model.faults item declared).filter (·.cause.isClash) = clashes [] [] item.columnFields := by
  have hattributes : (declared.filterMap attributeFault?).filter (·.cause.isClash) = [] := by
    rw [List.filter_eq_nil_iff]
    intro d hd
    obtain ⟨f, -, hf⟩ := List.mem_filterMap.mp hd
    rw [isClash_of_attributeFault? hf]
    exact Bool.false_ne_true
  have hclashes : (clashes [] [] item.columnFields).filter (·.cause.isClash)
      = clashes [] [] item.columnFields := by
    rw [List.filter_eq_self]
    intro d hd
    obtain ⟨earlier, f, later, -, hclash⟩ := mem_clashes_iff.mp hd
    exact isClash_of_clashBehind hclash
  have hcolumns : item.columnFields = (declared.filterMap soundField?).filter (·.isColumn) := by
    rw [Item.columnFields, hshape]
  rw [Model.faults, readFields_eq, List.filter_append, List.filter_append, hattributes,
    ← hcolumns, hclashes, List.nil_append]
  split
  · exact List.append_nil _
  · exact List.append_nil _

/-- So are those among its errors, if its fields are looked at. -/
theorem filter_isClash_of_ofItem {item : Item} {ds : List Diagnostic}
    (h : Model.ofItem item = .error ds) :
    ds.filter (·.cause.isClash) = [] ∨
      ds.filter (·.cause.isClash) = clashes [] [] item.columnFields := by
  have hsettings : (Settings.ofAttributes item.attrs).2.filter (·.cause.isClash) = [] := by
    rw [List.filter_eq_nil_iff]
    intro d hd
    rw [isClash_of_mem_settings item.attrs d hd]
    exact Bool.false_ne_true
  cases hshape : Model.namedFields item.shape with
  | error shape =>
    unfold Model.ofItem at h
    simp only [hshape, Except.error.injEq] at h
    rw [← h, List.filter_append, hsettings]
    exact Or.inl rfl
  | ok declared =>
    cases hwrong : (Settings.ofAttributes item.attrs).2 with
    | cons d further =>
      unfold Model.ofItem at h
      simp [hshape, hwrong, bind, Except.bind] at h
      rw [← h, ← hwrong]
      exact Or.inl hsettings
    | nil =>
      cases hgenerics : item.generics with
      | some span =>
        unfold Model.ofItem at h
        simp [hshape, hwrong, hgenerics, bind, Except.bind] at h
        rw [← h]
        exact Or.inl rfl
      | none =>
        rw [Model.ofItem_eq_ite hshape hwrong hgenerics] at h
        split at h
        · cases h
        · obtain rfl := Except.error.inj h
          exact Or.inr (filter_isClash_faults hshape)

/-- A clash among the errors of a type is one of its columns. -/
theorem mem_clashes_of_mem {item : Item} {ds : List Diagnostic} {d : Diagnostic}
    (h : Model.ofItem item = .error ds) (hd : d ∈ ds) (hclash : d.cause.isClash = true) :
    d ∈ clashes [] [] item.columnFields := by
  have hmem : d ∈ ds.filter (·.cause.isClash) := List.mem_filter.mpr ⟨hd, hclash⟩
  rcases filter_isClash_of_ofItem h with hnone | hall
  · rw [hnone] at hmem
    cases hmem
  · rwa [hall] at hmem

/-- Where there is one, all of them are reported. -/
theorem mem_of_mem_clashes {item : Item} {ds : List Diagnostic} {d : Diagnostic}
    (h : Model.ofItem item = .error ds) (hsome : ∃ d' ∈ ds, d'.cause.isClash = true)
    (hd : d ∈ clashes [] [] item.columnFields) : d ∈ ds := by
  obtain ⟨d', hd', hclash⟩ := hsome
  rcases filter_isClash_of_ofItem h with hnone | hall
  · exact absurd hclash (List.filter_eq_nil_iff.mp hnone d' hd')
  · rw [← hall] at hd
    exact (List.mem_filter.mp hd).1

/-! ## Owners of columns and constants -/

/-- The fields with a column. -/
def fieldsWithColumn (columns : List ModelField) (column : String) : List ModelField :=
  columns.filter fun f => f.column == column

/-- The fields with a column stand in the order in which all fields do. -/
theorem fieldsWithColumn_append (columns columns' : List ModelField) (column : String) :
    fieldsWithColumn (columns ++ columns') column
      = fieldsWithColumn columns column ++ fieldsWithColumn columns' column :=
  List.filter_append ..

/-- A field has its own column. -/
theorem fieldsWithColumn_cons_self (f : ModelField) (columns : List ModelField) :
    fieldsWithColumn (f :: columns) f.column = f :: fieldsWithColumn columns f.column := by
  simp [fieldsWithColumn]

/-- The last of a list with a property is the last of those with it. -/
theorem find?_reverse_eq_some_iff {α : Type} {p : α → Bool} {l : List α} {a : α} :
    l.reverse.find? p = some a ↔ ∃ before, l.filter p = before ++ [a] := by
  rw [← List.head?_filter, List.filter_reverse, List.head?_reverse, List.getLast?_eq_some_iff]

/-- A field is reported for its column with the last field before that has it. -/
theorem clashBehind_eq_duplicateColumn_iff {earlier : List ModelField} {f : ModelField}
    {column owner : String} {place : Option Span} :
    clashBehind earlier f = some ⟨.duplicateColumn column owner, place⟩ ↔
      f.column = column ∧ place = some f.ident.span ∧
        ∃ before g, fieldsWithColumn earlier column = before ++ [g] ∧ owner = g.ident.name := by
  rw [clashBehind]
  constructor
  · intro h
    split at h
    · rename_i g hg
      cases h
      obtain ⟨before, hbefore⟩ := find?_reverse_eq_some_iff.mp hg
      exact ⟨rfl, rfl, before, g, hbefore, rfl⟩
    · obtain ⟨g, -, heq⟩ := Option.map_eq_some_iff.mp h
      cases heq
  · rintro ⟨rfl, rfl, before, g, hbefore, rfl⟩
    have hg : earlier.reverse.find? (fun g => g.column == f.column) = some g :=
      find?_reverse_eq_some_iff.mpr ⟨before, hbefore⟩
    rw [hg]

/-- Columns are reported as used for all fields with one column but the first, each with the field
right before it. -/
theorem duplicateColumn_mem_clashes_iff {columns : List ModelField} {column owner : String}
    {place : Option Span} :
    ⟨.duplicateColumn column owner, place⟩ ∈ clashes [] [] columns ↔
      ∃ before g f after, fieldsWithColumn columns column = before ++ g :: f :: after ∧
        owner = g.ident.name ∧ place = some f.ident.span := by
  simp only [mem_clashes_iff, clashBehind_eq_duplicateColumn_iff]
  constructor
  · rintro ⟨earlier, f, later, rfl, rfl, rfl, before, g, hbefore, rfl⟩
    refine ⟨before, g, f, fieldsWithColumn later f.column, ?_, rfl, rfl⟩
    rw [fieldsWithColumn_append, fieldsWithColumn_cons_self, hbefore, List.append_assoc]
    rfl
  · rintro ⟨before, g, f, after, hsharing, rfl, rfl⟩
    -- Between the two fields no other one has the column.
    rw [List.append_cons, fieldsWithColumn, List.filter_eq_append_iff] at hsharing
    obtain ⟨front, back, rfl, hfront, hback⟩ := hsharing
    obtain ⟨between, later, rfl, hbetween, hf, -⟩ := List.filter_eq_cons_iff.mp hback
    refine ⟨front ++ between, f, later, (List.append_assoc ..).symm, by simpa using hf, rfl,
      before, g, ?_, rfl⟩
    rw [fieldsWithColumn, List.filter_append, hfront, List.filter_eq_nil_iff.mpr hbetween,
      List.append_nil]

/-- A constant is reported as used with the first field of all that has it. -/
theorem exists_first_of_constantClash {columns : List ModelField}
    {column constant owner : String} {place : Option Span}
    (h : ⟨.constantClash column constant owner, place⟩ ∈ clashes [] [] columns) :
    constName column = constant ∧ ∃ first,
      columns.find? (fun g => constName g.column == constant) = some first ∧
        owner = first.ident.name := by
  obtain ⟨earlier, f, later, rfl, hclash⟩ := mem_clashes_iff.mp h
  rw [clashBehind] at hclash
  split at hclash
  · cases hclash
  · obtain ⟨first, hfirst, heq⟩ := Option.map_eq_some_iff.mp hclash
    cases heq
    refine ⟨rfl, first, ?_, rfl⟩
    rw [List.find?_append, hfirst]
    rfl

/-! ## First owners -/

/-- What a clash has to tell: the first of all fields with the column, or with the constant. -/
def NamesFirstOwner (columns : List ModelField) : Cause → Prop
  | .duplicateColumn column owner =>
      ∃ first, columns.find? (fun g => g.column == column) = some first ∧ owner = first.ident.name
  | .constantClash _ constant owner =>
      ∃ first, columns.find? (fun g => constName g.column == constant) = some first ∧
        owner = first.ident.name
  | _ => True

/-- Only clashes have to name an owner. -/
theorem namesFirstOwner_of_not_clash {columns : List ModelField} {cause : Cause}
    (h : cause.isClash = false) : NamesFirstOwner columns cause := by
  cases cause with
  | duplicateColumn | constantClash => cases h
  | _ => trivial

/-- The first field with a column is the first of those with it. -/
theorem find?_eq_head?_fieldsWithColumn (columns : List ModelField) (column : String) :
    columns.find? (fun g => g.column == column) = (fieldsWithColumn columns column).head? :=
  List.head?_filter.symm

/-- If no column is used three times, every clash names the first owner. -/
theorem namesFirstOwner_of_clash {columns : List ModelField} {d : Diagnostic}
    (hd : d ∈ clashes [] [] columns)
    (hpairs : ∀ column owner, d.cause = .duplicateColumn column owner →
      (fieldsWithColumn columns column).length ≤ 2) : NamesFirstOwner columns d.cause := by
  obtain ⟨cause, place⟩ := d
  cases cause with
  | duplicateColumn column owner =>
    obtain ⟨before, g, f, after, hsharing, rfl, -⟩ := duplicateColumn_mem_clashes_iff.mp hd
    have hlength := hpairs column _ rfl
    rw [hsharing, List.length_append, List.length_cons, List.length_cons] at hlength
    have hfirst : before = [] := List.length_eq_zero_iff.mp (by omega)
    refine ⟨g, ?_, rfl⟩
    rw [find?_eq_head?_fieldsWithColumn, hsharing, hfirst]
    rfl
  | constantClash column constant owner => exact (exists_first_of_constantClash hd).2
  | _ => trivial

/-- The third field with a column is told the second, which is not the first if names differ. -/
theorem length_fieldsWithColumn_le_two {columns : List ModelField}
    (hnames : (columns.map (·.ident.name)).Nodup)
    (hfirst : ∀ d ∈ clashes [] [] columns, NamesFirstOwner columns d.cause) (column : String) :
    (fieldsWithColumn columns column).length ≤ 2 := by
  match hsharing : fieldsWithColumn columns column with
  | [] | [_] | [_, _] => simp
  | first :: second :: third :: more =>
    have hclash : ⟨.duplicateColumn column second.ident.name, some third.ident.span⟩
        ∈ clashes [] [] columns :=
      duplicateColumn_mem_clashes_iff.mpr ⟨[first], second, third, more, hsharing, rfl, rfl⟩
    obtain ⟨owner, howner, hsame⟩ := hfirst _ hclash
    rw [find?_eq_head?_fieldsWithColumn, hsharing, List.head?_cons, Option.some.injEq] at howner
    have hsharers : ((fieldsWithColumn columns column).map (·.ident.name)).Nodup :=
      hnames.sublist (List.filter_sublist.map _)
    rw [hsharing, List.map_cons, List.map_cons, List.nodup_cons] at hsharers
    rw [← howner] at hsame
    exact absurd (hsame ▸ List.mem_cons_self) hsharers.1

/-! ## Main statement -/

/-- **Owners of clashing names.** Among the errors of a type, a clash of constants always names the
first column field with the constant.  A clash of columns is reported for each column field with the
column but the first of them, and names the one right before.  So all clashes name the first owners
if no three fields have one column; and if fields have different names, only then. -/
theorem clashes_name_first_owner_iff (item : Item) (ds : List Diagnostic)
    (h : Model.ofItem item = .error ds) :
    let columns := item.columnFields
    (∀ d ∈ ds, ∀ column constant owner, d.cause = .constantClash column constant owner →
      constName column = constant ∧ NamesFirstOwner columns d.cause) ∧
    (∀ d ∈ ds, ∀ column owner, d.cause = .duplicateColumn column owner →
      ∃ before g f after, fieldsWithColumn columns column = before ++ g :: f :: after ∧
        owner = g.ident.name ∧ d.span = some f.ident.span ∧
        ((fieldsWithColumn columns column).length ≤ 2 → NamesFirstOwner columns d.cause)) ∧
    ((∀ column, (fieldsWithColumn columns column).length ≤ 2) →
      ∀ d ∈ ds, NamesFirstOwner columns d.cause) ∧
    ((columns.map (·.ident.name)).Nodup → (∃ d ∈ ds, d.cause.isClash = true) →
      (∀ d ∈ ds, NamesFirstOwner columns d.cause) →
        ∀ column, (fieldsWithColumn columns column).length ≤ 2) := by
  intro columns
  refine ⟨?_, ?_, fun hpairs d hd => ?_, fun hnames hsome hfirst => ?_⟩
  · intro d hd column constant owner hcause
    obtain ⟨cause, place⟩ := d
    obtain rfl : cause = .constantClash column constant owner := hcause
    exact exists_first_of_constantClash (mem_clashes_of_mem h hd rfl)
  · intro d hd column owner hcause
    obtain ⟨cause, place⟩ := d
    obtain rfl : cause = .duplicateColumn column owner := hcause
    have hclash := mem_clashes_of_mem h hd rfl
    obtain ⟨before, g, f, after, hsharing, howner, hplace⟩ :=
      duplicateColumn_mem_clashes_iff.mp hclash
    refine ⟨before, g, f, after, hsharing, howner, hplace, fun hpair => ?_⟩
    refine namesFirstOwner_of_clash hclash fun column' owner' hsame => ?_
    obtain ⟨rfl, -⟩ := Cause.duplicateColumn.inj hsame
    exact hpair
  · cases hclash : d.cause.isClash with
    | true =>
      exact namesFirstOwner_of_clash (mem_clashes_of_mem h hd hclash) fun column _ _ =>
        hpairs column
    | false => exact namesFirstOwner_of_not_clash hclash
  · exact length_fieldsWithColumn_le_two hnames fun d hd =>
      hfirst d (mem_of_mem_clashes h hsome hd)

/-- A field with this name that is stored in this column. -/
def storedField (name column : String) : Field :=
  ⟨[keysAttribute [.ident "column", .punct '=' false, .literal (.text column)]], [],
    ⟨name, faultyPlace⟩, .named "i64"⟩

/-- A type with these fields. -/
def itemOfFields (fields : List Field) : Item :=
  ⟨[], [], ⟨"Clashing", faultyPlace⟩, none, .named fields⟩

/-- Two fields with one column and a third with their constant. -/
def pairedItem : Item :=
  itemOfFields [storedField "first" "a", storedField "second" "a", storedField "third" "A"]

/-- Three fields with one column. -/
def crowdedItem : Item :=
  itemOfFields [storedField "first" "a", storedField "second" "a", storedField "third" "a"]

/-- Where only two fields have one column, both clashes name the first of all. -/
theorem pairedItem_names_first_owner :
    let ds : List Diagnostic := [⟨.duplicateColumn "a" "first", some faultyPlace⟩,
      ⟨.constantClash "A" "A" "first", some faultyPlace⟩]
    Model.ofItem pairedItem = .error ds ∧
      (pairedItem.columnFields.map (·.ident.name)).Nodup ∧
      (∃ d ∈ ds, d.cause.isClash = true) ∧
      (∀ d ∈ ds, NamesFirstOwner pairedItem.columnFields d.cause) ∧
      ∀ column, (fieldsWithColumn pairedItem.columnFields column).length ≤ 2 := by
  intro ds
  have herror : Model.ofItem pairedItem = .error ds := by rfl
  have hnodup : (pairedItem.columnFields.map (·.ident.name)).Nodup := by decide
  have hsome : ∃ d ∈ ds, d.cause.isClash = true := ⟨_, List.mem_cons_self, rfl⟩
  obtain ⟨hconstant, hcolumn, -, honly⟩ := clashes_name_first_owner_iff pairedItem ds herror
  have hfirst : ∀ d ∈ ds, NamesFirstOwner pairedItem.columnFields d.cause := by
    refine List.forall_mem_cons.mpr ⟨?_, List.forall_mem_singleton.mpr ?_⟩
    · obtain ⟨-, -, -, -, -, -, -, hpair⟩ := hcolumn _ List.mem_cons_self "a" "first" rfl
      exact hpair (by decide)
    · exact (hconstant _ (List.mem_cons_of_mem _ List.mem_cons_self) "A" "A" "first" rfl).2
  exact ⟨herror, hnodup, hsome, hfirst, honly hnodup hsome hfirst⟩

/-- The third field with a column is told the second, although the first has the column as well. -/
theorem crowdedItem_names_second_owner :
    Model.ofItem crowdedItem = .error
        [⟨.duplicateColumn "a" "first", some faultyPlace⟩,
          ⟨.duplicateColumn "a" "second", some faultyPlace⟩] ∧
      (crowdedItem.columnFields.find? (·.column == "a")).map (·.ident.name) = some "first" ∧
      ¬ NamesFirstOwner crowdedItem.columnFields (.duplicateColumn "a" "second") := by
  have hfirst : (crowdedItem.columnFields.find? (·.column == "a")).map (·.ident.name)
      = some "first" := by rfl
  refine ⟨by rfl, hfirst, ?_⟩
  rintro ⟨first, hfind, hname⟩
  rw [hfind, Option.map_some, ← hname] at hfirst
  exact absurd hfirst (by decide)

end QueryChain
