/-
# Names of constants

A schema has a constant for each column, and any text that is not empty can be a column.  Whatever
the column, the name of its constant is put together from capitals, digits and underscores, with no
digit first.  One such name is reserved, an underscore alone, and just the columns of one character
that is neither letter nor digit get it.
-/
import QueryChain.Proofs.GeneratedFilters
import QueryChain.Proofs.SharedColumns
import QueryChain.Proofs.SnakeNames

namespace QueryChain

/-! ## Usable names -/

/-- A capital, a digit or an underscore. -/
def isConstChar (c : Char) : Bool := c.isUpper || c.isDigit || c == '_'

/-- Capitals, digits and underscores, of which a digit is not the first. -/
structure IsConstWord (name : String) : Prop where
  /-- There are no other letters. -/
  letters : ∀ c ∈ name.toList, isConstChar c = true
  /-- There is a first letter, and it is no digit. -/
  start : ∃ c ∈ name.toList.head?, c.isDigit = false

/-- A name that a constant can be declared with and referred to by.  An underscore alone is
reserved. -/
structure IsConstName (name : String) : Prop extends IsConstWord name where
  /-- The name is not the reserved one. -/
  unreserved : name ≠ "_"

/-- Such a word is an identifier. -/
theorem isAsciiIdent_of_isConstWord {name : String} (h : IsConstWord name) :
    isAsciiIdent name = true := by
  obtain ⟨c, hhead, hdigit⟩ := h.start
  have hletter : ∀ {d}, isConstChar d = true → (d.isAlpha = true ∨ d.isDigit = true) ∨ d = '_' := by
    intro d hd
    simp only [isConstChar, Bool.or_eq_true, beq_iff_eq] at hd
    exact hd.imp_left (Or.imp_left isAlpha_of_isUpper)
  rw [isAsciiIdent, Bool.and_eq_true, List.all_eq_true]
  constructor
  · rw [Option.mem_def.mp hhead]
    have hc := hletter (h.letters c (List.mem_of_head? hhead))
    simpa [hdigit] using hc
  · intro d hd
    simpa [isNameChar, Char.isAlphanum] using hletter (h.letters d hd)

/-- Such a word is no keyword, as keywords have small letters. -/
theorem IsConstWord.not_mem_keywords {name : String} (h : IsConstWord name) : name ∉ keywords := by
  -- In each keyword some letter is small, so the table is looked through once.
  have hsmall : (keywords.all fun word => word.toList.any fun c => !isConstChar c) = true := by
    decide +kernel
  intro hkeyword
  obtain ⟨c, hc, hbad⟩ := List.any_eq_true.mp (List.all_eq_true.mp hsmall name hkeyword)
  rw [h.letters c hc] at hbad
  cases hbad

/-! ## Names of constants -/

/-- Only what is no letter and no digit is written as an underscore. -/
theorem constChar_eq_underscore_iff (c : Char) : constChar c = '_' ↔ c.isAlphanum = false := by
  unfold constChar
  split
  · rename_i hc
    constructor
    · intro heq
      have hupper := isAlphanum_toUpper c
      rw [heq, hc] at hupper
      cases hupper
    · intro hno
      rw [hc] at hno
      cases hno
  · rename_i hc
    simpa using hc

/-- The name of any column's constant is a word. -/
theorem isConstWord_constName (column : String) : IsConstWord (constName column) where
  letters := by
    intro c hc
    have hlower := isLower_of_mem_constName hc
    rcases isAlphanum_or_eq_of_mem_constName hc with hletter | rfl
    · have hkind : c.isUpper = true ∨ c.isDigit = true := by
        simpa [Char.isAlphanum, Char.isAlpha, hlower] using hletter
      rw [isConstChar, Bool.or_eq_true, Bool.or_eq_true]
      exact Or.inl hkind
    · rfl
  start := by
    rw [toList_constName]
    split
    · exact ⟨'_', rfl, rfl⟩
    · rename_i hfirst
      cases hhead : (column.toList.map constChar).head? with
      | none => simp [hhead] at hfirst
      | some c => exact ⟨c, rfl, by simpa [hhead] using hfirst⟩

/-- A column of one character at most, which is neither a letter nor a digit. -/
def IsLoneMark (column : String) : Prop :=
  column.toList.length ≤ 1 ∧ ∀ c ∈ column.toList, c.isAlphanum = false

/-- Just these columns have a constant that is called by an underscore alone. -/
theorem constName_eq_underscore_iff (column : String) :
    constName column = "_" ↔ IsLoneMark column := by
  rw [← String.toList_inj, toList_constName, IsLoneMark]
  cases column.toList with
  | nil => simp
  | cons c rest =>
    rw [List.map_cons, List.head?_cons, Option.all_some]
    split
    · rename_i hdigit
      -- A digit stays behind the underscore that is put in front of it.
      have hletter : c.isAlphanum = true := by
        rw [← Bool.not_eq_false, ← constChar_eq_underscore_iff]
        intro hmark
        rw [hmark] at hdigit
        cases hdigit
      simp [hletter]
    · have hmark := constChar_eq_underscore_iff c
      constructor
      · intro heq
        obtain ⟨hc, hrest⟩ := List.cons.inj heq
        obtain rfl := List.map_eq_nil_iff.mp hrest
        simpa using hmark.mp hc
      · rintro ⟨hlength, hmarks⟩
        obtain rfl : rest = [] := by simpa using hlength
        rw [hmark.mpr (hmarks c (List.mem_singleton_self c))]
        rfl

/-- The constant of a column is usable unless the column is a lone mark. -/
theorem isConstName_constName_iff (column : String) :
    IsConstName (constName column) ↔ ¬ IsLoneMark column := by
  rw [← constName_eq_underscore_iff]
  constructor
  · exact IsConstName.unreserved
  · exact fun h => ⟨isConstWord_constName column, h⟩

/-! ## Columns that a schema is made from -/

/-- Of one character, nothing but itself is made by putting in underscores. -/
theorem Underscored.eq_singleton {s : List Char} {c : Char} (h : Underscored s [c]) : s = [c] := by
  cases h with
  | keep c hrest =>
    cases hrest
    rfl

/-- The column that an ASCII identifier stands for is no lone mark, if the identifier is none. -/
theorem isLoneMark_dbName_iff {s name : String} (hs : isAsciiIdent s = true)
    (hname : name = s ∨ name = "r#" ++ s) : IsLoneMark (dbName name) ↔ s = "_" := by
  have hunderscored := underscored_dbName hs hname
  rw [isAsciiIdent, Bool.and_eq_true, List.all_eq_true] at hs
  constructor
  · rintro ⟨hlength, hmarks⟩
    -- Nothing is lost from the identifier, so one character comes from one.
    rcases hcolumn : (dbName name).toList with _ | ⟨c, _ | ⟨d, rest⟩⟩
    · have hempty := hunderscored.head?_eq
      rw [hcolumn, List.head?_map, List.head?_nil, eq_comm, Option.map_eq_none_iff] at hempty
      simp [hempty] at hs
    · rw [hcolumn] at hunderscored hmarks
      obtain ⟨d, hd, rfl⟩ := List.map_eq_singleton_iff.mp hunderscored.eq_singleton
      have hmark := hmarks _ (List.mem_singleton_self _)
      rw [isAlphanum_toLower] at hmark
      have hd' : d = '_' := by simpa [hd, isNameChar, hmark] using hs.2 d
      rw [← String.toList_inj, hd, hd']
      rfl
    · simp [hcolumn] at hlength
  · rintro rfl
    have hcolumn : dbName name = "_" := by rcases hname with rfl | rfl <;> decide
    rw [hcolumn, ← constName_eq_underscore_iff]
    rfl

/-- The tokens of a key that gives a field this column. -/
def columnKey (column : String) : List Lexeme :=
  [.ident "column", .punct '=' false, .literal (.text column)]

/-- A field can be given any column with a name that is not empty. -/
theorem ofAttributes_columnKey {column : String} (h : column ≠ "") :
    FieldOptions.ofAttributes [keysAttribute (columnKey column)]
      = .ok { column := some column } := by
  have hkey : readKey ((columnKey column).map (⟨·, faultyPlace⟩)
      ++ [⟨.closing .paren, faultyPlace⟩])
        = .ok (.column column, [⟨.closing .paren, faultyPlace⟩]) :=
    if_neg (by simpa using h)
  have hkeys : (keysAttribute (columnKey column)).fieldKeys = .ok [.column column] := by
    rw [keysAttribute, Attribute.fieldKeys]
    dsimp only
    rw [readKeys, hkey]
    rfl
  have hmerge : FieldOptions.merge {} (keysAttribute (columnKey column))
      = .ok { column := some column } := by
    rw [FieldOptions.merge, hkeys]
    rfl
  show [keysAttribute (columnKey column)].foldlM FieldOptions.merge {} = _
  rw [List.foldlM_cons, hmerge]
  rfl

/-- A declared type whose only field is stored in this column is accepted. -/
theorem ofItem_answerItem {column : String} (h : column ≠ "") :
    Model.ofItem (answerItem column) = .ok (answerModel column) := by
  let declared : List Field :=
    [⟨[keysAttribute (columnKey column)], [], ⟨"sure", faultyPlace⟩, .named "bool"⟩]
  have hread : Model.readFields declared = ([sureField column], []) := by
    rw [Model.readFields, ModelField.ofField, ofAttributes_columnKey h]
    rfl
  have hfaults : Model.faults (answerItem column) declared = [] := by
    rw [Model.faults, hread]
    rfl
  have htable : dbName "Answer" = "answer" := by decide
  have hmodel : Model.ofDeclared (answerItem column) declared = answerModel column := by
    rw [Model.ofDeclared, hread]
    show Model.mk _ _ (dbName "Answer") _ _ = _
    rw [htable]
    rfl
  have hshape : Model.namedFields (answerItem column).shape = .ok declared := rfl
  rw [Model.ofItem_eq_ite hshape rfl rfl, if_pos hfaults, hmodel]

/-- Neither the name of the field nor its methods depend on its column. -/
theorem expand_answerModel (column : String) :
    (answerModel column).expand = .ok (answerModel column).generatedItems := by
  refine ((answerModel column).expand_eq_ok_iff _).mpr ⟨?_, rfl⟩
  have hnames : (Method.listed (answerModel column)).map Method.name
      = (Method.listed (answerModel "")).map Method.name := rfl
  rw [hnames]
  decide +kernel

/-! ## Constants of a schema -/

/-- The names of the constants of a schema, in order. -/
def schemaConstants (m : Model) (items : List GeneratedItem) : List String :=
  (ownMembers m.schemaName items).filterMap Code.constantName?

/-- The schema has a constant for each column. -/
theorem schemaConstants_generatedItems (m : Model) :
    schemaConstants m m.generatedItems = m.columns.map constName := by
  obtain ⟨listing, hmembers, hnone, -, -⟩ := exists_listing_schemaMembers m
  have hconstant : Code.constantName? ∘ constantCode = some ∘ constName := rfl
  rw [schemaConstants, m.ownMembers_schemaName, hmembers, List.filterMap_append,
    List.filterMap_map, hconstant, List.filterMap_eq_map, List.filterMap_cons_none hnone,
    List.filterMap_nil, List.append_nil]

/-- **When constants can be named.** The constants of a schema are those of the model's columns.  All
of them are usable exactly if no column is a lone mark; at most one is not, the reserved underscore.
For any column at all, the name is an identifier that is no keyword, in capitals, digits and
underscores, and it is the reserved one exactly for a lone mark.  The column that an ASCII identifier
stands for by default is no lone mark, unless it is the underscore itself; but a field can ask for
any column whose name is not empty. -/
theorem schema_constants_usable_iff (item : Item) (m : Model) (items : List GeneratedItem)
    (hread : Model.ofItem item = .ok m) (hexpand : m.expand = .ok items) :
    (schemaConstants m items = m.columns.map constName ∧
      ((∀ name ∈ schemaConstants m items, IsConstName name) ↔
        ∀ column ∈ m.columns, ¬ IsLoneMark column) ∧
      (schemaConstants m items).count "_" ≤ 1) ∧
    (∀ column : String, IsConstWord (constName column) ∧
      isAsciiIdent (constName column) = true ∧ constName column ∉ keywords ∧
      (constName column = "_" ↔ IsLoneMark column)) ∧
    (∀ s name : String, isAsciiIdent s = true → name = s ∨ name = "r#" ++ s →
      (IsLoneMark (dbName name) ↔ s = "_")) ∧
    (∀ column : String, column ≠ "" → ∃ (item : Item) (m : Model) (items : List GeneratedItem),
      Model.ofItem item = .ok m ∧ m.expand = .ok items ∧ m.columns = [column] ∧
        schemaConstants m items = [constName column]) := by
  refine ⟨?_, fun column => ?_, fun s name hs hname => isLoneMark_dbName_iff hs hname, ?_⟩
  · obtain ⟨-, rfl⟩ := (m.expand_eq_ok_iff items).mp hexpand
    rw [schemaConstants_generatedItems]
    refine ⟨rfl, ?_, List.nodup_iff_count_le_one.mp (Model.nodup_constants hread) "_"⟩
    rw [List.forall_mem_map]
    exact forall₂_congr fun column _ => isConstName_constName_iff column
  · have hword := isConstWord_constName column
    exact ⟨hword, isAsciiIdent_of_isConstWord hword, hword.not_mem_keywords,
      constName_eq_underscore_iff column⟩
  · intro column hne
    exact ⟨answerItem column, answerModel column, (answerModel column).generatedItems,
      ofItem_answerItem hne, expand_answerModel column, rfl, schemaConstants_generatedItems _⟩

/-- A digit that comes first is put behind an underscore, and the constant can be used. -/
theorem digitColumn_constant_usable :
    Model.ofItem (answerItem "2") = .ok (answerModel "2") ∧
      (answerModel "2").expand = .ok (answerModel "2").generatedItems ∧
      schemaConstants (answerModel "2") (answerModel "2").generatedItems = ["_2"] ∧
      (∀ name ∈ schemaConstants (answerModel "2") (answerModel "2").generatedItems,
        IsConstName name) ∧
      isAsciiIdent "x" = true ∧ ¬ IsLoneMark (dbName "r#x") := by
  have hread : Model.ofItem (answerItem "2") = .ok (answerModel "2") := rfl
  have hexpand := expand_answerModel "2"
  obtain ⟨⟨hnames, husable, -⟩, -, hdefault, -⟩ :=
    schema_constants_usable_iff (answerItem "2") (answerModel "2") _ hread hexpand
  have hident : isAsciiIdent "x" = true := by decide
  refine ⟨hread, hexpand, hnames, husable.mpr ?_, hident, ?_⟩
  · intro column hcolumn
    obtain rfl := List.mem_singleton.mp hcolumn
    rw [← constName_eq_underscore_iff]
    decide
  · rw [hdefault "x" "r#x" hident (Or.inr rfl)]
    decide

/-- A column that is a lone mark is accepted, but its constant is called by the reserved underscore,
in its declaration and where the schema lists it. -/
theorem markColumn_constant_reserved :
    Model.ofItem (answerItem "-") = .ok (answerModel "-") ∧
      (answerItem "-").expand = .ok (answerModel "-").generatedItems ∧
      schemaConstants (answerModel "-") (answerModel "-").generatedItems = ["_"] ∧
      ((ownMembers "AnswerDbSchema" (answerModel "-").generatedItems).map Code.elements).getLast?
        = some [[.plain "AnswerDbSchema", .plain "::", .plain "_"]] ∧
      ¬ IsConstName (constName "-") := by
  refine ⟨rfl, ?_, schemaConstants_generatedItems _, ?_, fun h => h.unreserved rfl⟩
  · exact (Item.expand_eq_ok_iff _).mpr ⟨_, rfl, expand_answerModel "-"⟩
  · decide +kernel

end QueryChain
