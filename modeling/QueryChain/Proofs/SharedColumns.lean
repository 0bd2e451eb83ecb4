/-
# One column for each field

The parts that are generated for a model walk its fields independently of each other: the
description of the table, the constants of the schema and their list, the setters of the updater,
and the filters and orders of the query builder.  Read off the code, they name the same columns,
field by field.
-/
import QueryChain.Proofs.GeneratedNames
import QueryChain.Proofs.ReportedFaults

namespace QueryChain

/-! ## Reading columns off code -/

/-- What the calls of a function are given first, in order.  Types of fields can be any code, so
calls are looked for in the bodies of methods, and not in the types of their arguments. -/
def Code.firstArguments (function : Code) : Code → List (Option Word)
  | [] => []
  | word :: rest =>
      if (function ++ [Word.plain "("]).isPrefixOf (word :: rest) then
        (rest.drop function.length).head? :: firstArguments function rest
      else firstArguments function rest

/-- The columns that a handle is asked to compare, and those that it is asked to order by. -/
def Code.columnCalls (code : Code) : List (Option Word) :=
  Code.firstArguments [.plain ".", .plain "where_column"] code
    ++ Code.firstArguments [.plain ".", .plain "order_column"] code

/-- The columns that an updater is asked to assign. -/
def Code.setCalls (code : Code) : List (Option Word) :=
  Code.firstArguments [.plain "self", .plain ".", .plain "set"] code

/-- The columns that fields of a schema are made of. -/
def Code.newFields (code : Code) : List (Option Word) :=
  Code.firstArguments [.plain "Field", .plain "::", .plain "new"] code

/-- The name of a constant; what stands inside a function is none. -/
def Code.constantName? : Code → Option String
  | .plain keyword :: .plain name :: rest =>
      if keyword = "fn" then none
      else if keyword = "const" then some name
      else constantName? (.plain name :: rest)
  | _ :: rest => constantName? rest
  | [] => none

/-- The code behind the first place where this code stands. -/
def Code.behind (opening : Code) : Code → Code
  | [] => []
  | word :: rest =>
      if opening.isPrefixOf (word :: rest) then rest.drop (opening.length - 1)
      else behind opening rest

/-- The elements of the array that a constant refers to.  Cutting at commas makes one empty piece of
an array without elements, which is none. -/
def Code.elements (code : Code) : List Code :=
  let inner := Code.behind [.plain "=", .plain "&", .plain "["] code
  ((inner.takeWhile (· != .plain "]")).splitOn (.plain ",")).filter (!·.isEmpty)

/-- Each word of separated code is a comma or stands in one of the pieces. -/
theorem eq_or_mem_of_mem_commaSeparated {word : Word} {pieces : List Code}
    (h : word ∈ Code.commaSeparated pieces) :
    word = .plain "," ∨ ∃ piece ∈ pieces, word ∈ piece := by
  induction pieces with
  | nil => cases h
  | cons piece rest ih =>
    cases rest with
    | nil =>
      have hcode : Code.commaSeparated [piece] = piece ++ [] := rfl
      rw [hcode, List.append_nil] at h
      exact Or.inr ⟨piece, List.mem_cons_self, h⟩
    | cons next rest =>
      have hcode : Code.commaSeparated (piece :: next :: rest)
          = piece ++ Word.plain "," :: Code.commaSeparated (next :: rest) := rfl
      rw [hcode, List.mem_append, List.mem_cons] at h
      rcases h with hpiece | hcomma | hrest
      · exact Or.inr ⟨piece, List.mem_cons_self, hpiece⟩
      · exact Or.inl hcomma
      · rcases ih hrest with hcomma | ⟨other, hother, hword⟩
        · exact Or.inl hcomma
        · exact Or.inr ⟨other, List.mem_cons_of_mem _ hother, hword⟩

/-- The elements of an array are the pieces that it is made of. -/
theorem elements_of_behind {code : Code} {pieces : List Code} (after : Code)
    (hcode : Code.behind [.plain "=", .plain "&", .plain "["] code
      = Code.commaSeparated pieces ++ Word.plain "]" :: after)
    (hpieces : ∀ piece ∈ pieces, piece ≠ [] ∧ .plain "," ∉ piece ∧ .plain "]" ∉ piece) :
    Code.elements code = pieces := by
  have hinner : ∀ word ∈ Code.commaSeparated pieces, (word != .plain "]") = true := by
    intro word hword
    rcases eq_or_mem_of_mem_commaSeparated hword with rfl | ⟨piece, hpiece, hmem⟩
    · decide
    · exact bne_iff_ne.mpr fun heq => (hpieces piece hpiece).2.2 (heq ▸ hmem)
  have htake : (Code.commaSeparated pieces ++ Word.plain "]" :: after).takeWhile (· != .plain "]")
      = Code.commaSeparated pieces := by
    rw [List.takeWhile_append_of_pos hinner, List.takeWhile_cons_of_neg (by decide),
      List.append_nil]
  rw [Code.elements, hcode, htake]
  cases pieces with
  | nil => rfl
  | cons piece rest =>
    have hsplit : (Code.commaSeparated (piece :: rest)).splitOn (.plain ",") = piece :: rest :=
      List.splitOn_intercalate _ (fun p hp => (hpieces p hp).2.1) (List.cons_ne_nil _ _)
    rw [hsplit, List.filter_eq_self]
    intro p hp
    simpa using (hpieces p hp).1

/-! ## Columns in methods of fields -/

/-- A condition is about its column; what it compares with is looked through in turn. -/
theorem columnCalls_conditionCall (column test : String) (values : Code) :
    Code.columnCalls (wrapped (conditionCall column test values))
      = some (Word.text column) :: Code.columnCalls (values ++ [Word.plain ")", .plain "\x7d"]) := by
  have hcode : wrapped (conditionCall column test values)
      = (.plain "Self" :: .plain "\x7b" :: .plain "db" :: .plain ":" :: .plain "self" :: .plain "."
          :: .plain "db" :: .plain "." :: .plain "where_column" :: .plain "(" :: .text column
          :: .plain "," :: .text test :: .plain ","
          :: (values ++ [] ++ [Word.plain ")"] ++ [Word.plain "\x7d"]) : Code) := rfl
  rw [hcode]
  simp [Code.columnCalls, Code.firstArguments]

namespace FieldOperation

/-- The method for an operation asks for the column of its field, unless it loads a relation. -/
theorem columnCalls_signature (f : ModelField) (op : FieldOperation) :
    Code.columnCalls (op.signature f).body
      = if op = .preload then [] else [some (Word.text f.column)] := by
  cases op with
  | compare c =>
    have hvalues : valueList (valueFrom f.argName)
        = [.plain "::", .plain "std", .plain "::", .plain "vec", .plain "!", .plain "[",
            .plain "::", .plain "queryset_core", .plain "::", .plain "Value", .plain "::",
            .plain "from", .plain "(", .plain f.argName, .plain ")", .plain "]"] := rfl
    show Code.columnCalls (wrapped (conditionCall f.column c.test
      (valueList (valueFrom f.argName)))) = _
    rw [columnCalls_conditionCall, hvalues]
    simp [Code.columnCalls, Code.firstArguments]
  | membership c =>
    -- Names of arguments stand in front of the condition.
    have hcode : ((membership c).signature f).body
        = (.plain "let" :: .plain "args" :: .plain ":" :: .plain "::" :: .plain "std" :: .plain "::"
            :: .plain "vec" :: .plain "::" :: .plain "Vec" :: .plain "<" :: .plain "::"
            :: .plain "queryset_core" :: .plain "::" :: .plain "Value" :: .plain ">" :: .plain "="
            :: .plain "::" :: .plain "core" :: .plain "::" :: .plain "iter" :: .plain "::"
            :: .plain "once" :: .plain "(" :: .plain f.argName :: .plain ")" :: .plain "."
            :: .plain "chain" :: .plain "(" :: .plain (f.argName ++ "_rest") :: .plain ")"
            :: .plain "." :: .plain "map" :: .plain "(" :: .plain "::" :: .plain "queryset_core"
            :: .plain "::" :: .plain "Value" :: .plain "::" :: .plain "from" :: .plain ")"
            :: .plain "." :: .plain "collect" :: .plain "(" :: .plain ")" :: .plain ";"
            :: wrapped (conditionCall f.column c.test
              (valueList (libraryPath "Value :: List ( args )"))) : Code) := rfl
    have hskip : Code.columnCalls ((membership c).signature f).body
        = Code.columnCalls (wrapped (conditionCall f.column c.test
            (valueList (libraryPath "Value :: List ( args )")))) := by
      rw [hcode]
      simp [Code.columnCalls, Code.firstArguments]
    rw [hskip, columnCalls_conditionCall]
    rfl
  | presence p => rfl
  | order d => cases d <;> rfl
  | preload => rfl

end FieldOperation

/-- The methods of a whole model ask for no column. -/
theorem ModelOperation.columnCalls_signature (m : Model) (op : ModelOperation) :
    Code.columnCalls (op.signature m).body = [] := by
  cases op with
  | all =>
    have hcode : (all.signature m).body
        = [.plain "self", .plain ".", .plain "db", .plain ".", .plain "find", .plain "::",
            .plain "<", .plain m.ident.name, .plain ">", .plain "(", .plain ")", .plain ".",
            .plain "await"] := rfl
    rw [hcode]
    simp [Code.columnCalls, Code.firstArguments]
  | one =>
    have hcode : (one.signature m).body
        = [.plain "self", .plain ".", .plain "db", .plain ".", .plain "first", .plain "::",
            .plain "<", .plain m.ident.name, .plain ">", .plain "(", .plain ")", .plain ".",
            .plain "await"] := rfl
    rw [hcode]
    simp [Code.columnCalls, Code.firstArguments]
  | getUpdater =>
    have hcode : (getUpdater.signature m).body
        = [.plain m.updaterName, .plain "::", .plain "new", .plain "(", .plain "self",
            .plain ".", .plain "db", .plain ")"] := rfl
    rw [hcode]
    simp [Code.columnCalls, Code.firstArguments]
  | limit | offset | count | delete | deleteNum => rfl

/-- What every query builder has besides its methods asks for no column. -/
theorem columnCalls_of_mem_builderMembers_nil (m : Model) :
    ∀ member ∈ builderMembers m [], Code.columnCalls member = [] := by
  intro member hmember
  change member ∈ [_, _, _, _] at hmember
  simp only [List.mem_cons, List.not_mem_nil, or_false] at hmember
  rcases hmember with rfl | rfl | rfl | rfl
  · rfl
  · -- Only here the model itself is named.
    have hcode : plainFunction " Start an unfiltered query over the model's table."
        "pub fn from_executor" (words "executor :" ++ executorParam) (words "Self")
        (words "Self :: new" ++ Code.parens (libraryPath "Db :: for_model ::"
          ++ Code.angles (Code.name m.ident.name) ++ words "( executor )"))
        = [.plain "#", .plain "[", .plain "doc", .plain "=",
            .text " Start an unfiltered query over the model's table.", .plain "]", .plain "pub",
            .plain "fn", .plain "from_executor", .plain "(", .plain "executor", .plain ":",
            .plain "__QsExecutor", .plain ")", .plain "->", .plain "Self", .plain "\x7b",
            .plain "Self", .plain "::", .plain "new", .plain "(", .plain "::",
            .plain "queryset_core", .plain "::", .plain "Db", .plain "::", .plain "for_model",
            .plain "::", .plain "<", .plain m.ident.name, .plain ">", .plain "(",
            .plain "executor", .plain ")", .plain ")", .plain "\x7d"] := rfl
    rw [hcode]
    simp [Code.columnCalls, Code.firstArguments]
  · rfl
  · rfl

/-! ## Columns in setters -/

/-- What a setter does, word for word. -/
theorem body_setter (f : ModelField) :
    f.setter.body
      = [.plain "self", .plain ".", .plain "set", .plain "(", .text f.column, .plain ",",
          .plain "::", .plain "queryset_core", .plain "::", .plain "Value", .plain "::",
          .plain "from", .plain "(", .plain f.argName, .plain ")", .plain ")"] := rfl

/-- A setter assigns the column of its field. -/
theorem setCalls_setter (f : ModelField) :
    Code.setCalls f.setter.body = [some (Word.text f.column)] := by
  rw [body_setter]
  simp [Code.setCalls, Code.firstArguments]

/-- A setter asks for no rows. -/
theorem columnCalls_setter (f : ModelField) : Code.columnCalls f.setter.body = [] := by
  rw [body_setter]
  simp [Code.columnCalls, Code.firstArguments]

/-! ## Columns in the schema -/

/-- A constant is made of its column. -/
theorem newFields_constantCode (column : String) :
    Code.newFields (constantCode column) = [some (Word.text column)] := by
  have hcode : constantCode column
      = [.plain "#", .plain "[", .plain "doc", .plain "=", .text (ticked column ++ " column."),
          .plain "]", .plain "pub", .plain "const", .plain (constName column), .plain ":",
          .plain "::", .plain "queryset_core", .plain "::", .plain "Field", .plain "=",
          .plain "::", .plain "queryset_core", .plain "::", .plain "Field", .plain "::",
          .plain "new", .plain "(", .text column, .plain ")", .plain ";"] := rfl
  rw [hcode]
  simp [Code.newFields, Code.firstArguments]

/-- A constant and what it is made of. -/
def Code.fieldConstant? (code : Code) : Option (String × List (Option Word)) :=
  (Code.constantName? code).map fun name => (name, Code.newFields code)

/-- The constant of a column is made of it. -/
theorem fieldConstant?_constantCode (column : String) :
    Code.fieldConstant? (constantCode column)
      = some (constName column, [some (Word.text column)]) := by
  rw [Code.fieldConstant?, newFields_constantCode]
  rfl

/-- Writing a letter as a capital leaves it a letter, and everything else as it is. -/
theorem isAlphanum_toUpper (c : Char) : c.toUpper.isAlphanum = c.isAlphanum := by
  by_cases hlower : c.isLower = true
  · have halpha : c.isAlpha = true := by rw [Char.isAlpha, hlower, Bool.or_true]
    rw [Char.isAlphanum, Char.isAlphanum, Char.isAlpha_toUpper_eq_isAlpha, halpha, Bool.true_or,
      Bool.true_or]
  · rw [Char.toUpper_eq_of_not_isLower hlower]

/-- The letters of a constant's name are capitals, digits and underscores. -/
theorem isAlphanum_or_eq_of_mem_constName {column : String} {c : Char}
    (h : c ∈ (constName column).toList) : c.isAlphanum = true ∨ c = '_' := by
  obtain ⟨d, rfl⟩ := exists_constChar_of_mem_constName h
  unfold constChar
  split
  · rename_i hd
    exact Or.inl ((isAlphanum_toUpper d).trans hd)
  · exact Or.inr rfl

/-- No constant's name has a letter of another kind. -/
theorem constName_ne_of_mem {column name : String} {c : Char} (hmem : c ∈ name.toList)
    (hc : ¬ (c.isAlphanum = true ∨ c = '_')) : constName column ≠ name := by
  intro heq
  exact hc (isAlphanum_or_eq_of_mem_constName (heq ▸ hmem))

/-- Behind the constants of the schema stands the function that lists them. -/
theorem exists_listing_schemaMembers (m : Model) :
    ∃ listing, schemaMembers m = m.columns.map constantCode ++ [listing] ∧
      Code.constantName? listing = none ∧ Code.declaredName? listing = some "fields" ∧
      Code.elements listing = m.columns.map fun column =>
        [.plain m.schemaName, .plain "::", .plain (constName column)] := by
  refine ⟨_, List.append_nil _, rfl, rfl, ?_⟩
  refine elements_of_behind [.plain ";", .plain "ALL", .plain "\x7d"] ?_ ?_
  · let pieces : List Code := m.columns.map fun column =>
      [.plain m.schemaName, .plain "::", .plain (constName column)]
    have hcode : plainFunction " Every column, in field declaration order." "pub fn fields" []
        (words "& 'static" ++ Code.brackets (libraryPath "Field"))
        (words "const ALL : &" ++ Code.brackets (libraryPath "Field") ++ words "= &"
          ++ Code.brackets (Code.commaSeparated pieces) ++ words "; ALL")
        = (.plain "#" :: .plain "[" :: .plain "doc" :: .plain "="
          :: .text " Every column, in field declaration order." :: .plain "]" :: .plain "pub"
          :: .plain "fn" :: .plain "fields" :: .plain "(" :: .plain ")" :: .plain "->"
          :: .plain "&" :: .plain "'static" :: .plain "[" :: .plain "::" :: .plain "queryset_core"
          :: .plain "::" :: .plain "Field" :: .plain "]" :: .plain "\x7b" :: .plain "const"
          :: .plain "ALL" :: .plain ":" :: .plain "&" :: .plain "[" :: .plain "::"
          :: .plain "queryset_core" :: .plain "::" :: .plain "Field" :: .plain "]" :: .plain "="
          :: .plain "&" :: .plain "["
          :: (Code.commaSeparated pieces ++ [Word.plain "]"] ++ [Word.plain ";", .plain "ALL"]
            ++ [Word.plain "\x7d"]) : Code) := rfl
    refine (congrArg (Code.behind _) hcode).trans ?_
    rw [List.append_assoc, List.append_assoc]
    rfl
  · intro piece hpiece
    obtain ⟨column, -, rfl⟩ := List.mem_map.mp hpiece
    have hcomma : constName column ≠ "," := constName_ne_of_mem (c := ',') (by decide) (by decide)
    have hbracket : constName column ≠ "]" := constName_ne_of_mem (c := ']') (by decide) (by decide)
    have hcomma' : m.schemaName ≠ "," := m.typeName_ne_of_length_lt (by decide)
    have hbracket' : m.schemaName ≠ "]" := m.typeName_ne_of_length_lt (by decide)
    refine ⟨nofun, ?_, ?_⟩
    · simp [hcomma.symm, hcomma'.symm]
    · simp [hbracket.symm, hbracket'.symm]

/-! ## Columns in the description of the table -/

/-- The head that the description of a model's table stands behind. -/
def descriptionHead (m : Model) : Code :=
  words "impl" ++ libraryPath "Model for" ++ Code.name m.ident.name

/-- Whether an item describes the table of a model. -/
def GeneratedItem.describes (m : Model) : GeneratedItem → Bool
  | .declaration _ => false
  | .implementation head _ => head == descriptionHead m

/-- The members of the description of a model's table. -/
def descriptionMembers (m : Model) (items : List GeneratedItem) : List Code :=
  (items.filter (GeneratedItem.describes m)).flatMap GeneratedItem.members

/-- An implementation for an executor does not describe a table. -/
theorem implHead_ne_descriptionHead (m : Model) (type : String) (runs : Bool) :
    implHead type runs ≠ descriptionHead m := by
  intro heq
  have hsecond : (implHead type runs)[1]? = some (Word.plain "<") := by cases runs <;> rfl
  have hother : (descriptionHead m)[1]? = some (Word.plain "::") := rfl
  rw [heq, hother] at hsecond
  exact absurd hsecond (by decide)

/-- An implementation without parameters does not describe a table. -/
theorem impl_ne_descriptionHead (m : Model) (type : String) :
    words "impl" ++ Code.name type ≠ descriptionHead m := by
  intro heq
  have hthird : (words "impl" ++ Code.name type)[2]? = none := rfl
  have hother : (descriptionHead m)[2]? = some (Word.plain "queryset_core") := rfl
  rw [heq, hother] at hthird
  cases hthird

/-- The description of the table is a constant for its name and one for its columns. -/
theorem descriptionMembers_generatedItems (m : Model) :
    ∃ name columns, descriptionMembers m m.generatedItems = [name, columns] ∧
      Code.constantName? name = some "TABLE" ∧ Code.constantName? columns = some "COLUMNS" ∧
      Code.elements columns = m.columns.map Code.literal := by
  have hbuilder : ∀ methods, (builderItems m methods).filter (GeneratedItem.describes m) = [] := by
    intro methods
    unfold builderItems
    simp [GeneratedItem.describes, implHead_ne_descriptionHead, impl_ne_descriptionHead]
  have hupdater : (if m.updater then updaterItems m else []).filter (GeneratedItem.describes m)
      = [] := by
    split
    · unfold updaterItems
      simp [GeneratedItem.describes, implHead_ne_descriptionHead]
    · rfl
  have hschema : (schemaItems m).filter (GeneratedItem.describes m) = (schemaItems m).drop 2 := by
    have hown : (words "impl" ++ Code.name m.schemaName == descriptionHead m) = false :=
      beq_eq_false_iff_ne.mpr (impl_ne_descriptionHead m m.schemaName)
    have htrait : (words "impl" ++ libraryPath "Model for" ++ Code.name m.ident.name
        == descriptionHead m) = true := beq_iff_eq.mpr rfl
    unfold schemaItems
    simp only [List.filter_cons, List.filter_nil, GeneratedItem.describes, hown, htrait,
      Bool.false_eq_true, if_false, if_true]
    rfl
  rw [descriptionMembers, Model.generatedItems, List.filter_append, List.filter_append, hbuilder,
    hupdater, hschema]
  refine ⟨_, _, rfl, rfl, rfl, ?_⟩
  refine elements_of_behind [.plain ";"] ?_ ?_
  · have hcode : words "const COLUMNS : & 'static" ++ Code.brackets staticText ++ words "= &"
        ++ Code.brackets (Code.commaSeparated (m.columns.map Code.literal)) ++ words ";"
        = (.plain "const" :: .plain "COLUMNS" :: .plain ":" :: .plain "&" :: .plain "'static"
          :: .plain "[" :: .plain "&" :: .plain "'static" :: .plain "str" :: .plain "]"
          :: .plain "=" :: .plain "&" :: .plain "["
          :: (Code.commaSeparated (m.columns.map Code.literal) ++ [Word.plain "]"]
            ++ [Word.plain ";"]) : Code) := rfl
    rw [hcode, List.append_assoc]
    rfl
  · intro piece hpiece
    obtain ⟨column, -, rfl⟩ := List.mem_map.mp hpiece
    simp [Code.literal]

/-! ## Main statement -/

/-- All parts that are generated for a model name its columns, each for the same field. -/
structure SharesColumns (m : Model) (items : List GeneratedItem) : Prop where
  /-- The description of the table lists the columns. -/
  described : ((descriptionMembers m items).filter
      fun member => Code.constantName? member == some "COLUMNS").map Code.elements
    = [m.columns.map Code.literal]
  /-- The schema has a constant for each column, made of it, and no others. -/
  constants : (ownMembers m.schemaName items).filterMap Code.fieldConstant?
    = m.columns.map fun column => (constName column, [some (Word.text column)])
  /-- The one function of the schema lists all constants in order. -/
  listed : ((ownMembers m.schemaName items).filter
      fun member => Code.constantName? member == none).map
        (fun member => (Code.declaredName? member, Code.elements member))
    = [(some "fields", m.columns.map fun column =>
        [.plain m.schemaName, .plain "::", .plain (constName column)])]
  /-- An updater has a setter for each column, which assigns it and is named after its field, and
  nothing else in it assigns anything. -/
  assigned : ∃ (before : List Code) (setters : List Signature) (after : List Code),
    ownMembers m.updaterName items
        = (if m.updater then before ++ setters.map Signature.code ++ after else []) ∧
      before.map Code.declaredName? = [some "new", some "assignments", some "set"] ∧
      after.map Code.declaredName? = [some "update", some "update_num"] ∧
      (∀ member ∈ before ++ after,
        Code.setCalls member = [] ∧ Code.columnCalls member = []) ∧
      setters.map (fun s : Signature => (s.name, Code.setCalls s.body, Code.columnCalls s.body))
        = m.columnFields.map fun f : ModelField =>
            (methodName "set" f.name false, [some (Word.text f.column)], [])
  /-- Where a method of the query builder asks for a column, it is that of the field which the
  method is named after, and nothing else in the builder asks for columns. -/
  asked : ∃ (others : List Code) (methods : List Method), Method.catalog m = .ok methods ∧
    (ownMembers m.builderName items).Perm
        (others ++ methods.map fun method => (method.signature m).code) ∧
      others.map Code.declaredName?
        = [some "new", some "from_executor", some "db", some "into_db"] ∧
      (∀ member ∈ others, Code.columnCalls member = []) ∧
      methods.map (fun method =>
          ((method.signature m).name, Code.columnCalls (method.signature m).body))
        = (ModelOperation.ofModel m).map (fun op : ModelOperation => (op.name, []))
          ++ m.fields.flatMap fun f : ModelField => (FieldOperation.ofField f).map
            fun op : FieldOperation => (methodName op.name f.name op.fieldFirst,
              if op = .preload then [] else [some (Word.text f.column)])

/-- The items of a model share its columns if the names of its methods differ. -/
theorem sharesColumns_generatedItems {m : Model}
    (hnodup : ((Method.listed m).map Method.name).Nodup) :
    SharesColumns m m.generatedItems where
  described := by
    obtain ⟨name, columns, hmembers, hname, hcolumns, helements⟩ :=
      descriptionMembers_generatedItems m
    simp [hmembers, hname, hcolumns, helements]
  constants := by
    obtain ⟨listing, hmembers, hnone, -, -⟩ := exists_listing_schemaMembers m
    have hlisting : Code.fieldConstant? listing = none := by
      rw [Code.fieldConstant?, hnone]
      rfl
    have hconstant : Code.fieldConstant? ∘ constantCode
        = some ∘ fun column => (constName column, [some (Word.text column)]) :=
      funext fieldConstant?_constantCode
    rw [m.ownMembers_schemaName, hmembers, List.filterMap_append, List.filterMap_map, hconstant,
      List.filterMap_eq_map, List.filterMap_cons_none hlisting, List.filterMap_nil,
      List.append_nil]
  listed := by
    obtain ⟨listing, hmembers, hnone, hname, helements⟩ := exists_listing_schemaMembers m
    have hconstants : (m.columns.map constantCode).filter
        (fun member => Code.constantName? member == none) = [] := by
      rw [List.filter_eq_nil_iff]
      intro member hmember
      obtain ⟨column, -, rfl⟩ := List.mem_map.mp hmember
      exact nofun
    rw [m.ownMembers_schemaName, hmembers, List.filter_append, hconstants, List.nil_append,
      List.filter_cons_of_pos (by simp [hnone])]
    simp [hname, helements]
  assigned := by
    refine ⟨(updaterMembers m).take 3, m.columnFields.map ModelField.setter,
      updateMethods.map Signature.code, ?_, rfl, rfl, ?_, ?_⟩
    · rw [m.ownMembers_updaterName, List.map_map]
      exact congrArg (fun members => if m.updater then members else []) (updaterMembers_eq m)
    · intro member hmember
      change member ∈ [_, _, _, _, _] at hmember
      simp only [List.mem_cons, List.not_mem_nil, or_false] at hmember
      rcases hmember with rfl | rfl | rfl | rfl | rfl <;> decide +kernel
    · rw [List.map_map]
      refine List.map_congr_left fun f _ => ?_
      show (f.setterName, Code.setCalls f.setter.body, Code.columnCalls f.setter.body) = _
      rw [setCalls_setter, columnCalls_setter]
      rfl
  asked := by
    refine ⟨builderMembers m [], Method.listed m,
      (Method.catalog_eq_ok_iff m _).mpr ⟨rfl, hnodup⟩, ?_, rfl,
      columnCalls_of_mem_builderMembers_nil m, ?_⟩
    · rw [m.ownMembers_builderName, builderMembers_eq, List.append_assoc, ← List.map_append]
      exact ((chained_append_terminal_perm _).map _).append_left _
    · rw [Method.listed, List.map_append, List.map_map, List.map_flatMap]
      congr 1
      · refine List.map_congr_left fun op _ => ?_
        show ((op.signature m).name, Code.columnCalls (op.signature m).body) = _
        rw [op.name_signature, op.columnCalls_signature]
      · refine congrArg (m.fields.flatMap ·) (funext fun f => ?_)
        rw [Method.ofField, List.map_map]
        refine List.map_congr_left fun op _ => ?_
        show ((op.signature f).name, Code.columnCalls (op.signature f).body) = _
        rw [op.name_signature, op.columnCalls_signature]
        rfl

/-- A declared type is expanded by its model. -/
theorem Item.expand_eq_ok_iff (item : Item) {items : List GeneratedItem} :
    item.expand = .ok items ↔ ∃ m, Model.ofItem item = .ok m ∧ m.expand = .ok items := by
  rw [Item.expand]
  cases hread : Model.ofItem item with
  | error ds => simp [bind, Except.bind]
  | ok m => cases hitems : m.expand <;> simp [bind, Except.bind, Except.mapError, hitems]

/-- If no field has a wrong attribute, each is read for itself. -/
theorem map_ofField_eq {declared : List Field} (h : declared.filterMap attributeFault? = []) :
    declared.map ModelField.ofField = (declared.filterMap soundField?).map .ok := by
  induction declared with
  | nil => rfl
  | cons f rest ih =>
    rcases ofField_cases f with ⟨field, hread, hright⟩ | ⟨d, -, hwrong⟩
    · have hsound : soundField? f = some field := by rw [soundField?, hread]; rfl
      rw [List.filterMap_cons_none hright] at h
      rw [List.map_cons, List.filterMap_cons_some hsound, List.map_cons, hread, ih h]
    · rw [List.filterMap_cons_some hwrong] at h
      cases h

/-- **One column for each field.** When a declared type is expanded, its fields are read one by one,
and the columns of those that are neither skipped nor relations differ, as do their constants.  The
description of the table, the constants of the schema and their list, the setters of an updater and
the methods of the query builder all name just these columns, each for the same field. -/
theorem expansion_shares_columns (item : Item) (items : List GeneratedItem)
    (hexpand : item.expand = .ok items) :
    ∃ declared m, Model.namedFields item.shape = .ok declared ∧
      Model.ofItem item = .ok m ∧
      declared.map ModelField.ofField = m.fields.map .ok ∧
      m.columns = (m.fields.filter fun f => !f.options.skip && !f.options.preload).map (·.column) ∧
      m.columns.Nodup ∧ (m.columns.map constName).Nodup ∧
      SharesColumns m items := by
  obtain ⟨m, hread, hitems⟩ := item.expand_eq_ok_iff.mp hexpand
  obtain ⟨hnodup, rfl⟩ := (m.expand_eq_ok_iff items).mp hitems
  obtain ⟨declared, hshape, hfaults, hm⟩ := Model.exists_declared_of_ofItem hread
  have hfields : m.fields = declared.filterMap soundField? := by
    rw [hm, Model.ofDeclared, readFields_eq]
  have hright : declared.filterMap attributeFault? = [] := by
    rw [Model.faults, readFields_eq] at hfaults
    exact (List.append_eq_nil_iff.mp (List.append_eq_nil_iff.mp hfaults).1).1
  have hconstants : (m.columns.map constName).Nodup := Model.nodup_constants hread
  refine ⟨declared, m, hshape, hread, ?_, rfl, hconstants.of_map _, hconstants,
    sharesColumns_generatedItems hnodup⟩
  rw [hfields]
  exact map_ofField_eq hright

/-- Fields of a type: with a keyword for a name and a column of its own, without keys, skipped, and
a relation. -/
def mixedFields : List Field :=
  let column : List Lexeme :=
    [.ident "column", .punct '=' false, .literal (.text "kind of")]
  [⟨[keysAttribute column], [], ⟨"r#type", faultyPlace⟩, .named "bool"⟩,
    ⟨[], [], ⟨"id", faultyPlace⟩, .named "Uuid"⟩,
    ⟨[keysAttribute [.ident "skip"]], [], ⟨"hidden", faultyPlace⟩, .named "i64"⟩,
    ⟨[keysAttribute [.ident "preload"]], [], ⟨"posts", faultyPlace⟩, .named "i64"⟩]

/-- A type with these fields. -/
def mixedItem : Item := ⟨[], [], ⟨"Mixed", faultyPlace⟩, none, .named mixedFields⟩

/-- Its model. -/
def mixedModel : Model := .ofDeclared mixedItem mixedFields

/-- The schema of this type has two constants, in the order of their fields. -/
theorem mixedItem_shares_columns :
    mixedItem.expand = .ok mixedModel.generatedItems ∧
      SharesColumns mixedModel mixedModel.generatedItems ∧
      (ownMembers "MixedDbSchema" mixedModel.generatedItems).filterMap Code.fieldConstant?
        = [("KIND_OF", [some (Word.text "kind of")]), ("ID", [some (Word.text "id")])] := by
  have hread : Model.ofItem mixedItem = .ok mixedModel := rfl
  have hitems : mixedModel.expand = .ok mixedModel.generatedItems :=
    (mixedModel.expand_eq_ok_iff _).mpr ⟨by decide +kernel, rfl⟩
  have hexpand : mixedItem.expand = .ok mixedModel.generatedItems :=
    mixedItem.expand_eq_ok_iff.mpr ⟨mixedModel, hread, hitems⟩
  obtain ⟨declared, m, -, hm, -, -, -, -, hshares⟩ :=
    expansion_shares_columns mixedItem mixedModel.generatedItems hexpand
  obtain rfl : mixedModel = m := Except.ok.inj (hread.symm.trans hm)
  exact ⟨hexpand, hshares, hshares.constants⟩

end QueryChain
