/-
# Names of arguments

The name of an argument is derived on two paths: an abbreviation is put in lower case as a whole, and
any other name is taken apart like that of a column.  Of the abbreviations in the table, those of
letters only are one word on both paths; the one that ends with a digit is cut in front of it where
columns are named, and there the two paths part.
-/
import QueryChain.Proofs.NameWords

namespace QueryChain

/-! ## Abbreviations as columns -/

/-- As the name of a column, an abbreviation of letters is one word. -/
theorem dbName_of_isAbbreviation {word : String} (h : isAbbreviation word.toList = true) :
    dbName word = word.map Char.toLower := by
  obtain ⟨c, d, rest, hletters, hupper⟩ := exists_of_isAbbreviation h
  have hchars : ∀ e ∈ word.toList, isNameChar e = true :=
    fun e he => isNameChar_of_isAlpha (isAlpha_of_mem_word (Or.inr h) e he)
  have hname : (unraw word).toList = word.toList := by
    rw [unraw, String.toList_ofList, unrawChars_of_isNameChar hchars]
  -- Its first capital keeps it from being in snake case already.
  have hcapital : ¬ word.toList.all isSnakeChar = true := by
    intro hsnake
    have hc : c ∈ word.toList := hletters ▸ List.mem_cons_self
    have hlower := toLower_of_isSnakeChar (List.all_eq_true.mp hsnake c hc)
    have hnot := Char.isUpper_toLower_eq_false c
    rw [hlower, hupper c List.mem_cons_self] at hnot
    cases hnot
  have hsnake : snakeCase (titleInitialisms false 0 word.toList) = word.toList.map Char.toLower := by
    have hwords : ∀ w ∈ [word.toList], isCapitalised w = true ∨ isAbbreviation w = true :=
      List.forall_mem_singleton.mpr (Or.inr h)
    simpa using snakeCase_flatten (List.cons_ne_nil _ _) hwords (List.isChain_singleton _)
  apply String.toList_injective
  rw [toList_dbName, hname, if_neg hcapital, hsnake, String.toList_map]

/-- Only one abbreviation has a character that is no letter. -/
theorem isAbbreviation_of_ne {word : String} (h : isInitialism word = true) (hne : word ≠ "UTF8") :
    isAbbreviation word.toList = true := by
  have htable : ∀ w ∈ initialisms, w ≠ "UTF8" → w.toList.all Char.isAlpha = true := by decide
  rw [isAbbreviation_toList, Bool.and_eq_true]
  exact ⟨h, htable word (List.contains_iff_mem.mp h) hne⟩

/-- That one is cut in front of its digit. -/
theorem dbName_utf8 : dbName "UTF8" = "utf_8" := by decide

/-- In small letters it stays one word. -/
theorem map_toLower_utf8 : "UTF8".map Char.toLower = "utf8" := by
  apply String.toList_injective
  rw [String.toList_map]
  rfl

/-- An abbreviation is one word as the name of a column exactly if it has letters only. -/
theorem dbName_eq_map_toLower_iff {word : String} (h : isInitialism word = true) :
    dbName word = word.map Char.toLower ↔ word ≠ "UTF8" := by
  constructor
  · rintro heq rfl
    rw [dbName_utf8, map_toLower_utf8] at heq
    exact absurd heq (by decide)
  · intro hne
    exact dbName_of_isAbbreviation (isAbbreviation_of_ne h hne)

/-- In lower case, no abbreviation is a word of the language. -/
theorem map_toLower_not_mem_keywords {word : String} (h : isInitialism word = true) :
    word.map Char.toLower ∉ keywords := by
  have htables : ∀ w ∈ initialisms, w.toList.map Char.toLower ∉ keywords.map String.toList := by
    decide +kernel
  intro hkeyword
  have hletters := List.mem_map_of_mem (f := String.toList) hkeyword
  rw [String.toList_map] at hletters
  exact htables word (List.contains_iff_mem.mp h) hletters

/-! ## The two paths -/

section

variable {s name : String} (hs : isAsciiIdent s = true) (hname : name = s ∨ name = "r#" ++ s)

include hs hname

/-- The mark of an identifier does not matter for its column. -/
theorem dbName_eq_of_isAsciiIdent : dbName name = dbName s := by
  apply String.toList_injective
  rw [toList_dbName, toList_dbName, unraw_of_isAsciiIdent hs hname,
    unraw_of_isAsciiIdent hs (Or.inl rfl)]

/-- On its own path, an abbreviation is put in lower case. -/
theorem argName_of_isInitialism (hword : isInitialism s = true) :
    argName name = s.map Char.toLower := by
  have hplain : plainArgName name = s.map Char.toLower := by
    rw [plainArgName, unraw_of_isAsciiIdent hs hname, if_pos hword]
  have hkeyword : ¬ isKeyword (s.map Char.toLower) = true := by
    rw [isKeyword, List.contains_iff_mem]
    exact map_toLower_not_mem_keywords hword
  rw [argName_eq, hplain, if_neg hkeyword]

/-- Both paths lead to one name but for the abbreviation with a digit. -/
theorem plainArgName_eq_dbName (hne : s ≠ "UTF8") : plainArgName name = dbName name := by
  rw [dbName_eq_of_isAsciiIdent hs hname, plainArgName, unraw_of_isAsciiIdent hs hname]
  split
  · rename_i hword
    exact ((dbName_eq_map_toLower_iff hword).mpr hne).symm
  · rfl

/-- So the argument is named like the column, with a suffix behind a word of the language. -/
theorem argName_eq_dbName (hne : s ≠ "UTF8") :
    argName name = if dbName name ∈ keywords then dbName name ++ "_value" else dbName name := by
  rw [argName_eq, plainArgName_eq_dbName hs hname hne]
  simp only [isKeyword, List.contains_iff_mem]

end

/-! ## Main statement -/

/-- **Arguments and columns.** For an ASCII identifier, marked or not, the argument is named like the
column, with a suffix exactly if that is a word of the language, unless the identifier is the one
abbreviation with a digit.  Any other abbreviation is one word in both names; this one is so only in
that of the argument, and an underscore is put in front of the digit in that of the column. -/
theorem argName_eq_dbName_iff (s name : String) (hs : isAsciiIdent s = true)
    (hname : name = s ∨ name = "r#" ++ s) :
    (argName name = (if dbName name ∈ keywords then dbName name ++ "_value" else dbName name)
      ↔ s ≠ "UTF8") ∧
    (s ≠ "UTF8" → (argName name = dbName name ++ "_value" ↔ dbName name ∈ keywords)) ∧
    (isInitialism s = true → argName name = s.map Char.toLower ∧
      (dbName name = s.map Char.toLower ↔ s ≠ "UTF8")) ∧
    (s = "UTF8" → argName name = "utf8" ∧ dbName name = "utf_8") := by
  have hcolumn := dbName_eq_of_isAsciiIdent hs hname
  have hexcept : s = "UTF8" → argName name = "utf8" ∧ dbName name = "utf_8" := by
    rintro rfl
    rw [argName_of_isInitialism hs hname (by decide), hcolumn]
    exact ⟨map_toLower_utf8, dbName_utf8⟩
  refine ⟨⟨?_, argName_eq_dbName hs hname⟩, fun hne => ?_, fun hword => ?_, hexcept⟩
  · intro heq hutf8
    obtain ⟨harg, hdb⟩ := hexcept hutf8
    rw [harg, hdb] at heq
    exact absurd heq (by decide)
  · rw [argName_eq_dbName hs hname hne]
    constructor
    · intro heq
      by_contra hplain
      rw [if_neg hplain] at heq
      have hlength := congrArg String.length heq
      simp at hlength
    · exact fun hkeyword => if_pos hkeyword
  · rw [hcolumn]
    exact ⟨argName_of_isInitialism hs hname hword, dbName_eq_map_toLower_iff hword⟩

/-- A keyword with and without capitals gets its suffix, and an abbreviation in which a shorter one
starts is one word twice. -/
theorem markedType_argName :
    isAsciiIdent "Type" = true ∧ dbName "r#Type" = "type" ∧ argName "r#Type" = "type_value" ∧
      isAsciiIdent "HTTPS" = true ∧ isInitialism "HTTPS" = true ∧
      dbName "HTTPS" = "https" ∧ argName "HTTPS" = "https" := by
  have hdb : dbName "r#Type" = "type" := by decide
  obtain ⟨-, hkeyword, -, -⟩ :=
    argName_eq_dbName_iff "Type" "r#Type" (by decide) (Or.inr rfl)
  obtain ⟨-, -, habbr, -⟩ :=
    argName_eq_dbName_iff "HTTPS" "HTTPS" (by decide) (Or.inl rfl)
  have harg := (hkeyword (by decide)).mpr (by rw [hdb]; decide)
  rw [hdb] at harg
  have hlower : "HTTPS".map Char.toLower = "https" := by
    apply String.toList_injective
    rw [String.toList_map]
    rfl
  obtain ⟨hargument, hcolumn⟩ := habbr (by decide)
  refine ⟨by decide, hdb, harg, by decide, by decide, ?_, hargument.trans hlower⟩
  exact (hcolumn.mpr (by decide)).trans hlower

/-- The abbreviation with a digit is one word as an argument and two as a column, and so in the names
of methods; neither is a word of the language. -/
theorem utf8_argName_ne_dbName :
    isAsciiIdent "UTF8" = true ∧ isInitialism "UTF8" = true ∧
      argName "UTF8" = "utf8" ∧ dbName "UTF8" = "utf_8" ∧ dbName "UTF8" ∉ keywords ∧
      methodName "eq" "UTF8" true = "utf_8_eq" ∧
      argName "UTF8" ≠ (if dbName "UTF8" ∈ keywords then dbName "UTF8" ++ "_value"
        else dbName "UTF8") := by
  have harg : argName "UTF8" = "utf8" :=
    (argName_of_isInitialism (by decide) (Or.inl rfl) (by decide)).trans map_toLower_utf8
  have hplain : dbName "UTF8" ∉ keywords := by decide
  refine ⟨by decide, by decide, harg, dbName_utf8, hplain, by decide, ?_⟩
  rw [harg, if_neg hplain, dbName_utf8]
  decide

end QueryChain
