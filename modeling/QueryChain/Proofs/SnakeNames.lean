/-
# Names in snake case

For an ASCII identifier, the name of its column is the identifier in lower case with underscores put
in between letters and digits, and nothing else changed: cutting a name into words loses neither its
underscores nor the empty words around them.  So names of columns, methods and arguments are
identifiers again, and a name in snake case stays as it is.
-/
import QueryChain.Builder.Method
import QueryChain.Proofs.Layout
import Mathlib

namespace QueryChain

/-! ## Identifiers -/

/-- A letter, a digit or an underscore. -/
def isNameChar (c : Char) : Bool := c.isAlphanum || c == '_'

/-- Whether a name is an ASCII identifier: a letter or an underscore first, and then letters, digits
and underscores. -/
def isAsciiIdent (name : String) : Bool :=
  name.toList.head?.any (fun c => c.isAlpha || c == '_') && name.toList.all isNameChar

/-- Whether a name is an identifier in snake case: it has no capitals. -/
def isSnakeIdent (name : String) : Bool :=
  name.toList.head?.any (fun c => c.isLower || c == '_') && name.toList.all isSnakeChar

/-! ## ASCII characters -/

/-- Letters, digits and underscores are ASCII characters. -/
theorem toNat_lt_of_isNameChar {c : Char} (h : isNameChar c = true) : c.toNat < 128 := by
  simp only [isNameChar, Char.isAlphanum, Char.isAlpha, Char.isUpper, Char.isLower, Char.isDigit,
    Bool.or_eq_true, Bool.and_eq_true, decide_eq_true_eq, beq_iff_eq, ge_iff_le,
    UInt32.le_iff_toNat_le] at h
  change (((65 ≤ c.toNat ∧ c.toNat ≤ 90) ∨ (97 ≤ c.toNat ∧ c.toNat ≤ 122)) ∨
    (48 ≤ c.toNat ∧ c.toNat ≤ 57)) ∨ c = '_' at h
  rcases h with ((h | h) | h) | rfl
  · omega
  · omega
  · omega
  · decide

/-- Of an ASCII character alone, the two cases are those of the character. -/
theorem upperText_singleton {c : Char} (h : c.toNat < 128) : upperText [c] = [c.toUpper] := by
  simp [upperText, upperChar, h]

/-- Likewise for lower case. -/
theorem lowerText_singleton {c : Char} (h : c.toNat < 128) : lowerText [c] = [c.toLower] :=
  lowerText_ascii (by simpa using h)

/-- An ASCII cluster is upper if it is a capital. -/
theorem isUpper_singleton {c : Char} (h : c.toNat < 128) : isUpper [c] = c.isUpper := by
  rw [isUpper, upperText_singleton h, lowerText_singleton h]
  by_cases hupper : c.isUpper = true
  · have hsame : c.toUpper = c :=
      Char.toUpper_eq_of_not_isLower (Char.not_isLower_of_isUpper hupper)
    have hother : c ≠ c.toLower := by
      intro heq
      have hnot := Char.isUpper_toLower_eq_false c
      rw [← heq, hupper] at hnot
      cases hnot
    simp [hsame, hother, hupper]
  · have hsame : c.toLower = c := Char.toLower_eq_of_not_isUpper hupper
    by_cases hchanged : c.toUpper = c
    · simp [hsame, hchanged, hupper]
    · simp [hsame, hchanged, hupper]

/-- An ASCII cluster is lower if it is a small letter. -/
theorem isLower_singleton {c : Char} (h : c.toNat < 128) : isLower [c] = c.isLower := by
  rw [isLower, upperText_singleton h, lowerText_singleton h]
  by_cases hlower : c.isLower = true
  · have hsame : c.toLower = c :=
      Char.toLower_eq_of_not_isUpper (Char.not_isUpper_of_isLower hlower)
    have hother : c.toUpper ≠ c := by
      intro heq
      have hnot := Char.isLower_toUpper_eq_false c
      rw [heq, hlower] at hnot
      cases hnot
    simp [hsame, hother, hlower]
  · have hsame : c.toUpper = c := Char.toUpper_eq_of_not_isLower hlower
    by_cases hchanged : c.toLower = c
    · simp [hsame, hchanged, hlower]
    · simp [hsame, hchanged, hlower]

/-- A capital is a letter. -/
theorem isAlpha_of_isUpper {c : Char} (h : c.isUpper = true) : c.isAlpha = true := by
  simp [Char.isAlpha, h]

/-- A small letter is a letter. -/
theorem isAlpha_of_isLower {c : Char} (h : c.isLower = true) : c.isAlpha = true := by
  simp [Char.isAlpha, h]

/-- Letters and digits are letters and digits in lower case. -/
theorem isAlphanum_toLower (c : Char) : c.toLower.isAlphanum = c.isAlphanum := by
  by_cases hupper : c.isUpper = true
  · rw [Char.isAlphanum, Char.isAlphanum, Char.isAlpha_toLower_eq_isAlpha,
      isAlpha_of_isUpper hupper, Bool.true_or, Bool.true_or]
  · rw [Char.toLower_eq_of_not_isUpper hupper]

/-- Lower case does not change what belongs to a name. -/
theorem isNameChar_toLower (c : Char) : isNameChar c.toLower = isNameChar c := by
  by_cases hupper : c.isUpper = true
  · have halphanum : c.isAlphanum = true := by
      rw [Char.isAlphanum, isAlpha_of_isUpper hupper, Bool.true_or]
    rw [isNameChar, isNameChar, isAlphanum_toLower, halphanum, Bool.true_or, Bool.true_or]
  · rw [Char.toLower_eq_of_not_isUpper hupper]

/-- What belongs to a name belongs to one in snake case once it is in lower case. -/
theorem isSnakeChar_toLower {c : Char} (h : isNameChar c = true) :
    isSnakeChar c.toLower = true := by
  by_cases hupper : c.isUpper = true
  · have hlower : c.toLower.isLower = true :=
      (Char.isLower_toLower_eq_isAlpha c).trans (isAlpha_of_isUpper hupper)
    rw [isSnakeChar, hlower, Bool.true_or, Bool.true_or]
  · rw [Char.toLower_eq_of_not_isUpper hupper]
    simp only [isNameChar, Char.isAlphanum, Char.isAlpha, Bool.or_eq_true] at h
    simp only [isSnakeChar, Bool.or_eq_true]
    rcases h with ((h | h) | h) | h
    · exact absurd h hupper
    · exact Or.inl (Or.inl h)
    · exact Or.inl (Or.inr h)
    · exact Or.inr h

/-- Characters of snake case are in lower case. -/
theorem toLower_of_isSnakeChar {c : Char} (h : isSnakeChar c = true) : c.toLower = c := by
  apply Char.toLower_eq_of_not_isUpper
  intro hupper
  have hrange : 65 ≤ c.toNat ∧ c.toNat ≤ 90 := by
    simpa [Char.isUpper, UInt32.le_iff_toNat_le] using hupper
  simp only [isSnakeChar, Char.isLower, Char.isDigit, Bool.or_eq_true, Bool.and_eq_true,
    decide_eq_true_eq, beq_iff_eq, ge_iff_le, UInt32.le_iff_toNat_le] at h
  change ((97 ≤ c.toNat ∧ c.toNat ≤ 122) ∨ (48 ≤ c.toNat ∧ c.toNat ≤ 57)) ∨ c = '_' at h
  rcases h with (h | h) | rfl
  · omega
  · omega
  · exact absurd hupper (by decide)

/-- They belong to names. -/
theorem isNameChar_of_isSnakeChar {c : Char} (h : isSnakeChar c = true) : isNameChar c = true := by
  simp only [isSnakeChar, Bool.or_eq_true] at h
  simp only [isNameChar, Char.isAlphanum, Char.isAlpha, Bool.or_eq_true]
  rcases h with (h | h) | h
  · exact Or.inl (Or.inl (Or.inr h))
  · exact Or.inl (Or.inr h)
  · exact Or.inr h

/-! ## Underscores put in -/

/-- The second text is the first one with underscores put in, each between two letters or digits. -/
inductive Underscored : List Char → List Char → Prop where
  | nil : Underscored [] []
  | keep (c : Char) {s t : List Char} : Underscored s t → Underscored (c :: s) (c :: t)
  | cut {c d : Char} {s t : List Char} (hc : c.isAlphanum = true) (hd : d.isAlphanum = true) :
      Underscored (d :: s) (d :: t) → Underscored (c :: d :: s) (c :: '_' :: d :: t)

namespace Underscored

/-- No underscore need be put in. -/
theorem refl (s : List Char) : Underscored s s := by
  induction s with
  | nil => exact .nil
  | cons c rest ih => exact .keep c ih

/-- Nothing is put in at the front. -/
theorem head?_eq {s t : List Char} (h : Underscored s t) : t.head? = s.head? := by
  cases h with
  | nil => rfl
  | keep c _ => rfl
  | cut _ _ _ => rfl

/-- An underscore can be put in before any text that has the next character at its front. -/
theorem cut_cons {c d : Char} {s u : List Char} (hc : c.isAlphanum = true)
    (hd : d.isAlphanum = true) (h : Underscored (d :: s) u) :
    Underscored (c :: d :: s) (c :: '_' :: u) := by
  obtain ⟨t, rfl⟩ := List.head?_eq_some_iff.mp h.head?_eq
  exact .cut hc hd h

/-- What holds of the underscore and of all characters before holds of all characters behind. -/
theorem forall_mem {s t : List Char} (h : Underscored s t) {p : Char → Prop} (hmark : p '_')
    (hs : ∀ c ∈ s, p c) : ∀ c ∈ t, p c := by
  induction h with
  | nil => exact hs
  | keep c _ ih =>
    rw [List.forall_mem_cons] at hs ⊢
    exact ⟨hs.1, ih hs.2⟩
  | cut _ _ _ ih =>
    rw [List.forall_mem_cons] at hs ⊢
    exact ⟨hs.1, List.forall_mem_cons.mpr ⟨hmark, ih hs.2⟩⟩

end Underscored

/-! ## Words of ASCII names -/

/-- Between ASCII characters, a word ends where a capital or a digit follows a small letter, where
letters and digits meet otherwise, and before the last capital of several. -/
theorem endsWord_ascii {c d : Char} (rest : List (List Char)) (hc : c.toNat < 128)
    (hd : d.toNat < 128) :
    endsWord [c] ([d] :: rest)
      = (c.isLower && (d.isUpper || d.isDigit) || c.isUpper && d.isDigit
        || c.isDigit && (d.isLower || d.isUpper)
        || c.isUpper && d.isUpper && rest.head?.any isLower) := by
  have hdigit : ∀ e : Char, isDigitCluster [e] = e.isDigit := fun e => by simp [isDigitCluster]
  simp only [endsWord, hdigit, isLower_singleton hc, isLower_singleton hd, isUpper_singleton hc,
    isUpper_singleton hd]

/-- Words end between letters and digits only. -/
theorem isAlphanum_of_endsWord {c d : Char} {rest : List (List Char)} (hc : c.toNat < 128)
    (hd : d.toNat < 128) (h : endsWord [c] ([d] :: rest) = true) :
    c.isAlphanum = true ∧ d.isAlphanum = true := by
  rw [endsWord_ascii rest hc hd] at h
  simp only [Bool.or_eq_true, Bool.and_eq_true] at h
  simp only [Char.isAlphanum, Char.isAlpha, Bool.or_eq_true]
  constructor
  · rcases h with ((⟨h, _⟩ | ⟨h, _⟩) | ⟨h, _⟩) | ⟨⟨h, _⟩, _⟩
    · exact Or.inl (Or.inr h)
    · exact Or.inl (Or.inl h)
    · exact Or.inr h
    · exact Or.inl (Or.inl h)
  · rcases h with ((⟨_, h | h⟩ | ⟨_, h⟩) | ⟨_, h | h⟩) | ⟨⟨_, h⟩, _⟩
    · exact Or.inl (Or.inl h)
    · exact Or.inr h
    · exact Or.inr h
    · exact Or.inl (Or.inr h)
    · exact Or.inl (Or.inl h)
    · exact Or.inl (Or.inl h)

/-- The characters of words are those of the clusters. -/
theorem exists_mem_of_mem_cutWords {gs : List (List Char)} {word : List Char} {c : Char}
    (hword : word ∈ cutWords gs) (hc : c ∈ word) : ∃ g ∈ gs, c ∈ g := by
  induction gs generalizing word with
  | nil =>
    rw [cutWords, List.mem_singleton] at hword
    rw [hword] at hc
    cases hc
  | cons g rest ih =>
    have hlater : ∀ {other}, other ∈ cutWords rest → c ∈ other → ∃ g' ∈ g :: rest, c ∈ g' := by
      intro other hother hmem
      obtain ⟨g', hg', hcg⟩ := ih hother hmem
      exact ⟨g', List.mem_cons_of_mem g hg', hcg⟩
    rw [cutWords] at hword
    split at hword
    · rcases List.mem_cons.mp hword with rfl | hword
      · cases hc
      · exact hlater hword hc
    · split at hword
      · rcases List.mem_cons.mp hword with rfl | hword
        · exact ⟨_, List.mem_cons_self, hc⟩
        · exact hlater hword hc
      · split at hword
        · rename_i hnil
          exact absurd hnil (cutWords_ne_nil rest)
        · rename_i first others hwords
          rcases List.mem_cons.mp hword with rfl | hword
          · rcases List.mem_append.mp hc with hc | hc
            · exact ⟨g, List.mem_cons_self, hc⟩
            · exact hlater (hwords ▸ List.mem_cons_self) hc
          · exact hlater (hwords ▸ List.mem_cons_of_mem first hword) hc

/-- An ASCII name in snake case is its words in ASCII lower case. -/
theorem snakeCase_ascii {cs : List Char} (h : ∀ c ∈ cs, c.toNat < 128) :
    snakeCase cs
      = ['_'].intercalate ((cutWords (cs.map fun c => [c])).map (List.map Char.toLower)) := by
  rw [snakeCase, clusters_ascii h]
  congr 1
  apply List.map_congr_left
  intro word hword
  apply lowerText_ascii
  intro c hc
  obtain ⟨g, hg, hcg⟩ := exists_mem_of_mem_cutWords hword hc
  obtain ⟨d, hd, rfl⟩ := List.mem_map.mp hg
  rw [List.mem_singleton.mp hcg]
  exact h d hd

/-- Of the marks between words, names have underscores only. -/
theorem eq_underscore_of_isDelimiter {c : Char} (h : isNameChar c = true)
    (hmark : isDelimiter [c] = true) : c = '_' := by
  simp only [isDelimiter, Bool.or_eq_true, beq_iff_eq, List.cons.injEq, and_true] at hmark
  rcases hmark with (rfl | rfl) | rfl
  · rfl
  · exact absurd h (by decide)
  · exact absurd h (by decide)

/-- Cut into words and joined again, a name has underscores put in and is in lower case. -/
theorem underscored_snakeCase {cs : List Char} (h : ∀ c ∈ cs, isNameChar c = true) :
    Underscored (cs.map Char.toLower) (snakeCase cs) := by
  rw [snakeCase_ascii fun c hc => toNat_lt_of_isNameChar (h c hc)]
  -- Each character is a mark, the last one of its word, or goes on with the next word.
  induction cs with
  | nil => exact .nil
  | cons c rest ih =>
    rw [List.forall_mem_cons] at h
    have ih := ih h.2
    have hc : c.toNat < 128 := toNat_lt_of_isNameChar h.1
    have hwords := cutWords_ne_nil (rest.map fun d => [d])
    rw [List.map_cons, List.map_cons, cutWords]
    split
    · -- The mark between two words stands in the name already.
      rename_i hmark
      obtain rfl := eq_underscore_of_isDelimiter h.1 hmark
      rw [List.map_cons, List.intercalate_cons_of_ne_nil (by simpa using hwords)]
      exact .keep '_' ih
    · split
      · rename_i hends
        cases rest with
        | nil => cases hends
        | cons d more =>
          have hd : d.toNat < 128 := toNat_lt_of_isNameChar (h.2 d List.mem_cons_self)
          obtain ⟨hfirst, hsecond⟩ := isAlphanum_of_endsWord hc hd hends
          rw [List.map_cons, List.map_cons,
            List.intercalate_cons_of_ne_nil (by simpa using hwords)]
          exact .cut_cons ((isAlphanum_toLower c).trans hfirst)
            ((isAlphanum_toLower d).trans hsecond) ih
      · split
        · rename_i hnil
          exact absurd hnil hwords
        · rename_i word words hcut
          rw [hcut, List.map_cons] at ih
          rw [List.map_cons, intercalate_cons]
          rw [intercalate_cons] at ih
          exact .keep c.toLower ih

/-! ## Abbreviations -/

/-- Writing abbreviations as words changes the case of letters only. -/
theorem map_toLower_titleInitialisms (inside : Bool) (letters : Nat) (cs : List Char) :
    (titleInitialisms inside letters cs).map Char.toLower = cs.map Char.toLower := by
  induction cs generalizing inside letters with
  | nil => rfl
  | cons c rest ih =>
    cases letters with
    | zero => simp only [titleInitialisms, List.map_cons, ih]
    | succ letters =>
      simp only [titleInitialisms, List.map_cons, ih, Char.toLower_toLower_eq_toLower]

/-- So it leaves a name a name. -/
theorem isNameChar_of_mem_titleInitialisms {inside : Bool} {letters : Nat} {cs : List Char}
    (h : ∀ c ∈ cs, isNameChar c = true) :
    ∀ c ∈ titleInitialisms inside letters cs, isNameChar c = true := by
  intro c hc
  have hlower : c.toLower ∈ (titleInitialisms inside letters cs).map Char.toLower :=
    List.mem_map_of_mem hc
  rw [map_toLower_titleInitialisms] at hlower
  obtain ⟨d, hd, heq⟩ := List.mem_map.mp hlower
  rw [← isNameChar_toLower c, ← heq, isNameChar_toLower d]
  exact h d hd

/-! ## Names of columns -/

/-- A name without `#` has no mark to take off. -/
theorem unrawChars_of_isNameChar {cs : List Char} (h : ∀ c ∈ cs, isNameChar c = true) :
    unrawChars cs = cs := by
  unfold unrawChars
  split
  · rename_i rest
    exact absurd (h '#' (by simp)) (by decide)
  · rfl

/-- The mark is taken off, if there is one. -/
theorem unraw_of_isAsciiIdent {s name : String} (hs : isAsciiIdent s = true)
    (hname : name = s ∨ name = "r#" ++ s) : unraw name = s := by
  rw [isAsciiIdent, Bool.and_eq_true, List.all_eq_true] at hs
  rcases hname with rfl | rfl
  · rw [unraw, unrawChars_of_isNameChar hs.2, String.ofList_toList]
  · rw [unraw, String.toList_append]
    exact String.ofList_toList

/-- The name of a column is that of the identifier without the mark. -/
theorem toList_dbName (name : String) :
    (dbName name).toList
      = if (unraw name).toList.all isSnakeChar then (unraw name).toList
        else snakeCase (titleInitialisms false 0 (unraw name).toList) := by
  simp only [dbName, dbNameChars, unraw, String.toList_ofList]

/-- A name in snake case stays as it is. -/
theorem dbName_of_isSnakeIdent {name : String} (h : isSnakeIdent name = true) :
    dbName name = name := by
  rw [isSnakeIdent, Bool.and_eq_true] at h
  have hchars : ∀ c ∈ name.toList, isNameChar c = true :=
    fun c hc => isNameChar_of_isSnakeChar (List.all_eq_true.mp h.2 c hc)
  apply String.toList_injective
  rw [toList_dbName, unraw, String.toList_ofList, unrawChars_of_isNameChar hchars, if_pos h.2]

/-- The name of a column is the identifier in lower case with underscores put in. -/
theorem underscored_dbName {s name : String} (hs : isAsciiIdent s = true)
    (hname : name = s ∨ name = "r#" ++ s) :
    Underscored (s.toList.map Char.toLower) (dbName name).toList := by
  rw [toList_dbName, unraw_of_isAsciiIdent hs hname]
  rw [isAsciiIdent, Bool.and_eq_true, List.all_eq_true] at hs
  split
  · rename_i hsnake
    have hlower : s.toList.map Char.toLower = s.toList.map id :=
      List.map_congr_left fun c hc => toLower_of_isSnakeChar (List.all_eq_true.mp hsnake c hc)
    rw [hlower, List.map_id]
    exact .refl _
  · rw [← map_toLower_titleInitialisms false 0]
    exact underscored_snakeCase (isNameChar_of_mem_titleInitialisms hs.2)

/-- In lower case and with underscores put in, an identifier is one in snake case. -/
theorem isSnakeIdent_of_underscored {s : String} {t : String} (hs : isAsciiIdent s = true)
    (h : Underscored (s.toList.map Char.toLower) t.toList) : isSnakeIdent t = true := by
  rw [isAsciiIdent, Bool.and_eq_true, List.all_eq_true] at hs
  rw [isSnakeIdent, Bool.and_eq_true, List.all_eq_true]
  constructor
  · rw [h.head?_eq, List.head?_map]
    rcases hhead : s.toList.head? with _ | c
    · rw [hhead] at hs
      exact hs.1
    · rw [hhead] at hs
      have hfirst : c.isAlpha = true ∨ c = '_' := by simpa using hs.1
      rcases hfirst with halpha | rfl
      · have hlower : c.toLower.isLower = true :=
          (Char.isLower_toLower_eq_isAlpha c).trans halpha
        simp [hlower]
      · rfl
  · refine h.forall_mem (p := fun c => isSnakeChar c = true) rfl ?_
    intro c hc
    obtain ⟨d, hd, rfl⟩ := List.mem_map.mp hc
    exact isSnakeChar_toLower (hs.2 d hd)

/-! ## Names of methods and arguments -/

/-- Behind an identifier in snake case, more of its characters may follow. -/
theorem isSnakeIdent_append {name more : String} (hname : isSnakeIdent name = true)
    (hmore : more.toList.all isSnakeChar = true) : isSnakeIdent (name ++ more) = true := by
  rw [isSnakeIdent, Bool.and_eq_true] at hname ⊢
  rw [String.toList_append, List.all_append, Bool.and_eq_true]
  refine ⟨?_, hname.2, hmore⟩
  cases hletters : name.toList with
  | nil =>
    rw [hletters] at hname
    cases hname.1
  | cons c rest =>
    rw [hletters] at hname
    exact hname.1

/-- Operations are named by identifiers in snake case. -/
theorem FieldOperation.isSnakeIdent_name (op : FieldOperation) : isSnakeIdent op.name = true := by
  cases op with
  | compare c => cases c <;> decide
  | membership m => cases m <;> decide
  | presence p => cases p <;> decide
  | order d => cases d <;> decide
  | preload => decide

/-- An operation and a column make a method, in either order. -/
theorem isSnakeIdent_methodName {operation field : String} (fieldFirst : Bool)
    (hop : isSnakeIdent operation = true) (hfield : isSnakeIdent (dbName field) = true) :
    isSnakeIdent (methodName operation field fieldFirst) = true := by
  have hparts := And.intro hop hfield
  simp only [isSnakeIdent, Bool.and_eq_true] at hparts
  rw [methodName]
  split
  · exact isSnakeIdent_append (isSnakeIdent_append hfield rfl) hparts.1.2
  · exact isSnakeIdent_append (isSnakeIdent_append hop rfl) hparts.2.2

/-- No word of the language has an underscore. -/
theorem underscore_not_mem_of_mem_keywords : ∀ word ∈ keywords, '_' ∉ word.toList := by
  decide

/-- What an argument is named by, unless it is a word of the language. -/
def plainArgName (name : String) : String :=
  if isInitialism (unraw name) then (unraw name).map Char.toLower else dbName (unraw name)

/-- A word of the language gets a suffix. -/
theorem argName_eq (name : String) :
    argName name = if isKeyword (plainArgName name) then plainArgName name ++ "_value"
      else plainArgName name := rfl

/-- No argument is named by a word of the language. -/
theorem argName_not_mem_keywords (name : String) : argName name ∉ keywords := by
  rw [argName_eq]
  intro hmem
  split at hmem
  · have hmark : '_' ∈ (plainArgName name ++ "_value").toList := by
      rw [String.toList_append, List.mem_append]
      exact Or.inr (by decide)
    exact underscore_not_mem_of_mem_keywords _ hmem hmark
  · rename_i hplain
    exact hplain (List.contains_iff_mem.mpr hmem)

/-- An argument is named by an identifier in snake case. -/
theorem isSnakeIdent_argName {s name : String} (hs : isAsciiIdent s = true)
    (hname : name = s ∨ name = "r#" ++ s) : isSnakeIdent (argName name) = true := by
  have hplain : isSnakeIdent (plainArgName name) = true := by
    rw [plainArgName, unraw_of_isAsciiIdent hs hname]
    split
    · apply isSnakeIdent_of_underscored hs
      rw [String.toList_map]
      exact .refl _
    · exact isSnakeIdent_of_underscored hs (underscored_dbName hs (Or.inl rfl))
  rw [argName_eq]
  split
  · exact isSnakeIdent_append hplain (by decide)
  · exact hplain

/-! ## Derived names -/

/-- **Derived names.** Names derived from an ASCII identifier, marked or not, are identifiers.  The
name of the column is the identifier in lower case with underscores put in between letters and
digits; it derives itself, and among identifiers those in snake case alone do.  Methods and arguments
have names in snake case as well, and no argument has that of a keyword. -/
theorem derived_names_are_identifiers (s name : String) (hs : isAsciiIdent s = true)
    (hname : name = s ∨ name = "r#" ++ s) :
    Underscored (s.toList.map Char.toLower) (dbName name).toList
      ∧ isSnakeIdent (dbName name) = true
      ∧ dbName (dbName name) = dbName name
      ∧ (dbName name = name ↔ isSnakeIdent name = true)
      ∧ (∀ (op : FieldOperation) (fieldFirst : Bool),
          isSnakeIdent (methodName op.name name fieldFirst) = true)
      ∧ isSnakeIdent (argName name) = true
      ∧ argName name ∉ keywords := by
  have hunderscored := underscored_dbName hs hname
  have hsnake : isSnakeIdent (dbName name) = true := isSnakeIdent_of_underscored hs hunderscored
  refine ⟨hunderscored, hsnake, dbName_of_isSnakeIdent hsnake, ?_, ?_,
    isSnakeIdent_argName hs hname, argName_not_mem_keywords name⟩
  · constructor
    · intro heq
      rw [← heq]
      exact hsnake
    · exact dbName_of_isSnakeIdent
  · intro op fieldFirst
    exact isSnakeIdent_methodName fieldFirst op.isSnakeIdent_name hsnake

/-- An abbreviation in front of a digit, behind an underscore that stays: only between the letters
and the digit, and between the two words, something is put in. -/
theorem markedName_is_identifier :
    isAsciiIdent "_UserID2" = true
      ∧ dbName "r#_UserID2" = "_user_id_2"
      ∧ Underscored "_userid2".toList "_user_id_2".toList
      ∧ isSnakeIdent (methodName "not_in" "r#_UserID2" true) = true
      ∧ argName "r#_UserID2" ∉ keywords := by
  have hs : isAsciiIdent "_UserID2" = true := by decide
  have hdb : dbName "r#_UserID2" = "_user_id_2" := by decide
  obtain ⟨hunderscored, -, -, -, hmethod, -, hkeyword⟩ :=
    derived_names_are_identifiers "_UserID2" "r#_UserID2" hs (Or.inr rfl)
  rw [hdb] at hunderscored
  exact ⟨hs, hdb, hunderscored, hmethod (.membership .outside) true, hkeyword⟩

end QueryChain
