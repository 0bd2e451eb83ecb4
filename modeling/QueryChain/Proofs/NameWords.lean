/-
# Names made of words

A name that is written as capitalised words and abbreviations, with no two abbreviations next to
each other, is taken apart into just these words.  An abbreviation is found wherever it stands, even
where a longer or a shorter one starts with its letters, and a capitalised word never is taken for
one.
-/
import QueryChain.Proofs.SnakeNames

namespace QueryChain

/-! ## Letters -/

/-- Letters are no digits. -/
theorem isDigit_of_isAlpha {c : Char} (h : c.isAlpha = true) : c.isDigit = false := by
  simp only [Char.isAlpha, Char.isUpper, Char.isLower, Bool.or_eq_true, Bool.and_eq_true,
    decide_eq_true_eq, ge_iff_le, UInt32.le_iff_toNat_le] at h
  change (65 ≤ c.toNat ∧ c.toNat ≤ 90) ∨ (97 ≤ c.toNat ∧ c.toNat ≤ 122) at h
  simp only [Char.isDigit, Bool.and_eq_false_iff, decide_eq_false_iff_not, ge_iff_le,
    UInt32.le_iff_toNat_le]
  change ¬ 48 ≤ c.toNat ∨ ¬ c.toNat ≤ 57
  omega

/-- Letters belong to names. -/
theorem isNameChar_of_isAlpha {c : Char} (h : c.isAlpha = true) : isNameChar c = true := by
  simp [isNameChar, Char.isAlphanum, h]

/-- Letters are ASCII characters. -/
theorem toNat_lt_of_isAlpha {c : Char} (h : c.isAlpha = true) : c.toNat < 128 :=
  toNat_lt_of_isNameChar (isNameChar_of_isAlpha h)

/-- Letters belong to words. -/
theorem isDelimiter_of_isAlpha {c : Char} (h : c.isAlpha = true) : isDelimiter [c] = false := by
  by_contra hmark
  rw [Bool.not_eq_false] at hmark
  obtain rfl := eq_underscore_of_isDelimiter (isNameChar_of_isAlpha h) hmark
  exact absurd h (by decide)

/-! ## Words -/

/-- Whether a word is capitalised: a capital first, and then small letters, at least one. -/
def isCapitalised : List Char → Bool
  | c :: d :: rest => c.isUpper && (d :: rest).all Char.isLower
  | _ => false

/-- Whether a word is an abbreviation of letters only. -/
def isAbbreviation (word : List Char) : Bool :=
  initialismLetters.contains word && word.all Char.isAlpha

/-- A word with one capital. -/
def titled : List Char → List Char
  | [] => []
  | c :: rest => c :: rest.map Char.toLower

/-- A capitalised word is a capital and small letters behind it. -/
theorem exists_of_isCapitalised {word : List Char} (h : isCapitalised word = true) :
    ∃ c d rest, word = c :: d :: rest ∧ c.isUpper = true
      ∧ ∀ e ∈ d :: rest, Char.isLower e = true := by
  match word, h with
  | c :: d :: rest, h =>
    rw [isCapitalised, Bool.and_eq_true, List.all_eq_true] at h
    exact ⟨c, d, rest, rfl, h⟩

/-- Small letters are in lower case. -/
theorem toLower_of_isLower {c : Char} (h : c.isLower = true) : c.toLower = c :=
  Char.toLower_eq_of_not_isUpper (Char.not_isUpper_of_isLower h)

/-- A capitalised word has one capital already. -/
theorem titled_of_isCapitalised {word : List Char} (h : isCapitalised word = true) :
    titled word = word := by
  obtain ⟨c, d, rest, rfl, -, hsmall⟩ := exists_of_isCapitalised h
  have hrest : (d :: rest).map Char.toLower = (d :: rest).map id :=
    List.map_congr_left fun e he => toLower_of_isLower (hsmall e he)
  rw [titled, hrest, List.map_id]

/-- Abbreviations have at least two characters, none of which is a small letter. -/
theorem long_and_not_isLower_of_mem_initialismLetters : ∀ word ∈ initialismLetters,
    2 ≤ word.length ∧ ∀ c ∈ word, ¬ c.isLower = true := by
  have htable : initialismLetters.all
      (fun word => decide (2 ≤ word.length) && word.all fun c => !c.isLower) = true := by decide
  intro word hword
  simpa using List.all_eq_true.mp htable word hword

/-- An abbreviation of letters is all capitals, at least two. -/
theorem exists_of_isAbbreviation {word : List Char} (h : isAbbreviation word = true) :
    ∃ c d rest, word = c :: d :: rest ∧ ∀ e ∈ c :: d :: rest, Char.isUpper e = true := by
  rw [isAbbreviation, Bool.and_eq_true, List.contains_iff_mem, List.all_eq_true] at h
  obtain ⟨hlength, hlower⟩ := long_and_not_isLower_of_mem_initialismLetters word h.1
  match word, hlength with
  | c :: d :: rest, _ =>
    refine ⟨c, d, rest, rfl, ?_⟩
    intro e he
    have halpha : e.isUpper = true ∨ e.isLower = true := by
      simpa [Char.isAlpha] using h.2 e he
    exact halpha.resolve_right (hlower e he)

/-- With one capital, an abbreviation is a capitalised word. -/
theorem isCapitalised_titled {word : List Char}
    (h : isCapitalised word = true ∨ isAbbreviation word = true) :
    isCapitalised (titled word) = true := by
  rcases h with h | h
  · rw [titled_of_isCapitalised h]
    exact h
  · obtain ⟨c, d, rest, rfl, hupper⟩ := exists_of_isAbbreviation h
    rw [titled, List.map_cons, isCapitalised, Bool.and_eq_true, List.all_eq_true]
    refine ⟨hupper c List.mem_cons_self, ?_⟩
    intro e he
    rw [← List.map_cons] at he
    obtain ⟨f, hf, rfl⟩ := List.mem_map.mp he
    rw [Char.isLower_toLower_eq_isAlpha, Char.isAlpha, hupper f (List.mem_cons_of_mem c hf)]
    rfl

/-- Writing a word with one capital does not change what it is in lower case. -/
theorem map_toLower_titled (word : List Char) :
    (titled word).map Char.toLower = word.map Char.toLower := by
  cases word with
  | nil => rfl
  | cons c rest => simp [titled, Char.toLower_toLower_eq_toLower]

/-! ## The longest abbreviation -/

section

variable (fits : List Char → Bool)

/-- A search for the longest word does not go back. -/
theorem le_foldl_longest (table : List (List Char)) (longest : Nat) :
    longest ≤ table.foldl
      (fun longest word => if fits word then max longest word.length else longest) longest := by
  induction table generalizing longest with
  | nil => exact Nat.le_refl longest
  | cons word rest ih =>
    rw [List.foldl_cons]
    split
    · exact (Nat.le_max_left longest word.length).trans (ih _)
    · exact ih longest

/-- It finds a word at least as long as each that fits. -/
theorem length_le_foldl_longest {table : List (List Char)} (longest : Nat) {word : List Char}
    (hmem : word ∈ table) (hfits : fits word = true) :
    word.length ≤ table.foldl
      (fun longest word => if fits word then max longest word.length else longest) longest := by
  induction table generalizing longest with
  | nil => cases hmem
  | cons first rest ih =>
    rw [List.foldl_cons]
    rcases List.mem_cons.mp hmem with rfl | hlater
    · rw [if_pos hfits]
      exact (Nat.le_max_right longest word.length).trans (le_foldl_longest fits rest _)
    · exact ih _ hlater

/-- It finds nothing longer than all that fit. -/
theorem foldl_longest_le {table : List (List Char)} {longest bound : Nat} (hstart : longest ≤ bound)
    (h : ∀ word ∈ table, fits word = true → word.length ≤ bound) :
    table.foldl
      (fun longest word => if fits word then max longest word.length else longest) longest
        ≤ bound := by
  induction table generalizing longest with
  | nil => exact hstart
  | cons word rest ih =>
    rw [List.forall_mem_cons] at h
    rw [List.foldl_cons]
    split
    · rename_i hfits
      exact ih (Nat.max_le.mpr ⟨hstart, h.1 hfits⟩) h.2
    · exact ih hstart h.2

end

/-- A text with a small letter among its first two characters starts with no abbreviation. -/
theorem initialismLength_eq_zero {cs : List Char} (h : ∃ c ∈ cs.take 2, c.isLower = true) :
    initialismLength cs = 0 := by
  apply Nat.le_zero.mp
  apply foldl_longest_le _ (Nat.le_refl 0)
  intro word hword hfits
  obtain ⟨c, hc, hlower⟩ := h
  obtain ⟨hlength, hnone⟩ := long_and_not_isLower_of_mem_initialismLetters word hword
  rw [Bool.and_eq_true, List.isPrefixOf_iff_prefix] at hfits
  -- The first two characters of the text are those of the word.
  have htake : cs.take 2 <+: word := by
    apply List.prefix_of_prefix_length_le (List.take_prefix 2 cs) hfits.1
    exact (List.length_take_le 2 cs).trans hlength
  exact absurd hlower (hnone c (htake.subset hc))

/-- In front of a small letter, no abbreviation ends. -/
theorem endsInitialism_of_isLower {d : Char} {rest : List Char} (h : d.isLower = true) :
    endsInitialism (d :: rest) = false := by
  have hmark : d ≠ '_' := by
    rintro rfl
    exact absurd h (by decide)
  have hdigit := isDigit_of_isAlpha (isAlpha_of_isLower h)
  simp [endsInitialism, hmark, hdigit, Char.not_isUpper_of_isLower h]

/-- An abbreviation at the end or in front of a capitalised word is the longest one there: a longer
one would take the capital alone, in front of a small letter, or else a small letter. -/
theorem initialismLength_append {word more : List Char} (hword : word ∈ initialismLetters)
    (hmore : more = [] ∨ ∃ c d rest, more = c :: d :: rest ∧ c.isUpper = true ∧ d.isLower = true) :
    initialismLength (word ++ more) = word.length := by
  apply Nat.le_antisymm
  · apply foldl_longest_le _ (Nat.zero_le _)
    intro other hother hfits
    rw [Bool.and_eq_true, List.isPrefixOf_iff_prefix] at hfits
    by_contra hlonger
    obtain ⟨extra, rfl⟩ : word <+: other :=
      List.prefix_of_prefix_length_le (List.prefix_append word more) hfits.1 (by omega)
    -- What it has more is where the next word starts.
    have hextra : extra <+: more := (List.prefix_append_right_inj word).mp hfits.1
    rcases hmore with rfl | ⟨c, d, rest, rfl, -, hlower⟩
    · rw [List.prefix_nil.mp hextra, List.append_nil] at hlonger
      exact hlonger (Nat.le_refl _)
    · match extra, hextra with
      | [], _ =>
        rw [List.append_nil] at hlonger
        exact hlonger (Nat.le_refl _)
      | [e], _ =>
        have hdrop : (word ++ c :: d :: rest).drop (word ++ [e]).length = d :: rest := by
          rw [List.length_append, ← List.drop_drop, List.drop_left]
          rfl
        rw [hdrop, endsInitialism_of_isLower hlower] at hfits
        exact absurd hfits.2 Bool.false_ne_true
      | e :: f :: _, hextra =>
        obtain ⟨-, hextra⟩ := List.cons_prefix_cons.mp hextra
        obtain ⟨rfl, -⟩ := List.cons_prefix_cons.mp hextra
        have hnone := (long_and_not_isLower_of_mem_initialismLetters _ hother).2
        exact hnone f (by simp) hlower
  · apply length_le_foldl_longest _ 0 hword
    rw [Bool.and_eq_true, List.isPrefixOf_iff_prefix, List.drop_left]
    refine ⟨List.prefix_append word more, ?_⟩
    rcases hmore with rfl | ⟨c, d, rest, rfl, hupper, hlower⟩
    · rfl
    · simp [endsInitialism, hupper, hlower]

/-! ## Abbreviations among words -/

/-- The letters of an abbreviation behind its first are written small. -/
theorem titleInitialisms_letters {letters : List Char} (more : List Char)
    (h : ∀ c ∈ letters, Char.isUpper c = true) :
    titleInitialisms true letters.length (letters ++ more)
      = letters.map Char.toLower ++ titleInitialisms true 0 more := by
  induction letters with
  | nil => rfl
  | cons c rest ih =>
    rw [List.forall_mem_cons] at h
    rw [List.cons_append, List.length_cons, titleInitialisms, h.1, ih h.2]
    rfl

/-- Small letters stay as they are; a capital may start an abbreviation behind them. -/
theorem titleInitialisms_small {letters : List Char} (more : List Char) (inside : Bool)
    (hne : letters ≠ []) (h : ∀ c ∈ letters, Char.isLower c = true) :
    titleInitialisms inside 0 (letters ++ more) = letters ++ titleInitialisms false 0 more := by
  induction letters generalizing inside with
  | nil => exact absurd rfl hne
  | cons c rest ih =>
    rw [List.forall_mem_cons] at h
    have hnone : (if inside then 0 else initialismLength (c :: (rest ++ more))) = 0 := by
      rw [initialismLength_eq_zero ⟨c, by simp, h.1⟩, ite_self]
    have hupper : c.isUpper = false := by simpa using Char.not_isUpper_of_isLower h.1
    rw [List.cons_append, titleInitialisms, hnone, hupper]
    cases rest with
    | nil => rfl
    | cons d rest => rw [ih false (List.cons_ne_nil d rest) h.2]; rfl

/-- A capitalised word stays as it is. -/
theorem titleInitialisms_of_isCapitalised {word : List Char} (more : List Char) (inside : Bool)
    (h : isCapitalised word = true) :
    titleInitialisms inside 0 (word ++ more) = word ++ titleInitialisms false 0 more := by
  obtain ⟨c, d, rest, rfl, hupper, hlower⟩ := exists_of_isCapitalised h
  have hnone : (if inside then 0 else initialismLength (c :: (d :: rest ++ more))) = 0 := by
    rw [initialismLength_eq_zero ⟨d, by simp, hlower d List.mem_cons_self⟩, ite_self]
  rw [List.cons_append, titleInitialisms, hnone, hupper,
    titleInitialisms_small more true (List.cons_ne_nil d rest) hlower]
  rfl

/-- An abbreviation is written with one capital, at the end or in front of a capitalised word. -/
theorem titleInitialisms_of_isAbbreviation {word more : List Char}
    (hword : isAbbreviation word = true)
    (hmore : more = [] ∨ ∃ c d rest, more = c :: d :: rest ∧ c.isUpper = true ∧ d.isLower = true) :
    titleInitialisms false 0 (word ++ more) = titled word ++ titleInitialisms true 0 more := by
  have htable : word ∈ initialismLetters := by
    rw [isAbbreviation, Bool.and_eq_true] at hword
    exact List.contains_iff_mem.mp hword.1
  have hlength := initialismLength_append htable hmore
  obtain ⟨c, d, rest, rfl, hupper⟩ := exists_of_isAbbreviation hword
  rw [List.forall_mem_cons] at hupper
  rw [List.cons_append] at hlength
  rw [List.cons_append, titleInitialisms, if_neg Bool.false_ne_true, hlength, hupper.1,
    List.length_cons, Nat.add_sub_cancel, titleInitialisms_letters more hupper.2]
  rfl

/-- Words without two abbreviations next to each other are each written with one capital. -/
theorem titleInitialisms_flatten {words : List (List Char)} {inside : Bool}
    (hwords : ∀ w ∈ words, isCapitalised w = true ∨ isAbbreviation w = true)
    (hchain : words.IsChain fun v w => ¬ (isAbbreviation v = true ∧ isAbbreviation w = true))
    (hinside : inside = true → ∀ w ∈ words.head?, ¬ isAbbreviation w = true) :
    titleInitialisms inside 0 words.flatten = (words.map titled).flatten := by
  induction words generalizing inside with
  | nil => rfl
  | cons w rest ih =>
    rw [List.forall_mem_cons] at hwords
    have hrest : rest.IsChain fun v w => ¬ (isAbbreviation v = true ∧ isAbbreviation w = true) :=
      hchain.tail
    rw [List.flatten_cons, List.map_cons, List.flatten_cons]
    -- An abbreviation leaves a capital behind, so none may follow; a capitalised word does not.
    by_cases habbr : isAbbreviation w = true
    · have hnext : ∀ v ∈ rest.head?, ¬ isAbbreviation v = true := by
        intro v hv hboth
        exact hchain.rel_head? hv ⟨habbr, hboth⟩
      have hmore : rest.flatten = [] ∨ ∃ c d more, rest.flatten = c :: d :: more
          ∧ c.isUpper = true ∧ d.isLower = true := by
        cases rest with
        | nil => exact Or.inl rfl
        | cons v later =>
          have hcap : isCapitalised v = true :=
            (hwords.2 v List.mem_cons_self).resolve_right (hnext v rfl)
          obtain ⟨c, d, letters, rfl, hupper, hlower⟩ := exists_of_isCapitalised hcap
          exact Or.inr ⟨c, d, letters ++ later.flatten, rfl, hupper,
            hlower d List.mem_cons_self⟩
      have houtside : inside = false := by
        by_contra hin
        exact hinside (by simpa using hin) w rfl habbr
      rw [houtside, titleInitialisms_of_isAbbreviation habbr hmore,
        ih hwords.2 hrest fun _ => hnext]
    · have hcap := hwords.1.resolve_right habbr
      rw [titleInitialisms_of_isCapitalised rest.flatten inside hcap, titled_of_isCapitalised hcap,
        ih hwords.2 hrest fun h => absurd h Bool.false_ne_true]

/-! ## Cutting between words -/

/-- Between a letter and a small letter behind it no word ends. -/
theorem endsWord_of_isLower {c d : Char} (rest : List (List Char)) (hc : c.isAlpha = true)
    (hd : d.isLower = true) : endsWord [c] ([d] :: rest) = false := by
  have hletter : d.isAlpha = true := isAlpha_of_isLower hd
  have hupper : d.isUpper = false := by simpa using Char.not_isUpper_of_isLower hd
  rw [endsWord_ascii rest (toNat_lt_of_isAlpha hc) (toNat_lt_of_isAlpha hletter), hupper,
    isDigit_of_isAlpha hc, isDigit_of_isAlpha hletter]
  simp

/-- A word goes on behind a letter where nothing ends. -/
theorem cutWords_cons_of_not_endsWord {c : Char} {gs : List (List Char)} {word : List Char}
    {words : List (List Char)} (hc : c.isAlpha = true) (hends : endsWord [c] gs = false)
    (h : cutWords gs = word :: words) : cutWords ([c] :: gs) = (c :: word) :: words := by
  rw [cutWords, isDelimiter_of_isAlpha hc, hends, h]
  rfl

/-- Small letters are one word, at the end or in front of capitalised words. -/
theorem cutWords_small {letters : List Char} {words : List (List Char)} (hne : letters ≠ [])
    (h : ∀ c ∈ letters, Char.isLower c = true) (hwords : ∀ w ∈ words, isCapitalised w = true)
    (hcut : words ≠ [] → cutWords (words.flatten.map fun c => [c]) = words) :
    cutWords ((letters ++ words.flatten).map fun c => [c]) = letters :: words := by
  induction letters with
  | nil => exact absurd rfl hne
  | cons c rest ih =>
    rw [List.forall_mem_cons] at h
    have hc : c.isAlpha = true := isAlpha_of_isLower h.1
    cases rest with
    | cons d rest =>
      have hends : endsWord [c] (((d :: rest) ++ words.flatten).map fun c => [c]) = false :=
        endsWord_of_isLower _ hc (h.2 d List.mem_cons_self)
      exact cutWords_cons_of_not_endsWord hc hends (ih (List.cons_ne_nil d rest) h.2)
    | nil =>
      cases words with
      | nil => exact cutWords_cons_of_not_endsWord hc rfl rfl
      | cons word more =>
        -- The capital of the next word ends this one.
        have hcut := hcut (List.cons_ne_nil word more)
        obtain ⟨d, e, later, rfl, hupper, -⟩ :=
          exists_of_isCapitalised (hwords word List.mem_cons_self)
        have hd : d.isAlpha = true := isAlpha_of_isUpper hupper
        have hends :
            endsWord [c] (((d :: e :: later) :: more).flatten.map fun c => [c]) = true := by
          rw [List.flatten_cons, List.cons_append, List.map_cons,
            endsWord_ascii _ (toNat_lt_of_isAlpha hc) (toNat_lt_of_isAlpha hd)]
          simp [h.1, hupper]
        rw [List.singleton_append, List.map_cons, cutWords, isDelimiter_of_isAlpha hc, hends, hcut]
        rfl

/-- Capitalised words written behind each other are cut apart again. -/
theorem cutWords_flatten {words : List (List Char)} (hne : words ≠ [])
    (h : ∀ w ∈ words, isCapitalised w = true) :
    cutWords (words.flatten.map fun c => [c]) = words := by
  induction words with
  | nil => exact absurd rfl hne
  | cons word rest ih =>
    rw [List.forall_mem_cons] at h
    obtain ⟨c, d, letters, rfl, hupper, hlower⟩ := exists_of_isCapitalised h.1
    have hc : c.isAlpha = true := isAlpha_of_isUpper hupper
    have hends : endsWord [c] (((d :: letters) ++ rest.flatten).map fun c => [c]) = false :=
      endsWord_of_isLower _ hc (hlower d List.mem_cons_self)
    have hrest : cutWords (((d :: letters) ++ rest.flatten).map fun c => [c])
        = (d :: letters) :: rest :=
      cutWords_small (List.cons_ne_nil d letters) hlower h.2 fun hrest => ih hrest h.2
    exact cutWords_cons_of_not_endsWord hc hends hrest

/-! ## Names in snake case -/

/-- Words are made of letters. -/
theorem isAlpha_of_mem_word {word : List Char}
    (h : isCapitalised word = true ∨ isAbbreviation word = true) :
    ∀ c ∈ word, Char.isAlpha c = true := by
  rcases h with h | h
  · obtain ⟨c, d, rest, rfl, hupper, hlower⟩ := exists_of_isCapitalised h
    rw [List.forall_mem_cons]
    exact ⟨isAlpha_of_isUpper hupper, fun e he => isAlpha_of_isLower (hlower e he)⟩
  · rw [isAbbreviation, Bool.and_eq_true, List.all_eq_true] at h
    exact h.2

/-- Each word starts with a capital. -/
theorem exists_isUpper_of_word {word : List Char}
    (h : isCapitalised word = true ∨ isAbbreviation word = true) :
    ∃ c ∈ word, Char.isUpper c = true := by
  rcases h with h | h
  · obtain ⟨c, d, rest, rfl, hupper, -⟩ := exists_of_isCapitalised h
    exact ⟨c, List.mem_cons_self, hupper⟩
  · obtain ⟨c, d, rest, rfl, hupper⟩ := exists_of_isAbbreviation h
    exact ⟨c, List.mem_cons_self, hupper c List.mem_cons_self⟩

/-- In snake case, words written behind each other are in lower case with underscores between
them. -/
theorem snakeCase_flatten {words : List (List Char)} (hne : words ≠ [])
    (hwords : ∀ w ∈ words, isCapitalised w = true ∨ isAbbreviation w = true)
    (hchain : words.IsChain fun v w => ¬ (isAbbreviation v = true ∧ isAbbreviation w = true)) :
    snakeCase (titleInitialisms false 0 words.flatten)
      = ['_'].intercalate (words.map (List.map Char.toLower)) := by
  have htitled : ∀ w ∈ words.map titled, isCapitalised w = true := by
    rw [List.forall_mem_map]
    exact fun w hw => isCapitalised_titled (hwords w hw)
  have hascii : ∀ c ∈ (words.map titled).flatten, c.toNat < 128 := by
    intro c hc
    obtain ⟨w, hw, hcw⟩ := List.mem_flatten.mp hc
    exact toNat_lt_of_isAlpha (isAlpha_of_mem_word (Or.inl (htitled w hw)) c hcw)
  rw [titleInitialisms_flatten hwords hchain fun h => absurd h Bool.false_ne_true,
    snakeCase_ascii hascii, cutWords_flatten (by simpa using hne) htitled, List.map_map]
  congr 1
  exact List.map_congr_left fun w _ => map_toLower_titled w

/-- An abbreviation of letters is one as a text. -/
theorem isAbbreviation_toList (word : String) :
    isAbbreviation word.toList = (isInitialism word && word.toList.all Char.isAlpha) := by
  have htable : initialismLetters.contains word.toList = isInitialism word := by
    have hinjective : Function.Injective String.toList := fun _ _ => String.toList_injective
    rw [Bool.eq_iff_iff, isInitialism, List.contains_iff_mem, List.contains_iff_mem,
      initialismLetters, List.mem_map_of_injective hinjective]
  rw [isAbbreviation, htable]

/-- **Words of a name.** A column whose field is named by capitalised words and abbreviations of
letters, no two of these next to each other, has the words in lower case with underscores between
them as its name. -/
theorem dbName_join_words (words : List String) (hne : words ≠ [])
    (hwords : ∀ w ∈ words, isCapitalised w.toList = true
      ∨ (isInitialism w = true ∧ w.toList.all Char.isAlpha = true))
    (hchain : words.IsChain fun v w => ¬ (isInitialism v = true ∧ isInitialism w = true)) :
    dbName (String.join words) = "_".intercalate (words.map (String.map Char.toLower)) := by
  have hletters : ∀ w ∈ words.map String.toList,
      isCapitalised w = true ∨ isAbbreviation w = true := by
    rw [List.forall_mem_map]
    intro w hw
    rw [isAbbreviation_toList, Bool.and_eq_true]
    exact hwords w hw
  have hapart : (words.map String.toList).IsChain
      fun v w => ¬ (isAbbreviation v = true ∧ isAbbreviation w = true) := by
    rw [List.isChain_map]
    refine hchain.imp ?_
    intro v w hnot hboth
    rw [isAbbreviation_toList, isAbbreviation_toList, Bool.and_eq_true, Bool.and_eq_true] at hboth
    exact hnot ⟨hboth.1.1, hboth.2.1⟩
  have hchars : ∀ c ∈ (words.map String.toList).flatten, isNameChar c = true := by
    intro c hc
    obtain ⟨w, hw, hcw⟩ := List.mem_flatten.mp hc
    exact isNameChar_of_isAlpha (isAlpha_of_mem_word (hletters w hw) c hcw)
  -- The capital of the first word keeps the name from being in snake case already.
  have hcapital : ¬ (words.map String.toList).flatten.all isSnakeChar = true := by
    intro hsnake
    obtain ⟨w, hw⟩ := List.exists_mem_of_ne_nil words hne
    have hw := List.mem_map_of_mem (f := String.toList) hw
    obtain ⟨c, hc, hupper⟩ := exists_isUpper_of_word (hletters _ hw)
    have hlower := toLower_of_isSnakeChar
      (List.all_eq_true.mp hsnake c (List.mem_flatten_of_mem hw hc))
    have hnot := Char.isUpper_toLower_eq_false c
    rw [hlower, hupper] at hnot
    cases hnot
  have hname : (unraw (String.join words)).toList = (words.map String.toList).flatten := by
    rw [unraw, String.toList_ofList, String.toList_join, List.flatMap_def,
      unrawChars_of_isNameChar hchars]
  apply String.toList_injective
  rw [toList_dbName, hname, if_neg hcapital,
    snakeCase_flatten (by simpa using hne) hletters hapart, String.toList_intercalate,
    List.map_map, List.map_map]
  congr 1
  apply List.map_congr_left
  intro w _
  exact String.toList_map.symm

/-- Two longer abbreviations reach from these into the words behind them; both stay whole. -/
theorem dbName_overlapping_abbreviations : dbName "HTTPServerUIDx" = "http_server_ui_dx" := by
  have hjoined : String.join ["HTTP", "Server", "UI", "Dx"] = "HTTPServerUIDx" := by decide
  have hsnake : "_".intercalate (["HTTP", "Server", "UI", "Dx"].map (String.map Char.toLower))
      = "http_server_ui_dx" := by
    apply String.toList_injective
    simp only [String.toList_intercalate, List.map_cons, List.map_nil, String.toList_map]
    decide
  rw [← hjoined, ← hsnake]
  exact dbName_join_words ["HTTP", "Server", "UI", "Dx"] (by decide) (by decide) (by decide)

end QueryChain
