/-
# First lines of documentation

Documentation comes in texts, one for each comment or attribute, and a text may have several lines.
The summary is the first text that is not blank, as a whole.  What is asked of it is the first line
of all texts that is not blank; that is the first line of the summary, so the two are the same
exactly if there is no line feed in the summary, as after comments that end with their lines.
-/
import QueryChain.Model.Doc
import QueryChain.Syntax.ItemPhrase
import Mathlib.Data.List.DropRight
import Mathlib.Tactic.SplitIfs

namespace QueryChain

/-! ## Trimmed text -/

/-- Text is trimmed on the left, and then on the right. -/
theorem trim_eq_rdropWhile (cs : List Char) :
    trim cs = (cs.dropWhile isBlank).rdropWhile isBlank := rfl

/-- Nothing is left of white space, and of nothing else. -/
theorem trim_eq_nil_iff (cs : List Char) : trim cs = [] ↔ ∀ c ∈ cs, isBlank c = true := by
  refine ⟨fun h => ?_, trim_eq_nil_of_blank⟩
  rw [trim_eq_rdropWhile, List.rdropWhile_eq_nil_iff] at h
  intro c hc
  rw [← List.takeWhile_append_dropWhile (p := isBlank) (l := cs), List.mem_append] at hc
  rcases hc with hc | hc
  · exact List.mem_takeWhile_imp hc
  · exact h c hc

/-- White space in front does not matter. -/
theorem trim_cons_of_blank {c : Char} (hc : isBlank c = true) (cs : List Char) :
    trim (c :: cs) = trim cs := by
  rw [trim_eq_rdropWhile, List.dropWhile_cons_of_pos hc, ← trim_eq_rdropWhile]

/-- Nor does white space behind. -/
theorem trim_append_of_blank (cs : List Char) {blanks : List Char}
    (h : ∀ c ∈ blanks, isBlank c = true) : trim (cs ++ blanks) = trim cs := by
  have hright : ∀ text : List Char,
      (text ++ blanks).rdropWhile isBlank = text.rdropWhile isBlank := by
    intro text
    rw [List.rdropWhile, List.reverse_append, List.dropWhile_append_of_pos, List.rdropWhile]
    simpa using h
  rw [trim_eq_rdropWhile, List.dropWhile_append]
  split
  · rename_i hempty
    rw [trim_eq_rdropWhile, List.isEmpty_iff.mp hempty, List.dropWhile_eq_nil_iff.mpr h]
  · exact hright _

/-- What is left was there before. -/
theorem trim_subset (cs : List Char) : trim cs ⊆ cs :=
  fun _ hc => (List.dropWhile_suffix isBlank).subset ((List.rdropWhile_prefix isBlank _).subset hc)

/-- What is trimmed once is trimmed. -/
theorem trim_trim (cs : List Char) : trim (trim cs) = trim cs := by
  cases htrim : trim cs with
  | nil => rfl
  | cons c rest =>
    have hstart : c :: rest <+: cs.dropWhile isBlank := htrim ▸ List.rdropWhile_prefix isBlank _
    obtain ⟨behind, hbehind⟩ := hstart
    have hc : ¬ isBlank c = true := by
      have hhead := List.head?_dropWhile_not isBlank cs
      rw [← hbehind] at hhead
      simpa using hhead
    rw [trim_eq_rdropWhile, List.dropWhile_cons_of_neg hc, ← htrim]
    exact List.rdropWhile_idempotent _ _

/-- On the right, only white space is trimmed away. -/
theorem exists_dropWhile_eq_trim_append (cs : List Char) :
    ∃ blanks, cs.dropWhile isBlank = trim cs ++ blanks ∧ ∀ c ∈ blanks, isBlank c = true := by
  refine ⟨(cs.dropWhile isBlank).rtakeWhile isBlank, ?_, ?_⟩
  · exact List.rdropWhile_append_rtakeWhile.symm
  · intro c hc
    exact List.mem_rtakeWhile_imp hc

/-! ## Lines -/

/-- The first line of a text, trimmed. -/
def firstLine (text : List Char) : List Char :=
  trim (text.takeWhile (· ≠ '\n'))

/-- The first line that is not blank, trimmed. -/
def firstLine? (lines : List (List Char)) : Option (List Char) :=
  (lines.map trim).find? (!·.isEmpty)

/-- A blank line is passed over. -/
theorem firstLine?_cons_of_blank {line : List Char} (h : trim line = [])
    (lines : List (List Char)) : firstLine? (line :: lines) = firstLine? lines := by
  rw [firstLine?, List.map_cons, h, List.find?_cons_of_neg (by simp), firstLine?]

/-- Any other line is the first one. -/
theorem firstLine?_cons_of_ne {line : List Char} (h : trim line ≠ []) (lines : List (List Char)) :
    firstLine? (line :: lines) = some (trim line) := by
  rw [firstLine?, List.map_cons, List.find?_cons_of_pos (by simpa using h)]

/-- The lines of a text start with its first one. -/
theorem exists_splitOn_eq_cons (text : List Char) :
    ∃ lines, text.splitOn '\n' = text.takeWhile (· ≠ '\n') :: lines := by
  induction text with
  | nil => exact ⟨[], rfl⟩
  | cons c rest ih =>
    rw [List.splitOn_eq_splitOnP] at ih ⊢
    rw [List.splitOnP_cons_eq_if_modifyHead]
    by_cases hc : c = '\n'
    · subst hc
      exact ⟨_, rfl⟩
    · obtain ⟨lines, hlines⟩ := ih
      rw [hlines]
      exact ⟨lines, by simp [hc]⟩

/-- White space in front of a text does not change its first line that is not blank, even if it has
line feeds in it. -/
theorem firstLine?_splitOn_cons_of_blank {c : Char} (hc : isBlank c = true) (text : List Char) :
    firstLine? ((c :: text).splitOn '\n') = firstLine? (text.splitOn '\n') := by
  obtain ⟨lines, hlines⟩ := exists_splitOn_eq_cons text
  rw [List.splitOn_eq_splitOnP, List.splitOnP_cons_eq_if_modifyHead, ← List.splitOn_eq_splitOnP]
  split
  · exact firstLine?_cons_of_blank rfl _
  · rw [hlines, List.modifyHead_cons, firstLine?, firstLine?, List.map_cons, List.map_cons,
      trim_cons_of_blank hc]

/-- Nor does white space behind a text change its first line. -/
theorem firstLine_append_of_blank (text : List Char) {blanks : List Char}
    (h : ∀ c ∈ blanks, isBlank c = true) : firstLine (text ++ blanks) = firstLine text := by
  rw [firstLine, List.takeWhile_append]
  split
  · rename_i hlength
    have hline : text.takeWhile (· ≠ '\n') = text :=
      (List.takeWhile_prefix _).eq_of_length hlength
    have hblanks : ∀ c ∈ blanks.takeWhile (· ≠ '\n'), isBlank c = true :=
      fun c hc => h c ((List.takeWhile_prefix _).subset hc)
    rw [trim_append_of_blank text hblanks, firstLine, hline]
  · rfl

/-- The first line of a text that is not blank is the first line of the trimmed text. -/
theorem firstLine?_splitOn (text : List Char) :
    firstLine? (text.splitOn '\n')
      = if trim text = [] then none else some (firstLine (trim text)) := by
  induction text with
  | nil => rfl
  | cons c rest ih =>
    by_cases hc : isBlank c = true
    · rw [firstLine?_splitOn_cons_of_blank hc, ih, trim_cons_of_blank hc]
    -- The text starts here, so nothing is trimmed in front of its first line.
    · have hfilled : ∀ cs, trim (c :: cs) ≠ [] := fun cs h =>
        hc ((trim_eq_nil_iff _).mp h c List.mem_cons_self)
      have hfeed : c ≠ '\n' := by
        rintro rfl
        exact hc rfl
      have hline : trim ((c :: rest).takeWhile (· ≠ '\n')) ≠ [] := by
        rw [List.takeWhile_cons_of_pos (by simpa using hfeed)]
        exact hfilled _
      obtain ⟨lines, hlines⟩ := exists_splitOn_eq_cons (c :: rest)
      obtain ⟨blanks, hblanks, hall⟩ := exists_dropWhile_eq_trim_append (c :: rest)
      rw [List.dropWhile_cons_of_neg hc] at hblanks
      have hfirst : firstLine (trim (c :: rest)) = firstLine (c :: rest) :=
        (firstLine_append_of_blank _ hall).symm.trans (congrArg firstLine hblanks.symm)
      rw [if_neg (hfilled rest), hlines, firstLine?_cons_of_ne hline, hfirst, firstLine]

/-- A trimmed text is its own first line exactly if there is no line feed in it. -/
theorem firstLine_trim_eq_iff (cs : List Char) :
    firstLine (trim cs) = trim cs ↔ '\n' ∉ trim cs := by
  constructor
  · intro h hfeed
    rw [← h, firstLine] at hfeed
    have hmem := trim_subset _ hfeed
    simpa using List.mem_takeWhile_imp hmem
  · intro hfeed
    have hline : (trim cs).takeWhile (· ≠ '\n') = trim cs := by
      rw [List.takeWhile_eq_self_iff]
      intro c hc
      have hne : c ≠ '\n' := by
        rintro rfl
        exact hfeed hc
      simpa using hne
    rw [firstLine, hline, trim_trim]

/-! ## Lines of several texts -/

/-- The texts that attributes document with, in their order. -/
def docTexts (attrs : List Attribute) : List String :=
  attrs.filterMap Attribute.docText?

/-- The lines of texts, one text behind the other. -/
def linesOfAll (texts : List String) : List (List Char) :=
  ("\n".intercalate texts).toList.splitOn '\n'

/-- The lines of the first text come first. -/
theorem linesOfAll_cons_cons (text next : String) (texts : List String) :
    linesOfAll (text :: next :: texts)
      = text.toList.splitOn '\n' ++ linesOfAll (next :: texts) := by
  rw [linesOfAll, String.intercalate_cons_cons, String.toList_append, String.toList_append,
    List.append_assoc]
  exact List.splitOnP_append_cons _ _ rfl

/-- What is first among lines is first among the first of them, or among the others if all of
these are blank. -/
theorem firstLine?_append (lines lines' : List (List Char)) :
    firstLine? (lines ++ lines') = (firstLine? lines).or (firstLine? lines') := by
  rw [firstLine?, List.map_append, List.find?_append]
  rfl

/-- The first line of texts that is not blank is the first line of the first text that is not. -/
theorem firstLine?_linesOfAll (texts : List String) :
    (firstLine? (linesOfAll texts)).map String.ofList
      = (firstNonBlank texts).map fun summary => String.ofList (firstLine summary.toList) := by
  induction texts with
  | nil => rfl
  | cons text rest ih =>
    have hcons : firstLine? (linesOfAll (text :: rest))
        = (firstLine? (text.toList.splitOn '\n')).or (firstLine? (linesOfAll rest)) := by
      cases rest with
      | nil =>
        rw [linesOfAll, String.intercalate_singleton]
        exact Option.or_none.symm
      | cons next rest => rw [linesOfAll_cons_cons, firstLine?_append]
    rw [hcons, firstLine?_splitOn, firstNonBlank]
    by_cases h : trim text.toList = []
    · simp [h, ih]
    · simp [h]

/-! ## Summaries -/

/-- A summary is one of the texts, trimmed. -/
theorem exists_text_of_firstNonBlank {texts : List String} {summary : String}
    (h : firstNonBlank texts = some summary) :
    ∃ text ∈ texts, summary.toList = trim text.toList := by
  induction texts with
  | nil => cases h
  | cons text rest ih =>
    rw [firstNonBlank] at h
    split at h
    · obtain ⟨text', htext', heq⟩ := ih h
      exact ⟨text', List.mem_cons_of_mem _ htext', heq⟩
    · obtain rfl := Option.some.inj h
      exact ⟨text, List.mem_cons_self, String.toList_ofList⟩

/-- A summary is its own first line exactly if there is no line feed in it. -/
theorem firstLine_summary_eq_iff {texts : List String} {summary : String}
    (h : firstNonBlank texts = some summary) :
    String.ofList (firstLine summary.toList) = summary ↔ '\n' ∉ summary.toList := by
  obtain ⟨text, -, htext⟩ := exists_text_of_firstNonBlank h
  rw [← String.toList_inj, String.toList_ofList, htext]
  exact firstLine_trim_eq_iff text.toList

/-! ## Comments -/

/-- There is no line feed in a line. -/
theorem not_mem_readLine (cs : List Char) : '\n' ∉ (readLine cs).1 := by
  induction cs with
  | nil => simp [readLine]
  | cons c rest ih =>
    rw [readLine]
    split
    · simp
    · rename_i hc
      split
      · simp
      · simpa [Ne.symm hc] using ih

/-- A comment that ends with its line documents with a single line. -/
theorem not_mem_readDoc? {cs text rest : List Char} {inner : Bool}
    (hline : startsWith cs "//" = true) (hread : readDoc? cs = some (text, inner, rest)) :
    '\n' ∉ text := by
  obtain ⟨behind, rfl⟩ : ∃ behind, cs = '/' :: '/' :: behind := by
    obtain ⟨behind, hbehind⟩ := List.isPrefixOf_iff_prefix.mp hline
    exact ⟨behind, hbehind.symm⟩
  have hblock : startsWith ('/' :: '/' :: behind) "/*!" = false := rfl
  have hopened : startsWith ('/' :: '/' :: behind) "/**" = false := rfl
  simp only [readDoc?, hblock, hopened, Bool.false_eq_true, if_false] at hread
  -- What is left is a comment on the item inside of which it stands, or on the one behind it.
  split_ifs at hread
  · cases hread
    exact not_mem_readLine _
  · cases hread
    exact not_mem_readLine _

/-! ## Main statement -/

/-- **When summaries are first lines.** There is no summary exactly if all lines of the
documentation are blank.  The first line that is not blank is always the first line of the summary,
trimmed, however the lines are grouped into texts; so it is the summary exactly if there is no line
feed in that.  This is so if every text has a single line, as every comment has that ends with its
line. -/
theorem summary_is_first_line_iff (attrs : List Attribute) :
    let lines := linesOfAll (docTexts attrs)
    let first := (firstLine? lines).map String.ofList
    (docSummary attrs = none ↔ ∀ line ∈ lines, trim line = []) ∧
    first = (docSummary attrs).map (fun summary => String.ofList (firstLine summary.toList)) ∧
    (docSummary attrs = first ↔ ∀ summary ∈ docSummary attrs, '\n' ∉ summary.toList) ∧
    ((∀ text ∈ docTexts attrs, '\n' ∉ text.toList) →
      docSummary attrs = first ∧ ∀ summary ∈ docSummary attrs, '\n' ∉ summary.toList) ∧
    ∀ (cs text rest : List Char) (inner : Bool), startsWith cs "//" = true →
      readDoc? cs = some (text, inner, rest) → '\n' ∉ text := by
  intro lines first
  have hfirst : first = (docSummary attrs).map fun summary =>
      String.ofList (firstLine summary.toList) := firstLine?_linesOfAll (docTexts attrs)
  have hsame : docSummary attrs = first ↔ ∀ summary ∈ docSummary attrs, '\n' ∉ summary.toList := by
    rw [hfirst]
    cases hsummary : docSummary attrs with
    | none => simp
    | some summary =>
      rw [Option.map_some, Option.some_inj, eq_comm, firstLine_summary_eq_iff hsummary]
      simp
  refine ⟨?_, hfirst, hsame, fun hsingle => ?_, fun cs text rest inner => not_mem_readDoc?⟩
  · have hnone : docSummary attrs = none ↔ first = none := by rw [hfirst, Option.map_eq_none_iff]
    rw [hnone, Option.map_eq_none_iff, firstLine?, List.find?_eq_none, List.forall_mem_map]
    simp
  · have hfeed : ∀ summary ∈ docSummary attrs, '\n' ∉ summary.toList := by
      intro summary hsummary hfeed
      obtain ⟨text, htext, heq⟩ := exists_text_of_firstNonBlank hsummary
      rw [heq] at hfeed
      exact hsingle text htext (trim_subset _ hfeed)
    exact ⟨hsame.mpr hfeed, hfeed⟩

/-- The attribute that a text documents with. -/
def docAttribute (text : String) : Attribute :=
  let place : Span := ⟨⟨1, 0⟩, ⟨1, 0⟩⟩
  ⟨⟨false, ["doc"]⟩, place, .value place ⟨.literal (.text text), []⟩ none, place⟩

/-- Of lines in comments of their own, the first one that is not blank is the summary. -/
theorem lineComments_summarised :
    startsWith "/// Login name. \nstruct S;".toList "//" = true ∧
      readDoc? "/// Login name. \nstruct S;".toList
        = some (" Login name. ".toList, false, "\nstruct S;".toList) ∧
      '\n' ∉ " Login name. ".toList ∧
      (∀ text ∈ docTexts ([" ", " Login name. ", "Unique."].map docAttribute),
        '\n' ∉ text.toList) ∧
      docSummary ([" ", " Login name. ", "Unique."].map docAttribute) = some "Login name." ∧
      docSummary ([" ", " Login name. ", "Unique."].map docAttribute)
        = (firstLine? (linesOfAll [" ", " Login name. ", "Unique."])).map String.ofList := by
  have hline : startsWith "/// Login name. \nstruct S;".toList "//" = true := by decide
  have hread : readDoc? "/// Login name. \nstruct S;".toList
      = some (" Login name. ".toList, false, "\nstruct S;".toList) := by decide
  have hsingle : ∀ text ∈ docTexts ([" ", " Login name. ", "Unique."].map docAttribute),
      '\n' ∉ text.toList := by decide
  obtain ⟨-, -, -, hfirst, hcomment⟩ :=
    summary_is_first_line_iff ([" ", " Login name. ", "Unique."].map docAttribute)
  exact ⟨hline, hread, hcomment _ _ _ _ hline hread, hsingle, by decide, (hfirst hsingle).1⟩

/-- The tokens of a structure behind a comment. -/
def commentedTokens (text : List Char) : List Token :=
  let declared : List Lexeme := [.ident "struct", .ident "S", .punct ';' false]
  (docLexemes text false ++ declared).map (⟨·, ⟨1, 0⟩, ⟨1, 0⟩⟩)

/-- Both lines of a block are its summary, though only one of them is the first. -/
theorem blockComment_summarised_whole :
    readDoc? "/** First.\nSecond. */ struct S;".toList
        = some (" First.\nSecond. ".toList, false, " struct S;".toList) ∧
      let tokens := commentedTokens " First.\nSecond. ".toList
      ((readItem (.ofTokens tokens)).runAll tokens).toOption.map (fun item =>
          (docSummary item.attrs,
            (firstLine? (linesOfAll (docTexts item.attrs))).map String.ofList))
        = some (some "First.\nSecond.", some "First.") :=
  ⟨by decide, by decide +kernel⟩

end QueryChain
