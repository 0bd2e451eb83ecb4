/-
# Reading quoted names

Quoting loses nothing.  A reader that knows no names, only quotes and dots, finds the segments of a
quoted name in whatever text the name stands in, and goes on exactly where the name ends; so no part
of a name can be taken for the text around it.
-/
import QueryChain.Proofs.Layout
import Mathlib.Data.List.Basic

namespace QueryChain

/-! ## Segments of a name -/

/-- The segments of a name, which dots divide. -/
def segments (name : String) : List String :=
  (name.toList.splitOn '.').map String.ofList

/-- Put together with dots, the segments are the name. -/
theorem intercalate_segments (name : String) : ".".intercalate (segments name) = name := by
  have hparts : (segments name).map String.toList = name.toList.splitOn '.' := by
    rw [segments, List.map_map]
    exact (List.map_congr_left fun part _ => String.toList_ofList).trans (List.map_id _)
  apply String.toList_injective
  rw [String.toList_intercalate, hparts]
  exact List.intercalate_splitOn '.'

/-- A text is cut at marks as the library splits lists. -/
theorem splitAtMarks_eq_splitOnP (isMark : Char → Bool) (cs : List Char) :
    splitAtMarks isMark cs = cs.splitOnP isMark := by
  induction cs with
  | nil => rfl
  | cons c rest ih =>
    rw [splitAtMarks, List.splitOnP_cons_eq_if_modifyHead, ← ih]
    obtain ⟨part, parts, hparts⟩ := List.exists_cons_of_ne_nil (splitAtMarks_ne_nil isMark rest)
    rw [hparts]
    rfl

/-- The parts that are quoted are the segments. -/
theorem pathParts_eq_splitOn (path : List Char) : Dialect.pathParts path = path.splitOn '.' :=
  splitAtMarks_eq_splitOnP (· == '.') path

/-! ## A reader of quoted segments -/

/-- A character of the segment that is being read, in front of what is read behind it. -/
def continued (c : Char) : List (List Char) × List Char → List (List Char) × List Char
  | (parts, text) => (parts.modifyHead (c :: ·), text)

/-- The end of a segment, in front of the further ones that are read behind it. -/
def ended : List (List Char) × List Char → List (List Char) × List Char
  | (parts, text) => ([] :: parts, text)

/-- Reads on inside of quotes.  A doubled quote stands for one, a dot and a quote behind a single one
start the next segment, and any other single quote is the end: then there are the segments, the one
that was being read first, and the text behind them. -/
def readInside (q : Char) : List Char → Option (List (List Char) × List Char)
  | [] => none
  | c :: rest =>
      if c = q then
        match rest with
        | [] => some ([[]], [])
        | d :: rest' =>
            if d = q then (readInside q rest').map (continued q)
            else
              match rest' with
              | [] => some ([[]], [d])
              | e :: rest'' =>
                  if d = '.' ∧ e = q then (readInside q rest'').map ended
                  else some ([[]], d :: e :: rest'')
      else (readInside q rest).map (continued c)

/-- Reads a quoted name: its segments, and the text behind it. -/
def Dialect.readName (d : Dialect) (text : String) : Option (List String × String) :=
  match text.toList with
  | [] => none
  | c :: rest =>
      if c = d.quote then
        (readInside d.quote rest).map fun (parts, text) =>
          (parts.map String.ofList, String.ofList text)
      else none

/-- Whether a quoted name in front of the text ends there: the text starts neither with a quote nor with
a dot and a quote. -/
def Dialect.EndsName (d : Dialect) (text : String) : Prop :=
  ¬ [d.quote] <+: text.toList ∧ ¬ ['.', d.quote] <+: text.toList

section

variable {q : Char} {rest : List Char}

/-- Everything but a quote belongs to the segment. -/
theorem readInside_cons_of_ne {c : Char} (h : c ≠ q) :
    readInside q (c :: rest) = (readInside q rest).map (continued c) := by
  rw [readInside.eq_def]
  exact if_neg h

/-- A doubled quote is a quote of the segment. -/
theorem readInside_doubled :
    readInside q (q :: q :: rest) = (readInside q rest).map (continued q) := by
  rw [readInside.eq_def]
  exact (if_pos rfl).trans (if_pos rfl)

/-- A dot and a quote behind a single one start the next segment. -/
theorem readInside_next (h : '.' ≠ q) :
    readInside q (q :: '.' :: q :: rest) = (readInside q rest).map ended := by
  rw [readInside.eq_def]
  exact (if_pos rfl).trans ((if_neg h).trans (if_pos ⟨rfl, rfl⟩))

/-- Any other single quote is the end. -/
theorem readInside_end (hquote : ¬ [q] <+: rest) (hdot : ¬ ['.', q] <+: rest) :
    readInside q (q :: rest) = some ([[]], rest) := by
  rw [readInside.eq_def]
  refine (if_pos rfl).trans ?_
  cases rest with
  | nil => rfl
  | cons d rest' =>
    have hd : d ≠ q := by
      rintro rfl
      exact hquote ⟨rest', rfl⟩
    refine (if_neg hd).trans ?_
    cases rest' with
    | nil => rfl
    | cons e rest'' =>
      refine if_neg ?_
      rintro ⟨rfl, rfl⟩
      exact hdot ⟨rest'', rfl⟩

end

/-! ## Reading what was quoted -/

/-- The inside of a quoted part: each quote is doubled. -/
def doubled (q : Char) (part : List Char) : List Char :=
  part.flatMap fun c => if c = q then [q, q] else [c]

/-- A quoted part is its inside between quotes. -/
theorem quotePart_eq (q : Char) (part : List Char) :
    Dialect.quotePart q part = q :: (doubled q part ++ [q]) := rfl

/-- A quoted path is its first part, and each further one behind a dot. -/
theorem intercalate_quotePart (q : Char) (part : List Char) (parts : List (List Char)) :
    ['.'].intercalate ((part :: parts).map (Dialect.quotePart q))
      = q :: (doubled q part
        ++ q :: parts.flatMap fun next => '.' :: q :: (doubled q next ++ [q])) := by
  rw [List.map_cons, intercalate_cons, quotePart_eq, List.flatMap_map]
  simp [quotePart_eq]

/-- The inside of a part is read as the part, whatever follows. -/
theorem readInside_doubled_append (q : Char) (part text : List Char) :
    readInside q (doubled q part ++ text)
      = (readInside q text).map fun (parts, rest) => (parts.modifyHead (part ++ ·), rest) := by
  induction part with
  | nil =>
    have hid : ∀ parts : List (List Char), parts.modifyHead ([] ++ ·) = parts := by
      intro parts
      cases parts <;> rfl
    simp only [hid]
    exact Option.map_id'.symm
  | cons c part ih =>
    have hone : readInside q (doubled q (c :: part) ++ text)
        = (readInside q (doubled q part ++ text)).map (continued c) := by
      by_cases hc : c = q
      · subst hc
        simpa [doubled] using readInside_doubled (q := c)
      · simpa [doubled, hc] using readInside_cons_of_ne hc
    rw [hone, ih, Option.map_map]
    refine congrArg (Option.map · _) (funext fun (parts, rest) => ?_)
    simp [continued, List.modifyHead_modifyHead, Function.comp_def]

/-- Parts that were quoted are read back up to the end of the last one. -/
theorem readInside_parts {q : Char} (hq : '.' ≠ q) {text : List Char} (hquote : ¬ [q] <+: text)
    (hdot : ¬ ['.', q] <+: text) (part : List Char) (parts : List (List Char)) :
    readInside q (doubled q part
        ++ q :: (parts.flatMap (fun next => '.' :: q :: (doubled q next ++ [q])) ++ text))
      = some (part :: parts, text) := by
  induction parts generalizing part with
  | nil =>
    rw [readInside_doubled_append, List.flatMap_nil, List.nil_append,
      readInside_end hquote hdot]
    simp
  | cons next rest ih =>
    have hnext : readInside q (q :: '.' :: q :: (doubled q next
        ++ q :: (rest.flatMap (fun next => '.' :: q :: (doubled q next ++ [q])) ++ text)))
          = some ([] :: next :: rest, text) := by
      rw [readInside_next hq, ih]
      rfl
    rw [readInside_doubled_append, List.flatMap_cons]
    simp only [List.cons_append, List.append_assoc, List.nil_append]
    rw [hnext]
    simp

namespace Dialect

/-- No dialect quotes with dots. -/
theorem dot_ne_quote (d : Dialect) : '.' ≠ d.quote := by
  cases d <;> decide

/-- A quoted name is the first segment in quotes, and each further one behind a dot. -/
theorem toList_quoteIdent (d : Dialect) (name : String) :
    ∃ part parts, name.toList.splitOn '.' = part :: parts ∧
      (d.quoteIdent name).toList = d.quote :: (doubled d.quote part
        ++ d.quote :: parts.flatMap fun next =>
          '.' :: d.quote :: (doubled d.quote next ++ [d.quote])) := by
  obtain ⟨part, parts, hparts⟩ :=
    List.exists_cons_of_ne_nil (List.splitOnP_ne_nil (· == '.') name.toList)
  refine ⟨part, parts, hparts, ?_⟩
  rw [quoteIdent, String.toList_ofList, pathParts_eq_splitOn, List.splitOn, hparts,
    intercalate_quotePart]

/-- A quoted name is read back in front of any text in which it does not go on. -/
theorem readName_quoteIdent_append (d : Dialect) (name : String) {text : String}
    (h : d.EndsName text) :
    d.readName (d.quoteIdent name ++ text) = some (segments name, text) := by
  obtain ⟨part, parts, hparts, hquoted⟩ := d.toList_quoteIdent name
  rw [readName, String.toList_append, hquoted]
  simp only [List.cons_append, List.append_assoc, if_true]
  rw [readInside_parts d.dot_ne_quote h.1 h.2, Option.map_some, String.ofList_toList, segments,
    hparts]

/-- Nothing follows a name at the end of a text. -/
theorem endsName_empty (d : Dialect) : d.EndsName "" := by
  cases d <;> simp [EndsName]

/-- A space follows a name in conditions and terms. -/
theorem endsName_space (d : Dialect) (text : String) : d.EndsName (" " ++ text) := by
  cases d <;> simp [EndsName, String.toList_append, quote]

/-- Different names are quoted differently. -/
theorem quoteIdent_injective (d : Dialect) : Function.Injective d.quoteIdent := by
  intro name name' heq
  have hread := d.readName_quoteIdent_append name d.endsName_empty
  have hread' := d.readName_quoteIdent_append name' d.endsName_empty
  rw [heq, hread', Option.some.injEq, Prod.mk.injEq] at hread
  rw [← intercalate_segments name, ← hread.1, intercalate_segments]

end Dialect

/-! ## Text outside of quotes -/

/-- The characters outside of quotes; each quote ends the inside or starts it. -/
def outsideQuotes (q : Char) : (inside : Bool) → List Char → List Char
  | _, [] => []
  | inside, c :: rest =>
      if c = q then outsideQuotes q (!inside) rest
      else if inside then outsideQuotes q inside rest
      else c :: outsideQuotes q inside rest

/-- The inside of a part has nothing outside of quotes. -/
theorem outsideQuotes_doubled (q : Char) (part text : List Char) :
    outsideQuotes q true (doubled q part ++ text) = outsideQuotes q true text := by
  induction part with
  | nil => rfl
  | cons c part ih =>
    by_cases hc : c = q
    · -- The second quote of two goes back inside.
      subst hc
      simpa [doubled, outsideQuotes] using ih
    · simpa [doubled, outsideQuotes, hc] using ih

/-- A quoted part has nothing outside of quotes. -/
theorem outsideQuotes_part (q : Char) (part text : List Char) :
    outsideQuotes q false (q :: (doubled q part ++ q :: text)) = outsideQuotes q false text := by
  simp [outsideQuotes, outsideQuotes_doubled]

/-- Of further parts, only the dots are outside of quotes. -/
theorem outsideQuotes_parts {q : Char} (hq : '.' ≠ q) (parts : List (List Char))
    (text : List Char) :
    outsideQuotes q false
        (parts.flatMap (fun next => '.' :: q :: (doubled q next ++ [q])) ++ text)
      = List.replicate parts.length '.' ++ outsideQuotes q false text := by
  induction parts with
  | nil => rfl
  | cons part rest ih =>
    rw [List.flatMap_cons, List.length_cons, List.replicate_succ]
    simp only [List.cons_append, List.append_assoc, List.nil_append]
    rw [outsideQuotes, if_neg hq, if_neg Bool.false_ne_true, outsideQuotes_part, ih]

/-- Of a quoted name, only the dots between its segments are outside of quotes. -/
theorem outsideQuotes_quoteIdent_append (d : Dialect) (name text : String) :
    outsideQuotes d.quote false (d.quoteIdent name ++ text).toList
      = List.replicate (name.toList.count '.') '.' ++ outsideQuotes d.quote false text.toList := by
  obtain ⟨part, parts, hparts, hquoted⟩ := d.toList_quoteIdent name
  have hlength : parts.length = name.toList.count '.' := by
    have hmarks := length_splitAtMarks (· == '.') name.toList
    rw [splitAtMarks_eq_splitOnP, ← List.splitOn, hparts, List.length_cons] at hmarks
    exact Nat.succ.inj hmarks
  rw [String.toList_append, hquoted, ← hlength]
  simp only [List.cons_append, List.append_assoc]
  rw [outsideQuotes_part, outsideQuotes_parts d.dot_ne_quote]

/-! ## Main statement -/

/-- **Quoted names are read back.** In front of a text that starts neither with a quote nor with a dot
and a quote, the reader of quoted segments takes exactly the quoted name and gives its segments, which
joined by dots are the name.  So different names are quoted differently, the column of a condition and
of a term to order by is found whatever follows it, and outside of quotes a name has nothing but the
dots between its segments. -/
theorem quoted_names_read_back (d : Dialect) :
    (∀ name text : String, d.EndsName text →
      d.readName (d.quoteIdent name ++ text) = some (segments name, text)) ∧
    (∀ name, ".".intercalate (segments name) = name) ∧
    Function.Injective d.quoteIdent ∧
    (∀ name test args, d.readName ((⟨.column name test, args⟩ : Clause).sql d)
      = some (segments name, " " ++ test)) ∧
    (∀ name direction, d.readName ((Order.column name direction).sql d)
      = some (segments name, " " ++ direction.sql)) ∧
    (∀ name text : String, outsideQuotes d.quote false (d.quoteIdent name ++ text).toList
      = List.replicate (name.toList.count '.') '.' ++ outsideQuotes d.quote false text.toList) := by
  refine ⟨fun name text h => d.readName_quoteIdent_append name h, intercalate_segments,
    d.quoteIdent_injective, fun name test args => ?_, fun name direction => ?_,
    outsideQuotes_quoteIdent_append d⟩
  · rw [Clause.sql, Condition.sql, String.append_assoc]
    exact d.readName_quoteIdent_append name (d.endsName_space test)
  · rw [Order.sql, String.append_assoc]
    exact d.readName_quoteIdent_append name (d.endsName_space direction.sql)

/-- A name with a quote at the end of a segment and an empty segment, in front of a dot that belongs to
the text. -/
theorem quotedName_reads_back :
    Dialect.mysql.EndsName ".x" ∧
      Dialect.mysql.quoteIdent "a\x60..\x22b" = "\x60a\x60\x60\x60.\x60\x60.\x60\x22b\x60" ∧
      Dialect.mysql.readName (Dialect.mysql.quoteIdent "a\x60..\x22b" ++ ".x")
        = some (["a\x60", "", "\x22b"], ".x") := by
  have hends : Dialect.mysql.EndsName ".x" := by
    refine ⟨?_, ?_⟩ <;> decide
  refine ⟨hends, by decide, ?_⟩
  exact (quoted_names_read_back .mysql).1 "a\x60..\x22b" ".x" hends

end QueryChain
