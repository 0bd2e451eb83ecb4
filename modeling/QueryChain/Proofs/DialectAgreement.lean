/-
# One query in every dialect

A statement is written in all dialects or refused in all of them, for the same clause, and it binds
the same values: names are quoted before question marks are counted, but no dialect adds one to a
name.  Where placeholders have no numbers, only the quotes tell one text from the other, unless an
offset has to do without a limit.
-/
import QueryChain.Proofs.Binds
import QueryChain.Proofs.GeneratedFilters
import QueryChain.Proofs.SharedConditions

namespace QueryChain

/-! ## Question marks -/

/-- The number of question marks in a condition. -/
def Condition.markers : Condition → Nat
  | .raw sql => sql.toList.count '?'
  | .column name test => name.toList.count '?' + test.toList.count '?'

/-- In every dialect, the text of a condition has as many question marks. -/
theorem Condition.count_sql (dialect : Dialect) (c : Condition) :
    (c.sql dialect).toList.count '?' = c.markers := by
  cases c with
  | raw sql => rfl
  | column name test => exact count_sql_column dialect name test []

namespace Clause

/-- Whether a clause has a value for each of its question marks. -/
def IsFilled (c : Clause) : Prop := c.condition.markers = c.args.length

/-- What is said of a clause that has not. -/
def mismatch (dialect : Dialect) (c : Clause) : RenderError :=
  .bindMismatch (c.sql dialect) c.condition.markers c.args.length

/-- In every dialect, the clauses that can be written are those that are filled. -/
theorem check_eq_ok_iff_isFilled (dialect : Dialect) (c : Clause) :
    c.check dialect = .ok () ↔ c.IsFilled := by
  rw [check_eq_ok_iff, IsFilled, ← c.condition.count_sql dialect, sql]

/-- A clause that is not filled is refused in every dialect, with its text there. -/
theorem check_of_not_isFilled {c : Clause} (h : ¬ c.IsFilled) (dialect : Dialect) :
    c.check dialect = .error (c.mismatch dialect) := by
  have hcount : (c.sql dialect).toList.count '?' = c.condition.markers :=
    c.condition.count_sql dialect
  rw [check_eq_error_iff, mismatch, hcount]
  exact ⟨h, rfl⟩

end Clause

/-- Clauses can be written in all dialects, or all dialects refuse the same one: the first that is
not filled. -/
theorem checkClauses_eq_ok_or_mismatch (clauses : List Clause) :
    (∀ dialect, checkClauses dialect clauses = .ok ()) ∨
      ∃ before c after, clauses = before ++ c :: after ∧ (∀ b ∈ before, b.IsFilled) ∧
        ¬ c.IsFilled ∧ ∀ dialect, checkClauses dialect clauses = .error (c.mismatch dialect) := by
  -- Which clause is refused is seen in any one dialect.
  cases hclauses : checkClauses .postgres clauses with
  | ok u =>
    have hchecked := (checkClauses_eq_ok_iff .postgres clauses).mp hclauses
    refine .inl fun dialect => ?_
    simp only [checkClauses_eq_ok_iff, Clause.check_eq_ok_iff_isFilled] at hchecked ⊢
    exact hchecked
  | error error =>
    obtain ⟨before, c, after, rfl, hbefore, hc⟩ := (checkClauses_eq_error_iff ..).mp hclauses
    simp only [Clause.check_eq_ok_iff_isFilled] at hbefore
    have hunfilled : ¬ c.IsFilled := by
      intro hfilled
      rw [(c.check_eq_ok_iff_isFilled .postgres).mpr hfilled] at hc
      cases hc
    refine .inr ⟨before, c, after, rfl, hbefore, hunfilled, fun dialect => ?_⟩
    rw [checkClauses_eq_error_iff]
    exact ⟨before, c, after, rfl, fun b hb => (b.check_eq_ok_iff_isFilled dialect).mpr (hbefore b hb),
      Clause.check_of_not_isFilled hunfilled dialect⟩

/-! ## Exchanged quotes -/

/-- A backtick in the place of a double quote. -/
def exchangeQuote (c : Char) : Char := if c = '\x22' then '\x60' else c

/-- The text with a backtick in the place of every double quote. -/
def exchangeQuotes (text : String) : String := String.ofList (text.toList.map exchangeQuote)

/-- Quotes are exchanged character by character. -/
theorem toList_exchangeQuotes (text : String) :
    (exchangeQuotes text).toList = text.toList.map exchangeQuote :=
  String.toList_ofList

/-- Whether a text has no quotes of either kind. -/
def Unquoted (text : String) : Prop := '\x22' ∉ text.toList ∧ '\x60' ∉ text.toList

/-- Characters without quotes stay as they are. -/
theorem map_exchangeQuote {cs : List Char} (h : '\x22' ∉ cs) : cs.map exchangeQuote = cs := by
  have hsame : ∀ c ∈ cs, exchangeQuote c = c := by
    intro c hc
    have hne : c ≠ '\x22' := by
      rintro rfl
      exact h hc
    exact if_neg hne
  rw [List.map_congr_left hsame, List.map_id']

/-- So does a text without quotes. -/
theorem exchangeQuotes_of_not_mem {text : String} (h : '\x22' ∉ text.toList) :
    exchangeQuotes text = text := by
  apply String.toList_injective
  rw [toList_exchangeQuotes]
  exact map_exchangeQuote h

/-- Quotes are exchanged in each part of a text by itself. -/
theorem exchangeQuotes_append (text text' : String) :
    exchangeQuotes (text ++ text') = exchangeQuotes text ++ exchangeQuotes text' := by
  apply String.toList_injective
  simp only [toList_exchangeQuotes, String.toList_append, List.map_append]

/-- Likewise in a text of parts with a separator. -/
theorem exchangeQuotes_intercalate {sep : String} (h : '\x22' ∉ sep.toList) (parts : List String) :
    exchangeQuotes (sep.intercalate parts) = sep.intercalate (parts.map exchangeQuotes) := by
  apply String.toList_injective
  have hparts : (parts.map exchangeQuotes).map String.toList
      = (parts.map String.toList).map (List.map exchangeQuote) := by
    rw [List.map_map, List.map_map]
    apply List.map_congr_left
    intro part _
    exact toList_exchangeQuotes part
  rw [toList_exchangeQuotes, String.toList_intercalate, String.toList_intercalate,
    map_intercalate, map_exchangeQuote h, hparts]

/-! ## Quoted names -/

namespace Dialect

/-- A part without quotes inside is quoted alike by both kinds. -/
theorem map_exchangeQuote_quotePart {part : List Char} (h : '\x22' ∉ part) (h' : '\x60' ∉ part) :
    (quotePart '\x22' part).map exchangeQuote = quotePart '\x60' part := by
  have hinside : ∀ q, q ∉ part → part.flatMap (fun c => if c = q then [q, q] else [c]) = part := by
    intro q hq
    have hone : ∀ c ∈ part, (if c = q then [q, q] else [c]) = [c] := by
      intro c hc
      have hne : c ≠ q := by
        rintro rfl
        exact hq hc
      exact if_neg hne
    rw [List.flatMap_congr hone, List.flatMap_singleton']
  rw [quotePart, quotePart, hinside _ h, hinside _ h', List.map_append, List.map_cons,
    map_exchangeQuote h]
  rfl

/-- No part of a path has a character that the path has not. -/
theorem not_mem_of_mem_pathParts {a : Char} (ha : a ≠ '.') {path part : List Char} (h : a ∉ path)
    (hpart : part ∈ pathParts path) : a ∉ part := by
  intro hmem
  have hcount : (pathParts path).flatten.count a = path.count a :=
    count_flatten_splitAtMarks (by simpa using ha) path
  have hzero : path.count a = 0 := List.count_eq_zero.mpr h
  rw [hzero, List.count_eq_zero] at hcount
  exact hcount (List.mem_flatten.mpr ⟨part, hpart, hmem⟩)

/-- A name without quotes inside is quoted alike but for the quotes. -/
theorem exchangeQuotes_quoteIdent {name : String} (h : Unquoted name) :
    exchangeQuotes (sqlite.quoteIdent name) = mysql.quoteIdent name := by
  have hparts : ((pathParts name.toList).map (quotePart '\x22')).map (List.map exchangeQuote)
      = (pathParts name.toList).map (quotePart '\x60') := by
    rw [List.map_map]
    apply List.map_congr_left
    intro part hpart
    have hdouble := not_mem_of_mem_pathParts (by decide) h.1 hpart
    have hback := not_mem_of_mem_pathParts (by decide) h.2 hpart
    exact map_exchangeQuote_quotePart hdouble hback
  apply String.toList_injective
  rw [toList_exchangeQuotes, quoteIdent, quoteIdent, String.toList_ofList,
    String.toList_ofList, map_intercalate]
  show ['.'].intercalate (((pathParts name.toList).map (quotePart '\x22')).map _) = _
  rw [hparts]
  rfl

end Dialect

/-! ## Exchanged quotes in a layout -/

/-- A piece with its text changed; a slot stays as it is. -/
def Piece.mapText {σ : Type} (f : String → String) : Piece σ → Piece σ
  | text s => .text (f s)
  | slot v => .slot v

/-- A layout with all of its texts changed. -/
def Layout.mapText {σ : Type} (f : String → String) (l : Layout σ) : Layout σ :=
  l.map (Piece.mapText f)

/-- Where placeholders have no numbers, exchanging quotes in the texts of a layout exchanges them in
the text of its statement. -/
theorem Layout.sql_mapText_exchangeQuotes (taken : Nat) (l : Layout Value) :
    (l.mapText exchangeQuotes).sql .mysql taken = exchangeQuotes (l.sql .sqlite taken) := by
  induction l generalizing taken with
  | nil => rfl
  | cons p rest ih =>
    cases p with
    | text s =>
      show exchangeQuotes s ++ (mapText exchangeQuotes rest).sql .mysql taken = _
      rw [ih, sql_text_cons, exchangeQuotes_append]
    | slot v =>
      show numberedPlaceholder .mysql (taken + 1, v)
        ++ (mapText exchangeQuotes rest).sql .mysql (taken + 1) = _
      have hmark : exchangeQuotes "?" = "?" := by decide
      rw [ih, sql_slot_cons, exchangeQuotes_append, numberedPlaceholder_of_not_isNumbered rfl,
        numberedPlaceholder_of_not_isNumbered rfl, hmark]

/-- The texts in the layout of a value have no quotes. -/
theorem Value.mapText_layout (v : Value) : v.layout.mapText exchangeQuotes = v.layout := by
  have hpieces : ∀ p ∈ v.layout, p.mapText exchangeQuotes = id p := by
    intro p hp
    cases p with
    | slot w => rfl
    | text s =>
      have hs : exchangeQuotes s = s := by
        rcases v.eq_of_text_mem_layout hp with rfl | rfl <;> decide
      exact congrArg Piece.text hs
  exact (List.map_congr_left hpieces).trans (List.map_id _)

/-- Exchanging quotes does not move question marks. -/
theorem splitAtMarks_map_exchangeQuote (cs : List Char) :
    splitAtMarks (· == '?') (cs.map exchangeQuote)
      = (splitAtMarks (· == '?') cs).map (List.map exchangeQuote) := by
  induction cs with
  | nil => rfl
  | cons c rest ih =>
    have hmark : (exchangeQuote c == '?') = (c == '?') := by
      unfold exchangeQuote
      by_cases hc : c = '\x22'
      · subst hc
        rfl
      · rw [if_neg hc]
    obtain ⟨part, parts, hsplit⟩ :=
      List.exists_cons_of_ne_nil (splitAtMarks_ne_nil (· == '?') rest)
    rw [hsplit] at ih
    rw [List.map_cons, splitAtMarks, splitAtMarks, hmark, hsplit, ih]
    by_cases hc : (c == '?') = true
    · rw [if_pos hc, if_pos hc]
      rfl
    · rw [if_neg hc, if_neg hc]
      rfl

/-- Quotes are exchanged between filled marks and in what fills them. -/
theorem mapText_fillMarks (parts : List (List Char)) (ls : List (Layout Value)) :
    (fillMarks parts ls).mapText exchangeQuotes
      = fillMarks (parts.map (List.map exchangeQuote))
          (ls.map (Layout.mapText exchangeQuotes)) := by
  have htext : ∀ cs : List Char, exchangeQuotes (String.ofList cs)
      = String.ofList (cs.map exchangeQuote) := by
    intro cs
    apply String.toList_injective
    rw [toList_exchangeQuotes, String.toList_ofList, String.toList_ofList]
  induction parts generalizing ls with
  | nil => rfl
  | cons part rest ih =>
    cases rest with
    | nil => exact congrArg (fun s => [Piece.text s]) (htext part)
    | cons next rest =>
      cases ls with
      | nil =>
        show Piece.text (exchangeQuotes (String.ofList part))
          :: (fillMarks (next :: rest) ([] : List (Layout Value))).mapText exchangeQuotes = _
        rw [ih, htext]
        rfl
      | cons l ls =>
        show Piece.text (exchangeQuotes (String.ofList part))
          :: (l ++ fillMarks (next :: rest) ls).map (Piece.mapText exchangeQuotes) = _
        rw [List.map_append, ← Layout.mapText, ← Layout.mapText, ih, htext]
        rfl

/-! ## Texts of a scope and a request -/

/-- The texts in a condition. -/
def Condition.texts : Condition → List String
  | .raw sql => [sql]
  | .column name test => [name, test]

/-- The texts in a term to order by. -/
def Order.texts : Order → List String
  | .raw sql => [sql]
  | .column name _ => [name]

/-- The table, and the texts in conditions and terms to order by. -/
def Scope.texts (s : Scope) : List String :=
  s.table :: s.conditions.flatMap (·.condition.texts) ++ s.orders.flatMap Order.texts

/-- The columns that a request names. -/
def Request.texts : Request → List String
  | .select columns _ => columns
  | .count | .delete => []
  | .update assignments => assignments.map (·.1)

/-- Whether the statement has an offset and no limit. -/
def Request.OnlyOffset (s : Scope) : Request → Prop
  | .select _ limit => limit.or s.limit = none ∧ s.offset ≠ none
  | .count | .delete | .update _ => False

/-! ## The text in both dialects -/

/-- A condition without quotes. -/
theorem Condition.exchangeQuotes_sql {c : Condition} (h : ∀ text ∈ c.texts, Unquoted text) :
    exchangeQuotes (c.sql .sqlite) = c.sql .mysql := by
  cases c with
  | raw sql =>
    have hsql : Unquoted sql := h sql (by simp [texts])
    exact exchangeQuotes_of_not_mem hsql.1
  | column name test =>
    have hname : Unquoted name := h name (by simp [texts])
    have htest : Unquoted test := h test (by simp [texts])
    have hspace : exchangeQuotes " " = " " := by decide
    rw [sql, sql, exchangeQuotes_append, exchangeQuotes_append, hspace,
      Dialect.exchangeQuotes_quoteIdent hname, exchangeQuotes_of_not_mem htest.1]

/-- A term to order by without quotes. -/
theorem Order.exchangeQuotes_sql {o : Order} (h : ∀ text ∈ o.texts, Unquoted text) :
    exchangeQuotes (o.sql .sqlite) = o.sql .mysql := by
  cases o with
  | raw sql =>
    have hsql : Unquoted sql := h sql (by simp [texts])
    exact exchangeQuotes_of_not_mem hsql.1
  | column name direction =>
    have hname : Unquoted name := h name (by simp [texts])
    have hdirection : exchangeQuotes (" " ++ direction.sql) = " " ++ direction.sql := by
      cases direction <;> decide
    rw [sql, sql, String.append_assoc, exchangeQuotes_append,
      Dialect.exchangeQuotes_quoteIdent hname, hdirection, ← String.append_assoc]

/-- The layout of a clause without quotes. -/
theorem Clause.mapText_layout {c : Clause} (h : ∀ text ∈ c.condition.texts, Unquoted text) :
    (c.layout .sqlite).mapText exchangeQuotes = c.layout .mysql := by
  have hsql : (c.sql .sqlite).toList.map exchangeQuote = (c.sql .mysql).toList := by
    rw [← toList_exchangeQuotes]
    exact congrArg String.toList (Condition.exchangeQuotes_sql h)
  have hargs : (c.args.map Value.layout).map (Layout.mapText exchangeQuotes)
      = c.args.map Value.layout := by
    rw [List.map_map]
    exact List.map_congr_left fun v _ => v.mapText_layout
  rw [layout, layout, mapText_fillMarks, hargs, ← splitAtMarks_map_exchangeQuote, hsql]

/-- In parentheses or not. -/
theorem Clause.mapText_groupLayout {c : Clause} (h : ∀ text ∈ c.condition.texts, Unquoted text)
    (several : Bool) :
    (c.groupLayout .sqlite several).mapText exchangeQuotes = c.groupLayout .mysql several := by
  have hlayout := Clause.mapText_layout h
  cases several with
  | false => exact hlayout
  | true =>
    show Piece.text (exchangeQuotes "(")
      :: (c.layout .sqlite ++ [Piece.text ")"]).map (Piece.mapText exchangeQuotes) = _
    rw [List.map_append, ← Layout.mapText, hlayout]
    rfl

/-- The layout of conditions without quotes. -/
theorem mapText_whereLayout {clauses : List Clause}
    (h : ∀ c ∈ clauses, ∀ text ∈ c.condition.texts, Unquoted text) :
    (whereLayout .sqlite clauses).mapText exchangeQuotes = whereLayout .mysql clauses := by
  have hgroups : ∀ several,
      (clauses.map (Clause.groupLayout .sqlite several)).map (Layout.mapText exchangeQuotes)
        = clauses.map (Clause.groupLayout .mysql several) := by
    intro several
    rw [List.map_map]
    apply List.map_congr_left
    intro c hc
    exact Clause.mapText_groupLayout (h c hc) several
  unfold whereLayout
  by_cases hempty : clauses.isEmpty = true
  · rw [if_pos hempty, if_pos hempty]
    rfl
  · rw [if_neg hempty, if_neg hempty, Layout.mapText, List.map_cons, map_intercalate]
    exact congrArg (fun groups => Piece.text " WHERE " :: [Piece.text " AND "].intercalate groups)
      (hgroups _)

/-- The layout of assignments to columns without quotes. -/
theorem mapText_assignmentsLayout {assignments : List (String × Value)}
    (h : ∀ a ∈ assignments, Unquoted a.1) :
    (assignmentsLayout .sqlite assignments).mapText exchangeQuotes
      = assignmentsLayout .mysql assignments := by
  have hone : ∀ a ∈ assignments,
      (assignmentLayout .sqlite a).mapText exchangeQuotes = assignmentLayout .mysql a := by
    intro a ha
    have hequals : exchangeQuotes " = " = " = " := by decide
    show Piece.text (exchangeQuotes (Dialect.sqlite.quoteIdent a.1 ++ " = "))
      :: a.2.layout.mapText exchangeQuotes = _
    rw [exchangeQuotes_append, Dialect.exchangeQuotes_quoteIdent (h a ha), hequals,
      a.2.mapText_layout]
    rfl
  rw [assignmentsLayout, assignmentsLayout, Layout.mapText, map_intercalate, List.map_map]
  exact congrArg (List.intercalate _) (List.map_congr_left hone)

/-- Selected columns without quotes. -/
theorem exchangeQuotes_selectedColumns {columns : List String}
    (h : ∀ column ∈ columns, Unquoted column) :
    exchangeQuotes (selectedColumns .sqlite columns) = selectedColumns .mysql columns := by
  unfold selectedColumns
  by_cases hempty : columns.isEmpty = true
  · rw [if_pos hempty, if_pos hempty]
    decide
  · rw [if_neg hempty, if_neg hempty, exchangeQuotes_intercalate (by decide), List.map_map]
    apply congrArg
    apply List.map_congr_left
    intro column hcolumn
    exact Dialect.exchangeQuotes_quoteIdent (h column hcolumn)

/-- Terms to order by without quotes. -/
theorem exchangeQuotes_orderText {orders : List Order}
    (h : ∀ o ∈ orders, ∀ text ∈ o.texts, Unquoted text) :
    exchangeQuotes (orderText .sqlite orders) = orderText .mysql orders := by
  unfold orderText
  by_cases hempty : orders.isEmpty = true
  · rw [if_pos hempty, if_pos hempty]
    rfl
  · have horder : exchangeQuotes " ORDER BY " = " ORDER BY " := by decide
    rw [if_neg hempty, if_neg hempty, exchangeQuotes_append, horder,
      exchangeQuotes_intercalate (by decide), List.map_map]
    apply congrArg
    apply congrArg
    apply List.map_congr_left
    intro o ho
    exact Order.exchangeQuotes_sql (h o ho)

/-- A number is written in digits, so it has no quotes. -/
theorem exchangeQuotes_toString (n : Nat) : exchangeQuotes (toString n) = toString n := by
  apply exchangeQuotes_of_not_mem
  intro hmem
  exact absurd (isDigit_of_mem_toString hmem) (by decide)

/-- Limit and offset are spelled alike, unless there is an offset and no limit. -/
theorem exchangeQuotes_paginationText {limit offset : Option Nat}
    (h : limit = none → offset = none) :
    exchangeQuotes (paginationText .sqlite limit offset) = paginationText .mysql limit offset := by
  have hlimit : exchangeQuotes " LIMIT " = " LIMIT " := by decide
  have hoffset : exchangeQuotes " OFFSET " = " OFFSET " := by decide
  cases limit with
  | none =>
    rw [h rfl]
    rfl
  | some rows =>
    cases offset with
    | none => simp only [paginationText, exchangeQuotes_append, exchangeQuotes_toString, hlimit]
    | some skipped =>
      simp only [paginationText, exchangeQuotes_append, exchangeQuotes_toString, hlimit, hoffset]

/-- The layout of a request without quotes in its texts. -/
theorem Request.mapText_layout {s : Scope} {r : Request}
    (h : ∀ text ∈ s.texts ++ r.texts, Unquoted text) (hoffset : ¬ r.OnlyOffset s) :
    (r.layout .sqlite s).mapText exchangeQuotes = r.layout .mysql s := by
  have htable :
      exchangeQuotes (Dialect.sqlite.quoteIdent s.table) = Dialect.mysql.quoteIdent s.table :=
    Dialect.exchangeQuotes_quoteIdent (h s.table (by simp [Scope.texts]))
  have hwhere : (whereLayout .sqlite s.conditions).mapText exchangeQuotes
      = whereLayout .mysql s.conditions := by
    apply mapText_whereLayout
    intro c hc text htext
    apply h
    simp only [Scope.texts, List.mem_append, List.mem_cons, List.mem_flatMap]
    exact Or.inl (Or.inl (Or.inr ⟨c, hc, htext⟩))
  cases r with
  | select columns limit =>
    have hcolumns : exchangeQuotes (selectedColumns .sqlite columns)
        = selectedColumns .mysql columns := by
      apply exchangeQuotes_selectedColumns
      intro column hcolumn
      exact h column (List.mem_append_right _ hcolumn)
    have horders : exchangeQuotes (orderText .sqlite s.orders) = orderText .mysql s.orders := by
      apply exchangeQuotes_orderText
      intro o ho text htext
      apply h
      simp only [Scope.texts, List.mem_append, List.mem_flatMap]
      exact Or.inl (Or.inr ⟨o, ho, htext⟩)
    have hpagination : exchangeQuotes (paginationText .sqlite (limit.or s.limit) s.offset)
        = paginationText .mysql (limit.or s.limit) s.offset := by
      apply exchangeQuotes_paginationText
      intro hlimit
      by_contra hsome
      exact hoffset ⟨hlimit, hsome⟩
    have hstart : exchangeQuotes ("SELECT " ++ selectedColumns .sqlite columns ++ " FROM "
          ++ Dialect.sqlite.quoteIdent s.table)
        = "SELECT " ++ selectedColumns .mysql columns ++ " FROM "
          ++ Dialect.mysql.quoteIdent s.table := by
      rw [exchangeQuotes_append, exchangeQuotes_append, exchangeQuotes_append, htable, hcolumns]
      rfl
    show Piece.text (exchangeQuotes _) :: (whereLayout .sqlite s.conditions
      ++ [Piece.text _, Piece.text _]).map (Piece.mapText exchangeQuotes) = _
    rw [hstart, List.map_append, ← Layout.mapText, hwhere, List.map_cons, List.map_cons,
      Piece.mapText, Piece.mapText, horders, hpagination]
    rfl
  | count =>
    show Piece.text (exchangeQuotes ("SELECT COUNT(*) FROM " ++ Dialect.sqlite.quoteIdent s.table))
      :: (whereLayout .sqlite s.conditions).mapText exchangeQuotes = _
    rw [exchangeQuotes_append, htable, hwhere]
    rfl
  | delete =>
    show Piece.text (exchangeQuotes ("DELETE FROM " ++ Dialect.sqlite.quoteIdent s.table))
      :: (whereLayout .sqlite s.conditions).mapText exchangeQuotes = _
    rw [exchangeQuotes_append, htable, hwhere]
    rfl
  | update assignments =>
    have hassigned : (assignmentsLayout .sqlite assignments).mapText exchangeQuotes
        = assignmentsLayout .mysql assignments := by
      apply mapText_assignmentsLayout
      intro a ha
      exact h a.1 (List.mem_append_right _ (List.mem_map_of_mem ha))
    show Piece.text (exchangeQuotes ("UPDATE " ++ Dialect.sqlite.quoteIdent s.table ++ " SET "))
      :: (assignmentsLayout .sqlite assignments ++ whereLayout .sqlite s.conditions).map
        (Piece.mapText exchangeQuotes) = _
    rw [exchangeQuotes_append, exchangeQuotes_append, htable, List.map_append, ← Layout.mapText,
      ← Layout.mapText, hassigned, hwhere]
    rfl

/-! ## Outcomes in all dialects -/

namespace Request

variable {s : Scope} {r : Request}

/-- Unless it is an update of nothing, a request is allowed in all dialects, or all dialects refuse
the same clause: the first that is not filled. -/
theorem check_eq_ok_or_mismatch (hr : r ≠ .update []) (s : Scope) :
    (∀ dialect, r.check dialect s = .ok ()) ∨
      ∃ before c after, s.conditions = before ++ c :: after ∧ (∀ b ∈ before, b.IsFilled) ∧
        ¬ c.IsFilled ∧ ∀ dialect, r.check dialect s = .error (c.mismatch dialect) := by
  simp only [check_eq_checkClauses hr]
  exact checkClauses_eq_ok_or_mismatch s.conditions

/-- A request that is allowed is written, with the leaves of its values for binds. -/
theorem exists_statement_of_check {dialect : Dialect} (h : r.check dialect s = .ok ()) :
    ∃ sql, r.statement dialect s = .ok ⟨sql, r.leaves s⟩ := by
  have hst : r.statement dialect s = .ok ((r.layout dialect s).statement dialect) := by
    rw [statement_eq_map, h]
    rfl
  have hbinds := binds_eq_leaves hst
  refine ⟨(r.layout dialect s).sql dialect 0, ?_⟩
  rw [hst, ← hbinds]
  rfl

/-- A request without quotes in its texts is written with the other quotes. -/
theorem statement_mysql_eq (h : ∀ text ∈ s.texts ++ r.texts, Unquoted text)
    (hoffset : ¬ r.OnlyOffset s) (hcheck : ∀ dialect, r.check dialect s = .ok ()) {st : Statement}
    (hst : r.statement .sqlite s = .ok st) :
    r.statement .mysql s = .ok ⟨exchangeQuotes st.sql, st.binds⟩ := by
  have hbinds : st.binds = r.leaves s := binds_eq_leaves hst
  obtain ⟨sql, hmysql⟩ := exists_statement_of_check (hcheck .mysql)
  rw [statement_eq_map, hcheck] at hst hmysql
  have hsql : (r.layout .sqlite s).sql .sqlite 0 = st.sql :=
    congrArg Statement.sql (Except.ok.inj hst)
  have hsql' : (r.layout .mysql s).sql .mysql 0 = sql :=
    congrArg Statement.sql (Except.ok.inj hmysql)
  have hexchanged : sql = exchangeQuotes st.sql := by
    rw [← hsql', ← hsql, ← mapText_layout h hoffset, Layout.sql_mapText_exchangeQuotes]
  rw [statement_eq_map, hcheck, hmysql, hexchanged, hbinds]

end Request

/-! ## Main statement -/

/-- **One query in every dialect.** All dialects refuse an update of nothing, or they refuse the
same clause, the first that has not as many values as question marks, or they write statements with
the same binds.  If there are no quotes in any text, MySQL's statement is that of SQLite with the quotes
exchanged, unless there is an offset and no limit. -/
theorem dialects_write_same_query (s : Scope) (r : Request) :
    ((r = .update [] ∧ ∀ dialect, r.statement dialect s = .error .emptyUpdate) ∨
      (r ≠ .update [] ∧ ∃ before c after, s.conditions = before ++ c :: after ∧
        (∀ b ∈ before, b.condition.markers = b.args.length) ∧
        c.condition.markers ≠ c.args.length ∧
        ∀ dialect, (c.sql dialect).toList.count '?' = c.condition.markers ∧
          r.statement dialect s
            = .error (.bindMismatch (c.sql dialect) c.condition.markers c.args.length)) ∨
      (r ≠ .update [] ∧ ∃ binds, ∀ dialect, ∃ sql, r.statement dialect s = .ok ⟨sql, binds⟩)) ∧
    ((∀ text ∈ s.texts ++ r.texts, Unquoted text) → ¬ r.OnlyOffset s →
      ∀ st, r.statement .sqlite s = .ok st →
        r.statement .mysql s = .ok ⟨exchangeQuotes st.sql, st.binds⟩) := by
  by_cases hr : r = .update []
  · subst hr
    exact ⟨Or.inl ⟨rfl, fun _ => rfl⟩, fun _ _ _ hst => nomatch hst⟩
  rcases Request.check_eq_ok_or_mismatch hr s with
    hok | ⟨before, c, after, hsplit, hbefore, hc, herror⟩
  · refine ⟨Or.inr (Or.inr ⟨hr, r.leaves s, fun dialect => ?_⟩), fun htexts hoffset st hst => ?_⟩
    · exact Request.exists_statement_of_check (hok dialect)
    · exact Request.statement_mysql_eq htexts hoffset hok hst
  · have hrefused : ∀ dialect, r.statement dialect s = .error (c.mismatch dialect) := by
      intro dialect
      rw [Request.statement_eq_map, herror]
      rfl
    refine ⟨Or.inr (Or.inl ⟨hr, before, c, after, hsplit, hbefore, hc, fun dialect => ?_⟩), ?_⟩
    · exact ⟨c.condition.count_sql dialect, hrefused dialect⟩
    · intro _ _ st hst
      rw [hrefused] at hst
      cases hst

/-- A scope with a list in a condition, a raw condition, a term to order by, a limit and an
offset. -/
def pagedScope : Scope where
  table := "blog.posts"
  conditions := [⟨.column "id" "IN (?)", [.list [.int 1, .null, .numeric "7"]]⟩,
    ⟨.raw "a = ? OR b", [.text "\"\x60?"]⟩]
  orders := [.column "id" .descending]
  limit := some 10
  offset := some 20

/-- A request for one column, which is dotted. -/
def pagedRequest : Request := .select ["p.title"] none

/-- The text of that request, with the given quote. -/
def pagedText (q : String) : String :=
  "SELECT " ++ q ++ "p" ++ q ++ "." ++ q ++ "title" ++ q
    ++ " FROM " ++ q ++ "blog" ++ q ++ "." ++ q ++ "posts" ++ q
    ++ " WHERE (" ++ q ++ "id" ++ q ++ " IN (?, NULL, ?)) AND (a = ? OR b)"
    ++ " ORDER BY " ++ q ++ "id" ++ q ++ " DESC LIMIT 10 OFFSET 20"

/-- Quotes among the values do not matter, and pages are spelled alike. -/
theorem pagedScope_same_query :
    (∀ text ∈ pagedScope.texts ++ pagedRequest.texts, Unquoted text) ∧
      ¬ pagedRequest.OnlyOffset pagedScope ∧
      pagedRequest.statement .sqlite pagedScope
        = .ok ⟨pagedText "\"", [.int 1, .numeric "7", .text "\"\x60?"]⟩ ∧
      pagedRequest.statement .mysql pagedScope
        = .ok ⟨pagedText "\x60", [.int 1, .numeric "7", .text "\"\x60?"]⟩ := by
  have htexts : ∀ text ∈ pagedScope.texts ++ pagedRequest.texts, Unquoted text := by
    unfold Unquoted
    decide
  have hoffset : ¬ pagedRequest.OnlyOffset pagedScope := by
    rintro ⟨hlimit, -⟩
    cases hlimit
  have hquotes : exchangeQuotes (pagedText "\"") = pagedText "\x60" := by decide +kernel
  refine ⟨htexts, hoffset, rfl, ?_⟩
  rw [(dialects_write_same_query pagedScope pagedRequest).2 htexts hoffset
    ⟨pagedText "\"", [.int 1, .numeric "7", .text "\"\x60?"]⟩ rfl, hquotes]

/-- An offset without a limit is spelled in each dialect's own way. -/
example :
    (paginationText .sqlite none (some 20), paginationText .mysql none (some 20))
      = (" LIMIT -1 OFFSET 20", " LIMIT 18446744073709551615 OFFSET 20") := by
  rfl

end QueryChain
