/-
# Conditions as whole clauses

Several conditions are joined by `AND`, and each of them stands in parentheses.  If the parentheses
inside every clause are balanced, what is joined can be told from the text alone: cut wherever `AND`
stands outside of all parentheses, it comes apart into the clauses, whatever is written in them.
-/
import QueryChain.Proofs.ClauseContext
import Mathlib.Data.List.Infix

namespace QueryChain

/-! ## Parentheses -/

/-- By how much opening parentheses outnumber closing ones. -/
def nesting (text : List Char) : Int := text.count '(' - text.count ')'

/-- A text whose parentheses match: none is closed before it is opened, and none is left open. -/
def Balanced (text : List Char) : Prop :=
  (∀ front, front <+: text → front.count ')' ≤ front.count '(') ∧ text.count '(' = text.count ')'

/-- It is enough to look at the beginnings of a text. -/
instance (text : List Char) : Decidable (Balanced text) :=
  decidable_of_iff ((∀ front ∈ text.inits, front.count ')' ≤ front.count '(') ∧
    text.count '(' = text.count ')') (by simp only [Balanced, List.mem_inits])

/-- A text goes on at the depth at which the one before ends. -/
theorem nesting_append (text text' : List Char) :
    nesting (text ++ text') = nesting text + nesting text' := by
  simp only [nesting, List.count_append]
  omega

/-- One more letter in front changes the depth by its own. -/
theorem nesting_cons (c : Char) (text : List Char) :
    nesting (c :: text) = nesting [c] + nesting text :=
  nesting_append [c] text

/-- The parentheses of a text, and nothing else of it. -/
def parens (text : List Char) : List Char :=
  text.filter fun c => c = '(' || c = ')'

/-- The parentheses of two texts stand one after the other. -/
theorem parens_append (text text' : List Char) :
    parens (text ++ text') = parens text ++ parens text' :=
  List.filter_append ..

/-- Whether a text is balanced is seen from its parentheses. -/
theorem balanced_parens_iff (text : List Char) : Balanced (parens text) ↔ Balanced text := by
  have hopening : ∀ cs : List Char, (parens cs).count '(' = cs.count '(' :=
    fun cs => List.count_filter (by decide)
  have hclosing : ∀ cs : List Char, (parens cs).count ')' = cs.count ')' :=
    fun cs => List.count_filter (by decide)
  unfold Balanced
  rw [hopening, hclosing]
  refine and_congr_left fun _ => ⟨fun h front hfront => ?_, fun h front hfront => ?_⟩
  · have hcount := h (parens front) (hfront.filter _)
    rwa [hopening, hclosing] at hcount
  · obtain ⟨whole, hwhole, rfl⟩ := List.prefix_filter_iff.mp hfront
    show (parens whole).count ')' ≤ (parens whole).count '('
    rw [hopening, hclosing]
    exact h whole hwhole

/-! ## Cutting at `AND` -/

/-- The pieces of a text between the occurrences of `AND` that stand outside of all parentheses.
Before the text, opening parentheses outnumber closing ones by `depth`. -/
def cutAtAnd (depth : Int) (text : List Char) : List (List Char) :=
  match text with
  | [] => [[]]
  | c :: rest =>
      if depth = 0 ∧ " AND ".toList <+: c :: rest then
        [] :: cutAtAnd 0 ((c :: rest).drop " AND ".length)
      else (cutAtAnd (depth + nesting [c]) rest).modifyHead (c :: ·)
termination_by text.length
decreasing_by
  · have hlength : " AND ".length = 5 := rfl
    simp only [List.length_drop, List.length_cons, hlength]
    omega
  · exact Nat.lt_succ_self _

/-- Where no `AND` stands outside of all parentheses, nothing is cut. -/
theorem cutAtAnd_cons_of_ne {depth : Int} {c : Char} {rest : List Char}
    (h : ¬ (depth = 0 ∧ " AND ".toList <+: c :: rest)) :
    cutAtAnd depth (c :: rest)
      = (cutAtAnd (depth + nesting [c]) rest).modifyHead (c :: ·) := by
  rw [cutAtAnd, if_neg h]

/-- Nor is it in a text all of which stands inside of some. -/
theorem cutAtAnd_append {depth : Int} {text : List Char}
    (h : ∀ front, front <+: text → 0 < depth + nesting front) (rest : List Char) :
    cutAtAnd depth (text ++ rest)
      = (cutAtAnd (depth + nesting text) rest).modifyHead (text ++ ·) := by
  -- On the text that is left; what was read of it is in the depth.
  induction text generalizing depth with
  | nil =>
    have hnesting : nesting [] = 0 := rfl
    rw [hnesting, Int.add_zero]
    exact (congrFun List.modifyHead_id _).symm
  | cons c text ih =>
    have hdepth : 0 < depth := by simpa [nesting] using h [] List.nil_prefix
    have hinside : ∀ front, front <+: text → 0 < depth + nesting [c] + nesting front := by
      intro front hfront
      have hcons := h (c :: front) (List.cons_prefix_cons.mpr ⟨rfl, hfront⟩)
      rwa [nesting_cons, ← Int.add_assoc] at hcons
    rw [List.cons_append, cutAtAnd_cons_of_ne (by omega), ih hinside, List.modifyHead_modifyHead,
      nesting_cons c text, Int.add_assoc]
    rfl

/-- A text in parentheses. -/
def grouped (text : List Char) : List Char := '(' :: text ++ [')']

/-- A balanced text in parentheses is never cut, wherever there is an `AND` in it. -/
theorem cutAtAnd_grouped_append {text : List Char} (h : Balanced text) (rest : List Char) :
    cutAtAnd 0 (grouped text ++ rest) = (cutAtAnd 0 rest).modifyHead (grouped text ++ ·) := by
  obtain ⟨hfronts, htotal⟩ := h
  -- The parenthesis is open up to the end of the text, because none inside closes it.
  have hopening : ¬ " AND ".toList <+: '(' :: (text ++ ')' :: rest) := by
    intro hand
    cases (List.cons_prefix_cons.mp hand).1
  have hone : (0 : Int) + nesting ['('] = 1 := rfl
  have hinside : ∀ front, front <+: text → 0 < 1 + nesting front := by
    intro front hfront
    have hcount := hfronts front hfront
    unfold nesting
    omega
  have hinner : (1 : Int) + nesting text = 1 := by
    unfold nesting
    omega
  have hclosed : (1 : Int) + nesting [')'] = 0 := rfl
  have hsplit : grouped text ++ rest = '(' :: (text ++ ')' :: rest) := by simp [grouped]
  rw [hsplit, cutAtAnd_cons_of_ne (fun hcut => hopening hcut.2), hone, cutAtAnd_append hinside,
    hinner, cutAtAnd_cons_of_ne (fun hcut => absurd hcut.1 (by decide)), hclosed,
    List.modifyHead_modifyHead, List.modifyHead_modifyHead]
  congr 1
  funext piece
  simp [grouped]

/-- Between two such texts it is cut. -/
theorem cutAtAnd_and_append (rest : List Char) :
    cutAtAnd 0 (" AND ".toList ++ rest) = [] :: cutAtAnd 0 rest := by
  have hand : " AND ".toList = ' ' :: "AND ".toList := rfl
  have hhere : " AND ".toList <+: ' ' :: ("AND ".toList ++ rest) :=
    List.prefix_append " AND ".toList rest
  rw [hand, List.cons_append, cutAtAnd, if_pos ⟨rfl, hhere⟩]
  rfl

/-- So balanced texts in parentheses, joined by `AND`, come apart again. -/
theorem cutAtAnd_intercalate {texts : List (List Char)} (hsome : texts ≠ [])
    (h : ∀ text ∈ texts, Balanced text) :
    cutAtAnd 0 (" AND ".toList.intercalate (texts.map grouped)) = texts.map grouped := by
  induction texts with
  | nil => exact absurd rfl hsome
  | cons text rest ih =>
    rw [List.forall_mem_cons] at h
    obtain ⟨htext, hrest⟩ := h
    cases rest with
    | nil =>
      have hlast := cutAtAnd_grouped_append htext []
      rw [List.append_nil] at hlast
      rw [List.map_cons, List.map_nil, List.intercalate_singleton, hlast, cutAtAnd]
      simp
    | cons next rest =>
      rw [List.map_cons, List.map_cons, List.intercalate_cons_cons, List.append_assoc,
        cutAtAnd_grouped_append htext, cutAtAnd_and_append, ← List.map_cons, ih (by simp) hrest]
      simp

/-! ## Written clauses -/

/-- A placeholder has no parentheses. -/
theorem parens_numberedPlaceholder (dialect : Dialect) (p : Nat × Value) :
    parens (numberedPlaceholder dialect p).toList = [] := by
  have hdigits : parens (toString p.1).toList = [] := by
    rw [parens, List.filter_eq_nil_iff]
    intro c hc hparen
    have hdigit := isDigit_of_mem_toString hc
    simp only [Bool.or_eq_true, decide_eq_true_eq] at hparen
    rcases hparen with rfl | rfl <;> exact absurd hdigit (by decide)
  have hcasts : ∀ cast ∈ ["", "::numeric"], parens cast.toList = [] := by decide
  rcases numberedPlaceholder_cases dialect p with hmark | ⟨cast, hcast, hnumber⟩
  · rw [hmark]
    rfl
  · rw [hnumber, String.toList_append, String.toList_append, parens_append, parens_append, hdigits,
      hcasts cast hcast]
    rfl

/-- A layout whose texts have no parentheses is written without any. -/
theorem Layout.parens_sql_eq_nil (dialect : Dialect) (taken : Nat) {l : Layout Value}
    (h : ∀ s, .text s ∈ l → parens s.toList = []) : parens (l.sql dialect taken).toList = [] := by
  induction l generalizing taken with
  | nil => rfl
  | cons p rest ih =>
    have hrest := fun s hs => h s (List.mem_cons_of_mem p hs)
    cases p with
    | text s =>
      rw [sql_text_cons, String.toList_append, parens_append, h s List.mem_cons_self, ih _ hrest]
      rfl
    | slot v =>
      rw [sql_slot_cons, String.toList_append, parens_append, parens_numberedPlaceholder,
        ih _ hrest]
      rfl

/-- Values are written without parentheses, lists of them too. -/
theorem Value.parens_sql_layout (dialect : Dialect) (taken : Nat) (v : Value) :
    parens (v.layout.sql dialect taken).toList = [] := by
  refine Layout.parens_sql_eq_nil dialect taken fun s hs => ?_
  rcases v.eq_of_text_mem_layout hs with rfl | rfl <;> rfl

/-- So a text with its marks filled has its own parentheses and no others. -/
theorem Filled.parens_sql {text : List Char} {args : List Value} {l : Layout Value}
    (h : Filled text args l) (dialect : Dialect) (taken : Nat) :
    parens (l.sql dialect taken).toList = parens text := by
  induction h generalizing taken with
  | text hpart =>
    rw [Layout.sql_text_cons, Layout.sql_nil, String.append_empty, String.toList_ofList]
  | @mark part rest v args l hpart hrest ih =>
    have hmark : parens ('?' :: rest) = parens rest := parens_append ['?'] rest
    rw [Layout.sql_text_cons, Layout.sql_append, String.toList_append, String.toList_append,
      String.toList_ofList, parens_append, parens_append, v.parens_sql_layout, ih, parens_append,
      hmark, List.nil_append]

/-- Marks that are filled leave a text balanced. -/
theorem Filled.balanced_sql {text : List Char} {args : List Value} {l : Layout Value}
    (h : Filled text args l) (hbalanced : Balanced text) (dialect : Dialect) (taken : Nat) :
    Balanced (l.sql dialect taken).toList := by
  rwa [← balanced_parens_iff, h.parens_sql, balanced_parens_iff]

/-- The texts of clauses behind `taken` binds, with their marks filled. -/
def writtenClauses (dialect : Dialect) (taken : Nat) : List Clause → List (List Char)
  | [] => []
  | c :: rest =>
      ((c.layout dialect).sql dialect taken).toList
        :: writtenClauses dialect (taken + c.leaves.length) rest

section

variable {dialect : Dialect}

/-- There is one for each clause. -/
theorem length_writtenClauses (taken : Nat) (clauses : List Clause) :
    (writtenClauses dialect taken clauses).length = clauses.length := by
  induction clauses generalizing taken with
  | nil => rfl
  | cons c rest ih => rw [writtenClauses, List.length_cons, ih, List.length_cons]

/-- Each clause is written behind the leaves of the clauses before it. -/
theorem getElem?_writtenClauses (taken : Nat) (before : List Clause) (c : Clause)
    (after : List Clause) :
    (writtenClauses dialect taken (before ++ c :: after))[before.length]?
      = some ((c.layout dialect).sql dialect
          (taken + (before.flatMap Clause.leaves).length)).toList := by
  induction before generalizing taken with
  | nil => rfl
  | cons b before ih =>
    rw [List.cons_append, writtenClauses, List.length_cons, List.getElem?_cons_succ, ih,
      List.flatMap_cons, List.length_append, Nat.add_assoc]

/-- Clauses that are balanced are so when they are written. -/
theorem balanced_of_mem_writtenClauses {clauses : List Clause}
    (hchecked : ∀ c ∈ clauses, c.check dialect = .ok ())
    (hbalanced : ∀ c ∈ clauses, Balanced (c.sql dialect).toList) (taken : Nat) :
    ∀ text ∈ writtenClauses dialect taken clauses, Balanced text := by
  induction clauses generalizing taken with
  | nil => exact nofun
  | cons c rest ih =>
    rw [List.forall_mem_cons] at hchecked hbalanced
    rw [writtenClauses, List.forall_mem_cons]
    have hfilled := Clause.filled_layout hchecked.1
    exact ⟨hfilled.balanced_sql hbalanced.1 dialect taken, ih hchecked.2 hbalanced.2 _⟩

/-- One of several clauses is written in parentheses. -/
theorem Clause.toList_sql_groupLayout (taken : Nat) (c : Clause) :
    ((c.groupLayout dialect true).sql dialect taken).toList
      = grouped ((c.layout dialect).sql dialect taken).toList := by
  have hlayout : c.groupLayout dialect true = .text "(" :: (c.layout dialect ++ [.text ")"]) := rfl
  rw [hlayout, Layout.sql_text_cons, Layout.sql_append, Layout.sql_text_cons, Layout.sql_nil]
  simp [grouped]

/-- Several of them are joined by `AND`. -/
theorem toList_sql_groups {clauses : List Clause}
    (hchecked : ∀ c ∈ clauses, c.check dialect = .ok ()) (taken : Nat) :
    (Layout.sql dialect taken
        ([.text " AND "].intercalate (clauses.map (Clause.groupLayout dialect true)))).toList
      = " AND ".toList.intercalate ((writtenClauses dialect taken clauses).map grouped) := by
  induction clauses generalizing taken with
  | nil => rfl
  | cons c rest ih =>
    rw [List.forall_mem_cons] at hchecked
    obtain ⟨hc, hrest⟩ := hchecked
    have hslots : (c.groupLayout dialect true).slots = c.leaves :=
      (Clause.slots_groupLayout dialect true c).trans (Clause.slots_layout hc)
    cases rest with
    | nil =>
      rw [List.map_cons, List.map_nil, List.intercalate_singleton,
        Clause.toList_sql_groupLayout, writtenClauses, writtenClauses, List.map_cons, List.map_nil,
        List.intercalate_singleton]
    | cons next rest =>
      have hgroups : (next :: rest).map (Clause.groupLayout dialect true) ≠ [] := by simp
      let texts := (writtenClauses dialect (taken + c.leaves.length) (next :: rest)).map grouped
      have htexts : texts ≠ [] := by simp [texts, writtenClauses]
      have hwritten : (writtenClauses dialect taken (c :: next :: rest)).map grouped
          = grouped ((c.layout dialect).sql dialect taken).toList :: texts := rfl
      rw [List.map_cons, List.intercalate_cons_of_ne_nil hgroups, List.append_assoc,
        Layout.sql_append, hslots, String.toList_append, Clause.toList_sql_groupLayout,
        List.singleton_append, Layout.sql_text_cons, String.toList_append, ih hrest, hwritten,
        List.intercalate_cons_of_ne_nil htexts, List.append_assoc]

end

/-- The conditions of several clauses are such groups. -/
theorem whereLayout_eq_cons (dialect : Dialect) {clauses : List Clause} (h : 2 ≤ clauses.length) :
    whereLayout dialect clauses = .text " WHERE " ::
      [.text " AND "].intercalate (clauses.map (Clause.groupLayout dialect true)) := by
  have hsome : clauses.isEmpty = false := by
    cases clauses with
    | nil => simp at h
    | cons c rest => rfl
  have hmany : decide (1 < clauses.length) = true := decide_eq_true (by omega)
  rw [whereLayout, hsome, hmany]
  rfl

/-! ## Main statement -/

/-- **Conditions are whole clauses.** If the parentheses in each of several clauses match, the text
behind `WHERE`, cut wherever `AND` stands outside of all parentheses, comes apart into as many
pieces as there are clauses: each of them in their order, in parentheses and with its marks filled,
the binds of what is written before it being counted.  Inside of these parentheses, others match as
before. -/
theorem conditions_cut_into_clauses {dialect : Dialect} {s : Scope} {r : Request} {st : Statement}
    (h : r.statement dialect s = .ok st) (hseveral : 2 ≤ s.conditions.length)
    (hbalanced : ∀ c ∈ s.conditions, Balanced (c.sql dialect).toList) :
    ∃ text : String,
      st.sql = (r.opening dialect s).sql dialect 0 ++ " WHERE " ++ text
          ++ (r.ending dialect s).sql dialect st.binds.length ∧
        (cutAtAnd 0 text.toList).length = s.conditions.length ∧
        ∀ before c after, s.conditions = before ++ c :: after →
          let bound := r.assigned ++ before.flatMap Clause.leaves
          let written := ((c.layout dialect).sql dialect bound.length).toList
          (cutAtAnd 0 text.toList)[before.length]? = some ('(' :: written ++ [')']) ∧
            Filled (c.sql dialect).toList c.args (c.layout dialect) ∧ Balanced written := by
  have hchecked := Request.check_of_statement h
  let groups : Layout Value :=
    [.text " AND "].intercalate (s.conditions.map (Clause.groupLayout dialect true))
  have hwhere : whereLayout dialect s.conditions = .text " WHERE " :: groups :=
    whereLayout_eq_cons dialect hseveral
  have hslots : (whereLayout dialect s.conditions).slots
      = s.conditions.flatMap Clause.leaves :=
    slots_whereLayout ((checkClauses_eq_ok_iff dialect s.conditions).mpr hchecked)
  have hbinds : st.binds.length
      = r.assigned.length + (s.conditions.flatMap Clause.leaves).length := by
    rw [r.binds_eq_leaves h, r.leaves_eq_append, List.length_append]
  have hcut : cutAtAnd 0 (groups.sql dialect r.assigned.length).toList
      = (writtenClauses dialect r.assigned.length s.conditions).map grouped := by
    rw [toList_sql_groups hchecked, cutAtAnd_intercalate]
    · rw [← List.length_pos_iff, length_writtenClauses]
      omega
    · exact balanced_of_mem_writtenClauses hchecked hbalanced _
  refine ⟨groups.sql dialect r.assigned.length, ?_, ?_, ?_⟩
  · rw [r.sql_eq_of_statement h, r.layout_eq_append, Layout.sql_append, Layout.sql_append,
      r.slots_opening, hslots, hwhere, Layout.sql_text_cons, hbinds, Nat.zero_add]
    simp only [String.append_assoc]
  · rw [hcut, List.length_map, length_writtenClauses]
  · intro before c after hconditions bound written
    have hc : c ∈ s.conditions := hconditions ▸ List.mem_append_cons_self
    have hfilled := Clause.filled_layout (hchecked c hc)
    refine ⟨?_, hfilled, hfilled.balanced_sql (hbalanced c hc) dialect bound.length⟩
    rw [hcut, List.getElem?_map, hconditions, getElem?_writtenClauses, Option.map_some,
      ← List.length_append]
    rfl

/-- A scope with an `AND` outside of all parentheses in one clause, and inside of some in
another. -/
def orScope : Scope where
  table := "users"
  conditions := [
    ⟨.raw "age > ? OR (vip AND age > ?)", [.int 18, .int 16]⟩,
    ⟨.column "id" "IN (?)", [.list [.int 1, .int 2]]⟩,
    ⟨.raw "x AND y", []⟩]

/-- What is written of it behind `WHERE`. -/
def orConditions : String :=
  "(age > $1 OR (vip AND age > $2)) AND (\"id\" IN ($3, $4)) AND (x AND y)"

/-- It is cut between the clauses, and nowhere else. -/
theorem orConditions_cut_into_clauses :
    Request.count.statement .postgres orScope
        = .ok ⟨"SELECT COUNT(*) FROM \"users\" WHERE " ++ orConditions,
            [.int 18, .int 16, .int 1, .int 2]⟩ ∧
      2 ≤ orScope.conditions.length ∧
      (∀ c ∈ orScope.conditions, Balanced (c.sql .postgres).toList) ∧
      (cutAtAnd 0 orConditions.toList).length = 3 ∧
      (cutAtAnd 0 orConditions.toList)[1]? = some "(\"id\" IN ($3, $4))".toList ∧
      (cutAtAnd 0 orConditions.toList)[2]? = some "(x AND y)".toList := by
  have hrun : Request.count.statement .postgres orScope
      = .ok ⟨"SELECT COUNT(*) FROM \"users\" WHERE " ++ orConditions,
          [.int 18, .int 16, .int 1, .int 2]⟩ := rfl
  have hbalanced : ∀ c ∈ orScope.conditions, Balanced (c.sql .postgres).toList := by decide
  obtain ⟨text, hsql, hlength, hpieces⟩ := conditions_cut_into_clauses hrun (by decide) hbalanced
  obtain rfl : text = orConditions := by
    have hwritten : "SELECT COUNT(*) FROM \"users\" WHERE " ++ orConditions
        = "SELECT COUNT(*) FROM \"users\" WHERE " ++ text ++ "" := hsql
    rw [String.append_empty] at hwritten
    exact ((String.append_right_inj _).mp hwritten).symm
  exact ⟨hrun, by decide, hbalanced, hlength, (hpieces (orScope.conditions.take 1) _ _ rfl).1,
    (hpieces (orScope.conditions.take 2) _ _ rfl).1⟩

end QueryChain
