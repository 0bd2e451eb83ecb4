/-
# Clauses in their statements

A clause by itself, with each of its marks filled by one value, and a statement seen from one of its
clauses: what is written and bound before it, the clause itself, and what is written and bound
behind it.
-/
import QueryChain.Proofs.Binds

namespace QueryChain

/-! ## A clause by itself -/

/-- A text with its marks filled: each mark takes the next value, and in the end no value is left.
The third argument is the layout that comes of it. -/
inductive Filled : List Char → List Value → Layout Value → Prop
  /-- Text without a mark takes no value. -/
  | text {part : List Char} (h : '?' ∉ part) : Filled part [] [.text (String.ofList part)]
  /-- The first mark takes the first value. -/
  | mark {part rest : List Char} {v : Value} {args : List Value} {l : Layout Value}
      (h : '?' ∉ part) (hrest : Filled rest args l) :
      Filled (part ++ '?' :: rest) (v :: args) (.text (String.ofList part) :: (v.layout ++ l))

/-- Any other character in front belongs to the text before the first mark. -/
theorem Filled.cons {c : Char} (hc : c ≠ '?') {part text : List Char} {args : List Value}
    {l : Layout Value} (h : Filled text args (.text (String.ofList part) :: l)) :
    Filled (c :: text) args (.text (String.ofList (c :: part)) :: l) := by
  generalize hfirst : Piece.text (String.ofList part) :: l = filled at h
  cases h with
  | text hpart =>
    obtain ⟨htext, rfl⟩ := List.cons.inj hfirst
    obtain rfl := String.ofList_injective (Piece.text.inj htext)
    exact .text (List.not_mem_cons_of_ne_of_not_mem hc.symm hpart)
  | mark hpart hrest =>
    obtain ⟨htext, rfl⟩ := List.cons.inj hfirst
    obtain rfl := String.ofList_injective (Piece.text.inj htext)
    exact .mark (List.not_mem_cons_of_ne_of_not_mem hc.symm hpart) hrest

/-- A text with as many values as marks is filled with them. -/
theorem filled_fillMarks {text : List Char} {args : List Value}
    (h : text.count '?' = args.length) :
    Filled text args (fillMarks (splitAtMarks (· == '?') text) (args.map Value.layout)) := by
  induction text generalizing args with
  | nil =>
    obtain rfl : args = [] := List.length_eq_zero_iff.mp h.symm
    exact .text List.not_mem_nil
  | cons c rest ih =>
    obtain ⟨part, parts, hsplit⟩ :=
      List.exists_cons_of_ne_nil (splitAtMarks_ne_nil (· == '?') rest)
    by_cases hc : c = '?'
    · subst hc
      cases args with
      | nil => simp at h
      | cons v args =>
        have hcount : rest.count '?' = args.length := by simpa using h
        have hfilled := ih hcount
        rw [hsplit] at hfilled
        simpa [splitAtMarks, hsplit, fillMarks] using Filled.mark List.not_mem_nil hfilled
    · have hcount : rest.count '?' = args.length := by
        rwa [List.count_cons_of_ne hc] at h
      have hfilled := ih hcount
      rw [hsplit] at hfilled
      have hcut : splitAtMarks (· == '?') (c :: rest) = (c :: part) :: parts := by
        simp [splitAtMarks, hsplit, hc]
      rw [hcut]
      -- The first part stands first in the layout, whether a mark follows it or not.
      cases parts with
      | nil => exact hfilled.cons hc
      | cons next parts => cases args <;> exact hfilled.cons hc

/-- A clause that can be written has each of its marks filled. -/
theorem Clause.filled_layout {dialect : Dialect} {c : Clause} (h : c.check dialect = .ok ()) :
    Filled (c.sql dialect).toList c.args (c.layout dialect) :=
  filled_fillMarks ((c.check_eq_ok_iff dialect).mp h)

/-! ## Among other clauses -/

/-- A separated list, seen from one of its parts. -/
theorem intercalate_append_cons {α : Type} (sep : List α) (before : List (List α)) (part : List α)
    (after : List (List α)) :
    sep.intercalate (before ++ part :: after)
      = before.flatMap (· ++ sep) ++ part ++ after.flatMap (sep ++ ·) := by
  induction before with
  | nil => exact intercalate_cons sep part after
  | cons first rest ih =>
    rw [List.cons_append, List.intercalate_cons_of_ne_nil (by simp), ih, List.flatMap_cons]
    simp only [List.append_assoc]

section

variable (dialect : Dialect) (several : Bool)

/-- What stands before a clause from `WHERE` on: the clauses before it as a whole, and its
parenthesis if there are others. -/
def leadLayout (before : List Clause) : Layout Value :=
  .text " WHERE " ::
    before.flatMap (fun c => c.groupLayout dialect several ++ [.text " AND "])
      ++ (if several then [.text "("] else [])

/-- What stands behind a clause: its parenthesis if there are others, and the clauses behind it. -/
def trailLayout (after : List Clause) : Layout Value :=
  (if several then [.text ")"] else [])
    ++ after.flatMap (fun c => .text " AND " :: c.groupLayout dialect several)

end

/-- The conditions, seen from one of their clauses. -/
theorem whereLayout_append_cons (dialect : Dialect) (before : List Clause) (c : Clause)
    (after : List Clause) :
    let several := decide (0 < before.length + after.length)
    whereLayout dialect (before ++ c :: after)
      = leadLayout dialect several before
          ++ (c.layout dialect ++ trailLayout dialect several after) := by
  intro several
  have hseveral : decide (1 < (before ++ c :: after).length) = several := by
    simp only [several, List.length_append, List.length_cons, decide_eq_decide]
    omega
  have hsome : (before ++ c :: after).isEmpty = false := by simp
  have hgroup : c.groupLayout dialect several
      = (if several then [.text "("] else [])
          ++ (c.layout dialect ++ if several then [.text ")"] else []) := by
    cases several <;> simp [Clause.groupLayout]
  rw [whereLayout, hsome, hseveral, List.map_append, List.map_cons, intercalate_append_cons,
    List.flatMap_map, List.flatMap_map, hgroup, leadLayout, trailLayout]
  simp

/-- The slots before a clause hold the leaves of the clauses before it. -/
theorem slots_leadLayout {dialect : Dialect} {before : List Clause}
    (h : ∀ c ∈ before, c.check dialect = .ok ()) (several : Bool) :
    (leadLayout dialect several before).slots = before.flatMap Clause.leaves := by
  have hclauses : Layout.slots (before.flatMap fun c =>
      c.groupLayout dialect several ++ [.text " AND "]) = before.flatMap Clause.leaves := by
    induction before with
    | nil => rfl
    | cons c rest ih =>
      rw [List.forall_mem_cons] at h
      rw [List.flatMap_cons, Layout.slots_append, ih h.2, Layout.slots_append,
        Clause.slots_groupLayout, Clause.slots_layout h.1, List.flatMap_cons, Layout.slots,
        Layout.slots, List.append_nil]
  have hparen : Layout.slots (if several then [.text "("] else [] : Layout Value) = [] := by
    cases several <;> rfl
  rw [leadLayout, List.cons_append, Layout.slots, Layout.slots_append, hclauses, hparen,
    List.append_nil]

/-! ## In a statement -/

namespace Request

section

variable (dialect : Dialect) (s : Scope)

/-- What stands before the conditions. -/
def opening : Request → Layout Value
  | select columns _ =>
      [.text ("SELECT " ++ selectedColumns dialect columns ++ " FROM " ++ dialect.quoteIdent s.table)]
  | count => [.text ("SELECT COUNT(*) FROM " ++ dialect.quoteIdent s.table)]
  | delete => [.text ("DELETE FROM " ++ dialect.quoteIdent s.table)]
  | update assignments =>
      .text ("UPDATE " ++ dialect.quoteIdent s.table ++ " SET ")
        :: assignmentsLayout dialect assignments

/-- What stands behind the conditions: order and pagination of the rows that are read. -/
def ending : Request → Layout Value
  | select _ limit =>
      [.text (orderText dialect s.orders),
        .text (paginationText dialect (limit.or s.limit) s.offset)]
  | count | delete | update _ => []

/-- A statement is its conditions between what stands before and behind them. -/
theorem layout_eq_append (r : Request) :
    r.layout dialect s
      = r.opening dialect s ++ (whereLayout dialect s.conditions ++ r.ending dialect s) := by
  cases r <;> simp [layout, opening, ending]

/-- The values that a statement binds before its conditions. -/
def assigned : Request → List Value
  | update assignments => assignments.flatMap (·.2.leaves)
  | select .. | count | delete => []

/-- They are what the slots before the conditions hold. -/
theorem slots_opening (r : Request) : (r.opening dialect s).slots = r.assigned := by
  cases r with
  | update assignments => exact slots_assignmentsLayout dialect assignments
  | _ => rfl

/-- Assigned values are bound before those of the conditions. -/
theorem leaves_eq_append (r : Request) :
    r.leaves s = r.assigned ++ s.conditions.flatMap Clause.leaves := by
  cases r <;> rfl

end

/-- A statement, seen from one of its clauses. -/
theorem statement_eq_around {dialect : Dialect} {s : Scope} {r : Request} {st : Statement}
    (h : r.statement dialect s = .ok st) {before after : List Clause} {c : Clause}
    (hconditions : s.conditions = before ++ c :: after) :
    let several := decide (0 < before.length + after.length)
    let bound := r.assigned ++ before.flatMap Clause.leaves
    st.binds = bound ++ (c.leaves ++ after.flatMap Clause.leaves) ∧
      st.sql = (r.opening dialect s ++ leadLayout dialect several before).sql dialect 0
        ++ (c.layout dialect).sql dialect bound.length
        ++ (trailLayout dialect several after ++ r.ending dialect s).sql dialect
            (bound.length + c.leaves.length) := by
  intro several bound
  have hwritten := check_of_statement h
  rw [hconditions, List.forall_mem_append, List.forall_mem_cons] at hwritten
  obtain ⟨hbefore, hc, -⟩ := hwritten
  have hbound : (r.opening dialect s ++ leadLayout dialect several before).slots = bound := by
    rw [Layout.slots_append, slots_opening, slots_leadLayout hbefore]
  constructor
  · rw [binds_eq_leaves h, leaves_eq_append, hconditions, List.flatMap_append, List.flatMap_cons,
      ← List.append_assoc]
  · have hlayout : r.layout dialect s = (r.opening dialect s ++ leadLayout dialect several before)
        ++ (c.layout dialect ++ (trailLayout dialect several after ++ r.ending dialect s)) := by
      rw [layout_eq_append, hconditions, whereLayout_append_cons]
      simp only [several, List.append_assoc]
    rw [sql_eq_of_statement h, hlayout,
      Layout.sql_append dialect 0 (r.opening dialect s ++ leadLayout dialect several before), hbound,
      Nat.zero_add, Layout.sql_append dialect bound.length (c.layout dialect),
      Clause.slots_layout hc, ← String.append_assoc]

end Request

end QueryChain
