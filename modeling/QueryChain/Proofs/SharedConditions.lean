/-
# Statements of one scope mean the same rows

The four statements of a scope share the text of its conditions and their binds, and they are
refused together.  An update only counts its placeholders further, since its assignments are
bound before.
-/
import QueryChain.Proofs.Drafting

namespace QueryChain

/-! ## The text of the conditions -/

/-- The text of the conditions, numbered from one and then raised by `raised`. -/
def conditionsText (dialect : Dialect) (clauses : List Clause) (raised : Nat) : String :=
  Layout.print (numberedPlaceholder dialect)
    ((Layout.number 0 (whereLayout dialect clauses)).map
      (Piece.map (Prod.map (· + raised) id)))

/-- The binds of the conditions. -/
def conditionsBinds (dialect : Dialect) (clauses : List Clause) : List Value :=
  (whereLayout dialect clauses).slots

/-- Behind other binds, the conditions are written with higher numbers. -/
theorem sql_whereLayout (dialect : Dialect) (clauses : List Clause) (taken : Nat) :
    (whereLayout dialect clauses).sql dialect taken = conditionsText dialect clauses taken := by
  rw [conditionsText, ← Layout.number_add, Nat.zero_add, Layout.sql]

/-- Without numbers, every value has the same placeholder. -/
theorem numberedPlaceholder_of_not_isNumbered {dialect : Dialect}
    (h : dialect.isNumbered = false) (p : Nat × Value) : numberedPlaceholder dialect p = "?" := by
  obtain ⟨index, v⟩ := p
  have hplain : dialect.placeholder index = "?" := by rw [Dialect.placeholder, h]; rfl
  cases v <;> simp [numberedPlaceholder, Dialect.numericPlaceholder, h, hplain]

/-- Without numbers, raising them changes nothing. -/
theorem conditionsText_of_not_isNumbered {dialect : Dialect} (h : dialect.isNumbered = false)
    (clauses : List Clause) (raised : Nat) :
    conditionsText dialect clauses raised = conditionsText dialect clauses 0 := by
  unfold conditionsText
  rw [Layout.print_map, Layout.print_map]
  congr 1
  funext p
  rw [Function.comp_apply, Function.comp_apply, numberedPlaceholder_of_not_isNumbered h,
    numberedPlaceholder_of_not_isNumbered h]

/-! ## The four statements -/

/-- The text behind the first words of a statement, up to its last condition. -/
def commonText (dialect : Dialect) (s : Scope) : String :=
  " FROM " ++ dialect.quoteIdent s.table ++ conditionsText dialect s.conditions 0

section

variable (dialect : Dialect) (s : Scope)

/-- With its clauses checked, a statement is the one with its layout. -/
theorem Request.statement_eq_map_of_layout (r : Request) {st : Statement}
    (hcheck : r.check dialect s = checkClauses dialect s.conditions)
    (hst : (r.layout dialect s).statement dialect = st) :
    r.statement dialect s = (checkClauses dialect s.conditions).map fun _ => st := by
  rw [Request.statement_eq_map, hcheck, hst]

/-- A select is the common text between its columns and its order and pagination. -/
theorem select_eq_map (columns : List String) (limit : Option Nat) :
    Statement.select dialect s columns limit
      = (checkClauses dialect s.conditions).map fun _ =>
          ⟨"SELECT " ++ selectedColumns dialect columns ++ commonText dialect s
              ++ orderText dialect s.orders
              ++ paginationText dialect (limit.or s.limit) s.offset,
            conditionsBinds dialect s.conditions⟩ := by
  refine Request.statement_eq_map_of_layout dialect s (.select columns limit) rfl ?_
  simp [Request.layout, Layout.statement, Layout.sql_append, sql_whereLayout, Layout.slots,
    commonText, conditionsBinds, String.append_assoc]

/-- A count is the common text behind its first words. -/
theorem count_eq_map :
    Statement.count dialect s
      = (checkClauses dialect s.conditions).map fun _ =>
          ⟨"SELECT COUNT(*)" ++ commonText dialect s, conditionsBinds dialect s.conditions⟩ := by
  refine Request.statement_eq_map_of_layout dialect s .count rfl ?_
  simp [Request.layout, Layout.statement, sql_whereLayout, Layout.slots, commonText,
    conditionsBinds, ← String.append_assoc]

/-- A delete is the common text behind its first word. -/
theorem delete_eq_map :
    Statement.delete dialect s
      = (checkClauses dialect s.conditions).map fun _ =>
          ⟨"DELETE" ++ commonText dialect s, conditionsBinds dialect s.conditions⟩ := by
  refine Request.statement_eq_map_of_layout dialect s .delete rfl ?_
  simp [Request.layout, Layout.statement, sql_whereLayout, Layout.slots, commonText,
    conditionsBinds, ← String.append_assoc]

/-- The text of assignments. -/
def assignmentsText (assignments : List (String × Value)) : String :=
  (assignmentsLayout dialect assignments).sql dialect 0

/-- An update has the conditions of the others, counted on from the assigned values. -/
theorem update_eq_map (first : String × Value) (rest : List (String × Value)) :
    Statement.update dialect s (first :: rest)
      = (checkClauses dialect s.conditions).map fun _ =>
          let assigned := (first :: rest).flatMap (·.2.leaves)
          ⟨"UPDATE " ++ dialect.quoteIdent s.table ++ " SET "
              ++ assignmentsText dialect (first :: rest)
              ++ conditionsText dialect s.conditions assigned.length,
            assigned ++ conditionsBinds dialect s.conditions⟩ := by
  refine Request.statement_eq_map_of_layout dialect s (.update (first :: rest)) rfl ?_
  have hslots := slots_assignmentsLayout dialect (first :: rest)
  -- The assignments stand first, so the conditions are numbered behind their slots.
  simp only [Request.layout, Layout.statement, List.cons_append, Layout.sql_text_cons,
    Layout.sql_append, sql_whereLayout, Layout.slots, Layout.slots_append, hslots, Nat.zero_add,
    conditionsBinds, assignmentsText, String.append_assoc]

/-- Clauses that are refused are refused by every statement. -/
theorem statements_eq_error {error : RenderError}
    (hcheck : checkClauses dialect s.conditions = .error error) :
    (∀ columns limit, Statement.select dialect s columns limit = .error error) ∧
      Statement.count dialect s = .error error ∧
      Statement.delete dialect s = .error error ∧
      ∀ first rest, Statement.update dialect s (first :: rest) = .error error := by
  refine ⟨fun columns limit => ?_, ?_, ?_, fun first rest => ?_⟩
  · rw [select_eq_map, hcheck]; rfl
  · rw [count_eq_map, hcheck]; rfl
  · rw [delete_eq_map, hcheck]; rfl
  · rw [update_eq_map, hcheck]; rfl

/-- Count, delete and update look at nothing but the table and the conditions. -/
theorem statements_eq_of_conditions {s s' : Scope} (htable : s'.table = s.table)
    (hconditions : s'.conditions = s.conditions) :
    Statement.count dialect s' = Statement.count dialect s ∧
      Statement.delete dialect s' = Statement.delete dialect s ∧
      ∀ assignments,
        Statement.update dialect s' assignments = Statement.update dialect s assignments := by
  have hcommon : commonText dialect s' = commonText dialect s := by
    rw [commonText, commonText, htable, hconditions]
  refine ⟨?_, ?_, fun assignments => ?_⟩
  · rw [count_eq_map, count_eq_map, hcommon, hconditions]
  · rw [delete_eq_map, delete_eq_map, hcommon, hconditions]
  · cases assignments with
    | nil => rfl
    | cons first rest => rw [update_eq_map, update_eq_map, htable, hconditions]

/-- **One scope, the same rows.** Select, count and delete fail together or share the text from
`FROM` to the last condition and all binds; an update of any assignments fails with them or binds
what is assigned first, so that only the numbers in its conditions are higher.  Order, relations
and pagination are of no concern to count, delete and update, and relations to no statement. -/
theorem statements_share_conditions :
    ((∃ error,
        (∀ columns limit, Statement.select dialect s columns limit = .error error) ∧
        Statement.count dialect s = .error error ∧
        Statement.delete dialect s = .error error ∧
        ∀ first rest, Statement.update dialect s (first :: rest) = .error error) ∨
      let common := " FROM " ++ dialect.quoteIdent s.table
        ++ conditionsText dialect s.conditions 0
      let binds := conditionsBinds dialect s.conditions
      (∀ columns limit, Statement.select dialect s columns limit
        = .ok ⟨"SELECT " ++ selectedColumns dialect columns ++ common ++ orderText dialect s.orders
            ++ paginationText dialect (limit.or s.limit) s.offset, binds⟩) ∧
      Statement.count dialect s = .ok ⟨"SELECT COUNT(*)" ++ common, binds⟩ ∧
      Statement.delete dialect s = .ok ⟨"DELETE" ++ common, binds⟩ ∧
      ∀ first rest,
        let assigned := (first :: rest).flatMap (·.2.leaves)
        Statement.update dialect s (first :: rest)
          = .ok ⟨"UPDATE " ++ dialect.quoteIdent s.table ++ " SET "
              ++ assignmentsText dialect (first :: rest)
              ++ conditionsText dialect s.conditions assigned.length, assigned ++ binds⟩) ∧
    (∀ raised, dialect = .postgres ∨
      conditionsText dialect s.conditions raised = conditionsText dialect s.conditions 0) ∧
    (∀ orders preloads limit offset,
      let s' : Scope := { s with orders, preloads, limit, offset }
      Statement.count dialect s' = Statement.count dialect s ∧
      Statement.delete dialect s' = Statement.delete dialect s ∧
      ∀ assignments,
        Statement.update dialect s' assignments = Statement.update dialect s assignments) ∧
    ∀ preloads columns limit,
      Statement.select dialect { s with preloads } columns limit
        = Statement.select dialect s columns limit := by
  refine ⟨?_, ?_, ?_, ?_⟩
  · cases hcheck : checkClauses dialect s.conditions with
    | error error => exact Or.inl ⟨error, statements_eq_error dialect s hcheck⟩
    | ok u =>
      refine Or.inr ⟨fun columns limit => ?_, ?_, ?_, fun first rest => ?_⟩
      · rw [select_eq_map, hcheck]; rfl
      · rw [count_eq_map, hcheck]; rfl
      · rw [delete_eq_map, hcheck]; rfl
      · rw [update_eq_map, hcheck]; rfl
  · intro raised
    cases dialect with
    | postgres => exact Or.inl rfl
    | mysql => exact Or.inr (conditionsText_of_not_isNumbered rfl _ _)
    | sqlite => exact Or.inr (conditionsText_of_not_isNumbered rfl _ _)
  · intro orders preloads limit offset
    exact statements_eq_of_conditions dialect rfl rfl
  · intro preloads columns limit
    rw [select_eq_map, select_eq_map]
    rfl

end

end QueryChain
