/-
# When statements are refused

An update of nothing is refused before anything is written.  Every other statement is refused
exactly if a clause has another number of question marks than of values, and what is reported is the
first such clause.  In all that is left, each value has taken a question mark of its own.
-/
import QueryChain.Proofs.ClauseContext

namespace QueryChain

/-! ## Marks of a clause -/

/-- The number of question marks in the text of a clause. -/
def Clause.marks (dialect : Dialect) (c : Clause) : Nat :=
  (c.sql dialect).toList.count '?'

/-- Clauses are refused exactly for the first of them with another number of marks than of
values. -/
theorem checkClauses_eq_error_iff_marks (dialect : Dialect) (clauses : List Clause)
    (error : RenderError) :
    checkClauses dialect clauses = .error error ↔
      ∃ before c after, clauses = before ++ c :: after ∧
        (∀ b ∈ before, b.marks dialect = b.args.length) ∧
        c.marks dialect ≠ c.args.length ∧
        error = .bindMismatch (c.sql dialect) (c.marks dialect) c.args.length := by
  simp only [checkClauses_eq_error_iff, Clause.check_eq_ok_iff, Clause.check_eq_error_iff,
    Clause.marks]

/-! ## Main statement -/

/-- **When statements are refused.** An update of nothing is refused for that, whatever the clauses
are, and nothing else is.  Any other statement is refused exactly if some clause has another number
of marks than of values, and the error tells the text, the marks and the values of the first such
clause.  If there is none, the statement is written: it binds the leaves of the assigned values and
those of each clause's values in turn, and every clause stands in it with each of its marks filled
by one of its values. -/
theorem refused_for_first_mismatch (dialect : Dialect) (s : Scope) (r : Request) :
    (r.statement dialect s = .error .emptyUpdate ↔ r = .update []) ∧
    (r ≠ .update [] →
      ((∃ error, r.statement dialect s = .error error) ↔
        ∃ c ∈ s.conditions, c.marks dialect ≠ c.args.length) ∧
      (∀ error, r.statement dialect s = .error error ↔
        ∃ before c after, s.conditions = before ++ c :: after ∧
          (∀ b ∈ before, b.marks dialect = b.args.length) ∧
          c.marks dialect ≠ c.args.length ∧
          error = .bindMismatch (c.sql dialect) (c.marks dialect) c.args.length) ∧
      ((∀ c ∈ s.conditions, c.marks dialect = c.args.length) →
        ∃ st, r.statement dialect s = .ok st ∧
          st.binds = r.assigned ++ s.conditions.flatMap Clause.leaves ∧
          ∀ before c after, s.conditions = before ++ c :: after →
            let several := decide (0 < before.length + after.length)
            let bound := r.assigned ++ before.flatMap Clause.leaves
            Filled (c.sql dialect).toList c.args (c.layout dialect) ∧
              st.sql = (r.opening dialect s ++ leadLayout dialect several before).sql dialect 0
                ++ (c.layout dialect).sql dialect bound.length
                ++ (trailLayout dialect several after ++ r.ending dialect s).sql dialect
                    (bound.length + c.leaves.length))) := by
  refine ⟨r.statement_eq_emptyUpdate_iff dialect s, fun hr => ?_⟩
  have hwritten : (∃ st, r.statement dialect s = .ok st) ↔
      ∀ c ∈ s.conditions, c.marks dialect = c.args.length := by
    simp only [r.exists_statement_iff hr, Clause.check_eq_ok_iff, Clause.marks]
  refine ⟨?_, fun error => ?_, fun hall => ?_⟩
  -- What is not written is refused.
  · have hnot : (∃ error, r.statement dialect s = .error error) ↔
        ¬ ∃ st, r.statement dialect s = .ok st := by
      cases r.statement dialect s <;> simp
    rw [hnot, hwritten]
    simp
  · rw [r.statement_eq_error_iff hr, checkClauses_eq_error_iff_marks]
  · obtain ⟨st, hst⟩ := hwritten.mpr hall
    refine ⟨st, hst, (r.binds_eq_leaves hst).trans (r.leaves_eq_append s), ?_⟩
    intro before c after hconditions several bound
    have hc : c.check dialect = .ok () := by
      rw [c.check_eq_ok_iff]
      exact hall c (hconditions ▸ List.mem_append_cons_self)
    exact ⟨Clause.filled_layout hc, (Request.statement_eq_around hst hconditions).2⟩

/-- A clause with one mark and one value. -/
def ageClause : Clause := ⟨.column "age" "= ?", [.int 40]⟩

/-- A clause with two marks. -/
def nameClause (values : List Value) : Clause := ⟨.raw "name = ? OR name = ?", values⟩

/-- A scope with both. -/
def nameScope (values : List Value) : Scope where
  table := "users"
  conditions := [ageClause, nameClause values]

/-- An update with one value. -/
def renameUpdate : Request := .update [("name", .text "Ida")]

/-- With a value too few or too many, the second clause is reported, unless nothing is assigned;
with two of them, both are bound. -/
theorem nameScope_refused_for_mismatch :
    let reported values : RenderError := .bindMismatch "name = ? OR name = ?" 2 values
    Request.statement .postgres (nameScope [.null]) (.update []) = .error .emptyUpdate ∧
      renameUpdate.statement .postgres (nameScope [.null]) = .error (reported 1) ∧
      Request.count.statement .mysql (nameScope [.null, .text "Ada", .null])
        = .error (reported 3) ∧
      (∃ st, renameUpdate.statement .postgres (nameScope [.null, .text "Ada"]) = .ok st ∧
        st.binds = [.text "Ida", .int 40, .text "Ada"]) := by
  intro reported
  have hrenameUpdate : renameUpdate ≠ .update [] := by simp [renameUpdate]
  have hcount : Request.count ≠ .update [] := by simp
  obtain ⟨hempty, -⟩ := refused_for_first_mismatch .postgres (nameScope [.null]) (.update [])
  obtain ⟨-, hfew⟩ := refused_for_first_mismatch .postgres (nameScope [.null]) renameUpdate
  obtain ⟨-, hmany⟩ :=
    refused_for_first_mismatch .mysql (nameScope [.null, .text "Ada", .null]) .count
  obtain ⟨-, hfilled⟩ :=
    refused_for_first_mismatch .postgres (nameScope [.null, .text "Ada"]) renameUpdate
  refine ⟨hempty.mpr rfl, ?_, ?_, ?_⟩
  · exact ((hfew hrenameUpdate).2.1 _).mpr
      ⟨[ageClause], nameClause [.null], [], rfl, by decide, by decide, rfl⟩
  · exact ((hmany hcount).2.1 _).mpr
      ⟨[ageClause], nameClause [.null, .text "Ada", .null], [], rfl, by decide, by decide, rfl⟩
  · obtain ⟨st, hst, hbinds, -⟩ := (hfilled hrenameUpdate).2.2 (by decide)
    exact ⟨st, hst, hbinds⟩

end QueryChain
