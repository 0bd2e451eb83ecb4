/-
# One row as the first of all

The first row can be asked for in two ways: as the only one, whatever limit there is, or as the
first of all rows behind a limit of one.  Both write the same statement, ask the executor for the
same things and fail in the same way, also if the executor does not keep to the limit.  A chain may
set limits before; for the first row, they do not matter.
-/
import QueryChain.Builder.Call
import QueryChain.Proofs.GeneratedFilters
import QueryChain.Proofs.QueryOutcomes

namespace QueryChain

/-! ## Limits -/

/-- A scope with no limit. -/
def Scope.unlimited (s : Scope) : Scope := { s with limit := none }

/-- Without a limit, a call that sets one is lost, and every other call is kept. -/
theorem Scope.unlimited_refine (s : Scope) (r : Refinement) :
    (s.refine r).unlimited = if r.limit?.isNone then s.unlimited.refine r else s.unlimited := by
  cases r with
  | preload relation =>
    rw [refine_preload, refine_preload]
    rfl
  | _ => rfl

/-- So a chain comes to its calls that set no limit. -/
theorem Scope.unlimited_refineAll (s : Scope) (chain : List Refinement) :
    (s.refineAll chain).unlimited
      = s.unlimited.refineAll (chain.filter (·.limit?.isNone)) := by
  induction chain generalizing s with
  | nil => rfl
  | cons r rest ih =>
    have htail : (s.refineAll (r :: rest)).unlimited
        = (s.refine r).unlimited.refineAll (rest.filter (·.limit?.isNone)) := ih (s.refine r)
    rw [htail, unlimited_refine, List.filter_cons]
    split <;> rfl

/-- A limit that is given to a statement is as good as one that is set in the scope. -/
theorem Statement.select_refine_limit (dialect : Dialect) (s : Scope) (columns : List String)
    (rows : Nat) :
    select dialect (s.refine (.limit rows)) columns none = select dialect s columns (some rows) :=
  rfl

/-! ## Answers -/

section

variable {ρ μ ε α : Type} (e : Executor ρ μ ε) (s : Scope)

/-- A query that answers from the models does what the query for all of them does. -/
theorem readRows_eq_bind (decode : ρ → Except String μ)
    (answer : List μ → Except (QueryError ε) α) (written : Except RenderError Statement) :
    let all := readRows e s decode .ok written
    readRows e s decode answer written = ⟨all.calls, all.events, all.result.bind answer⟩ := by
  intro all
  have hbehind : readRows e s decode answer written
      = all.andThen fun models => .ofExcept (answer models) := by
    unfold all readRows
    rw [Run.andThen_assoc]
    congr 1
    funext statement
    exact congrArg (Run.andThen · _) (Run.andThen_done _).symm
  rw [hbehind, Run.andThen_ofExcept]

/-- The first row is the first of all rows behind a limit of one. -/
theorem first_eq_bind (columns : List String) (decode : ρ → Except String μ) :
    let all := find e (s.refine (.limit 1)) columns decode
    first e s columns decode = ⟨all.calls, all.events, all.result.bind firstModel⟩ := by
  intro all
  have hall : all = readRows e s decode .ok (Statement.select e.dialect s columns (some 1)) :=
    find_eq_readRows e (s.refine (.limit 1)) columns decode
  rw [first_eq_readRows, hall]
  exact readRows_eq_bind e s decode firstModel _

/-- The first row does not depend on the limit of the scope. -/
theorem first_unlimited (columns : List String) (decode : ρ → Except String μ) :
    first e s.unlimited columns decode = first e s columns decode := rfl

end

/-! ## Main statement -/

/-- **The first row is the first of all.** Behind any chain of calls, the statement for one row is
the one for all rows behind a further limit of one.  Both queries make the same calls, those that
load relations into so many rows included, and report the same events.  When all rows fail, one row
fails with the same error; when there are none, it is not found; and otherwise it is the first of
them. Chains that differ in their limits only have the same query for one row. -/
theorem one_eq_first_of_limited {ρ μ ε : Type} (m : Model) (e : Executor ρ μ ε)
    (decode : ρ → Except String μ) (s : Scope) (chain : List Refinement) :
    let one := m.one e (s.refineAll chain) decode
    let all := m.all e (s.refineAll (chain ++ [.limit 1])) decode
    Statement.select e.dialect (s.refineAll chain) m.columns (some 1)
        = Statement.select e.dialect (s.refineAll (chain ++ [.limit 1])) m.columns none ∧
      one.calls = all.calls ∧
      one.events = all.events ∧
      (∀ error, all.result = .error error → one.result = .error error) ∧
      (all.result = .ok [] → one.result = .error .recordNotFound) ∧
      (∀ model models, all.result = .ok (model :: models) → one.result = .ok model) ∧
      ∀ chain', chain'.filter (·.limit?.isNone) = chain.filter (·.limit?.isNone) →
        m.one e (s.refineAll chain') decode = one := by
  intro one all
  have hone : one = ⟨all.calls, all.events, all.result.bind firstModel⟩ := by
    simp only [one, all, Model.one, Model.all, Scope.refineAll_append_singleton]
    exact first_eq_bind e _ m.columns decode
  have hlimits : ∀ chain', chain'.filter (·.limit?.isNone) = chain.filter (·.limit?.isNone) →
      m.one e (s.refineAll chain') decode = one := by
    intro chain' hchain
    show first e (s.refineAll chain') m.columns decode
      = first e (s.refineAll chain) m.columns decode
    rw [← first_unlimited, Scope.unlimited_refineAll, hchain, ← Scope.unlimited_refineAll,
      first_unlimited]
  refine ⟨?_, by rw [hone], by rw [hone], fun error h => ?_, fun h => ?_, fun model models h => ?_,
    hlimits⟩
  · rw [Scope.refineAll_append_singleton, Statement.select_refine_limit]
  · rw [hone, h]
    rfl
  · rw [hone, h]
    rfl
  · rw [hone, h]
    rfl

/-- An executor that reads the same rows whatever it is asked for, and counts every relation that it
loads into a row. -/
def sameRows (rows : List Nat) : Executor Nat Nat String where
  dialect := .postgres
  fetchAll := fun _ => .ok rows
  fetchCount := fun _ => .ok rows.length
  execute := fun _ => .ok 0
  preload? := some fun _ models => .ok ⟨models.map (· + 1), List.length_map _⟩

/-- Rows up to nine can be decoded. -/
def decodeDigit (row : Nat) : Except String Nat :=
  if row ≤ 9 then .ok row else .error "no digit"

/-- A chain with a limit of its own. -/
def limitedChain : List Refinement := [.limit 20, .preload "tags", .offset 3]

/-- The same chain with other limits. -/
def relimitedChain : List Refinement := [.preload "tags", .limit 2, .offset 3, .limit 4]

/-- The query for one row of such an executor. -/
def oneAnswer (rows : List Nat) (chain : List Refinement) : Run String Nat :=
  let m := answerModel "sure"
  m.one (sameRows rows) (m.querySet.refineAll chain) decodeDigit

/-- The query for all of them, behind a limit of one. -/
def limitedAnswers (rows : List Nat) : Run String (List Nat) :=
  let m := answerModel "sure"
  m.all (sameRows rows) (m.querySet.refineAll (limitedChain ++ [.limit 1])) decodeDigit

/-- With more rows than were asked for, one row is still the first of all, fails if another one
does, and asks for the relations of all. -/
theorem oneAnswer_first_of_limited :
    ((limitedAnswers [7, 12]).result = .error (.decode "no digit") ∧
        (oneAnswer [7, 12] limitedChain).result = .error (.decode "no digit")) ∧
      ((limitedAnswers []).result = .ok [] ∧
        (oneAnswer [] limitedChain).result = .error .recordNotFound) ∧
      ((limitedAnswers [7, 8]).result = .ok [8, 9] ∧
        (oneAnswer [7, 8] limitedChain).result = .ok 8) ∧
      (oneAnswer [7, 8] limitedChain).calls
        = [.fetchAll ⟨"SELECT \"sure\" FROM \"answer\" LIMIT 1 OFFSET 3", []⟩,
            .preload "tags" 2] ∧
      relimitedChain.filter (·.limit?.isNone) = limitedChain.filter (·.limit?.isNone) ∧
      oneAnswer [7, 8] relimitedChain = oneAnswer [7, 8] limitedChain := by
  let m := answerModel "sure"
  obtain ⟨-, -, -, herror, -⟩ :=
    one_eq_first_of_limited m (sameRows [7, 12]) decodeDigit m.querySet limitedChain
  obtain ⟨-, -, -, -, hempty, -⟩ :=
    one_eq_first_of_limited m (sameRows []) decodeDigit m.querySet limitedChain
  obtain ⟨-, hsame, -, -, -, hfirst, hlimits⟩ :=
    one_eq_first_of_limited m (sameRows [7, 8]) decodeDigit m.querySet limitedChain
  have hundecoded : (limitedAnswers [7, 12]).result = .error (.decode "no digit") := rfl
  have hnone : (limitedAnswers []).result = .ok [] := rfl
  have hsome : (limitedAnswers [7, 8]).result = .ok [8, 9] := rfl
  have hcalls : (limitedAnswers [7, 8]).calls
      = [.fetchAll ⟨"SELECT \"sure\" FROM \"answer\" LIMIT 1 OFFSET 3", []⟩,
          .preload "tags" 2] := rfl
  have hchains :
      relimitedChain.filter (·.limit?.isNone) = limitedChain.filter (·.limit?.isNone) := rfl
  exact ⟨⟨hundecoded, herror _ hundecoded⟩, ⟨hnone, hempty hnone⟩, ⟨hsome, hfirst 8 [9] hsome⟩,
    Eq.trans hsame hcalls, hchains, hlimits relimitedChain hchains⟩

end QueryChain
