/-
# How queries end

A query is written as a statement, put to the executor once, and answered.  Here the ways in
which it can end are listed: what the executor is asked, what is reported, and what the result
is.  Each query ends in one of them, and in no other way.
-/
import QueryChain.Query
import QueryChain.Proofs.FirstFailure

namespace QueryChain

variable {ρ μ ε α β : Type}

/-! ## Runs behind others -/

/-- A run behind what was asked and reported before. -/
def Run.behind (calls : List Call) (events : List Event) (r : Run ε α) : Run ε α :=
  ⟨calls ++ r.calls, events ++ r.events, r.result⟩

/-- What follows a success happens behind it. -/
theorem Run.andThen_ok (calls : List Call) (events : List Event) (a : α) (next : α → Run ε β) :
    andThen ⟨calls, events, .ok a⟩ next = (next a).behind calls events := rfl

/-- Nothing follows a failure. -/
theorem Run.andThen_error (calls : List Call) (events : List Event) (error : QueryError ε)
    (next : α → Run ε β) :
    andThen ⟨calls, events, .error error⟩ next = ⟨calls, events, .error error⟩ := rfl

/-- What is done with the result of a run that comes behind something comes behind it as well. -/
theorem Run.andThen_behind (calls : List Call) (events : List Event) (r : Run ε α)
    (next : α → Run ε β) :
    (r.behind calls events).andThen next = (r.andThen next).behind calls events := by
  obtain ⟨_, _, result⟩ := r
  cases result with
  | error error => rfl
  | ok a => simp only [behind, andThen, List.append_assoc]

/-- A run that is done with its result adds nothing. -/
theorem Run.andThen_done (r : Run ε α) : r.andThen done = r := by
  obtain ⟨calls, events, result⟩ := r
  cases result with
  | error error => rfl
  | ok a => simp only [andThen, done, List.append_nil]

/-- Nor does one that only takes an answer from its result. -/
theorem Run.andThen_ofExcept (r : Run ε α) (answer : α → Except (QueryError ε) β) :
    (r.andThen fun a => ofExcept (answer a)) = ⟨r.calls, r.events, r.result.bind answer⟩ := by
  obtain ⟨calls, events, result⟩ := r
  cases result with
  | error error => rfl
  | ok a => simp only [andThen, ofExcept, List.append_nil, Except.bind]

/-- Of three runs one behind the other, the last two are one run behind the first. -/
theorem Run.andThen_assoc {γ : Type} (r : Run ε α) (next : α → Run ε β) (last : β → Run ε γ) :
    (r.andThen next).andThen last = r.andThen fun a => (next a).andThen last := by
  obtain ⟨calls, events, result⟩ := r
  cases result with
  | error error => rfl
  | ok a =>
    rw [andThen_ok, andThen_ok]
    exact andThen_behind calls events (next a) last

/-! ## Decoding -/

section

variable {decode : ρ → Except String μ} {models : List μ}

/-- Rows that can all be decoded give their models in order. -/
theorem decodeAll_of_all_ok {rows : List ρ} (h : rows.map decode = models.map .ok) :
    (decodeAll decode rows : Except (QueryError ε) (List μ)) = .ok models := by
  induction rows generalizing models with
  | nil =>
    rw [List.map_eq_nil_iff.mp h.symm]
    rfl
  | cons row rest ih =>
    cases models with
    | nil => cases h
    | cons model models =>
      obtain ⟨hrow, hrest⟩ := List.cons.inj h
      rw [decodeAll, hrow]
      dsimp only
      rw [ih hrest]
      rfl

/-- The first row that cannot be decoded is reported. -/
theorem decodeAll_of_first_error {before after : List ρ} {row : ρ} {reason : String}
    (h : before.map decode = models.map .ok) (hrow : decode row = .error reason) :
    (decodeAll decode (before ++ row :: after) : Except (QueryError ε) (List μ))
      = .error (.decode reason) := by
  induction before generalizing models with
  | nil => rw [List.nil_append, decodeAll, hrow]
  | cons first before ih =>
    cases models with
    | nil => cases h
    | cons model models =>
      obtain ⟨hfirst, hbefore⟩ := List.cons.inj h
      rw [List.cons_append, decodeAll, hfirst]
      dsimp only
      rw [ih hbefore]
      rfl

end

/-! ## Loading relations -/

namespace Executor

variable (e : Executor ρ μ ε)

/-- Loads a relation into models, which not every executor can do. -/
def preload (models : List μ) (relation : String) : Except (QueryError ε) (List μ) :=
  match e.preload? with
  | none => .error (.unsupportedPreload relation)
  | some preload => (preload relation models).map (·.val)

/-- What an executor is asked for when relations are loaded into so many models.  One that cannot
load any is not asked: there it fails by itself, at the first relation. -/
def preloadCalls (relations : List String) (rows : Nat) : List Call :=
  if e.preload?.isSome then relations.map (.preload · rows) else []

/-- Relations are loaded one after the other. -/
theorem preloadCalls_append (before after : List String) (rows : Nat) :
    e.preloadCalls (before ++ after) rows
      = e.preloadCalls before rows ++ e.preloadCalls after rows := by
  unfold preloadCalls
  split
  · exact List.map_append
  · rfl

variable {e} {models loaded : List μ}

/-- Models are not lost when a relation is loaded. -/
theorem length_of_preload {relation : String} (h : e.preload models relation = .ok loaded) :
    loaded.length = models.length := by
  unfold preload at h
  split at h
  · cases h
  · rename_i preload _
    cases hloaded : preload relation models with
    | error error =>
      rw [hloaded] at h
      cases h
    | ok found =>
      rw [hloaded] at h
      cases h
      exact found.property

/-- Nor when several are. -/
theorem length_of_foldlM_preload {relations : List String}
    (h : relations.foldlM e.preload models = .ok loaded) : loaded.length = models.length := by
  induction relations generalizing models with
  | nil =>
    cases h
    rfl
  | cons relation rest ih =>
    obtain ⟨next, hfirst, hrest⟩ := foldlM_cons_eq_ok_iff.mp h
    exact (ih hrest).trans (length_of_preload hfirst)

end Executor

section

variable (e : Executor ρ μ ε)

/-- One relation is loaded with one call. -/
theorem load_eq (relation : String) (models : List μ) :
    load e relation models
      = ⟨e.preloadCalls [relation] models.length, [], e.preload models relation⟩ := by
  unfold load Executor.preloadCalls Executor.preload
  cases e.preload? with
  | none => rfl
  | some preload => rfl

/-- Each relation is announced and loaded, and then come the others. -/
theorem loadAll_cons (relation : String) (relations : List String) (models : List μ) :
    loadAll e (relation :: relations) models
      = (Run.andThen ⟨e.preloadCalls [relation] models.length, [.preloading relation models.length],
          e.preload models relation⟩ (loadAll e relations)) := by
  rw [loadAll, load_eq]
  cases e.preload models relation <;> rfl

/-- Behind relations that are loaded come the others, with as many models. -/
theorem loadAll_append {before : List String} {models loaded : List μ}
    (h : before.foldlM e.preload models = .ok loaded) (after : List String) :
    loadAll e (before ++ after) models
      = (loadAll e after loaded).behind (e.preloadCalls before models.length)
          (before.map (.preloading · models.length)) := by
  -- On the relations that are left, for the models as they are by then.
  induction before generalizing models with
  | nil =>
    cases h
    simp [Run.behind, Executor.preloadCalls]
  | cons relation rest ih =>
    obtain ⟨next, hfirst, hrest⟩ := foldlM_cons_eq_ok_iff.mp h
    have hlength := Executor.length_of_preload hfirst
    have hcalls : e.preloadCalls (relation :: rest) models.length
        = e.preloadCalls [relation] models.length ++ e.preloadCalls rest models.length :=
      e.preloadCalls_append [relation] rest models.length
    rw [List.cons_append, loadAll_cons, hfirst, Run.andThen_ok, ih hrest, hlength, hcalls]
    simp only [Run.behind, List.append_assoc, List.nil_append, List.map_cons, List.cons_append]

end

/-! ## Queries for rows -/

/-- A query that reads rows and answers from their models. -/
def readRows (e : Executor ρ μ ε) (s : Scope) (decode : ρ → Except String μ)
    (answer : List μ → Except (QueryError ε) α) (written : Except RenderError Statement) : Run ε α :=
  (rendered written).andThen fun statement =>
    (fetch e s decode statement).andThen fun models => .ofExcept (answer models)

/-- The first of some models, which there has to be. -/
def firstModel : List μ → Except (QueryError ε) μ
  | [] => .error .recordNotFound
  | model :: _ => .ok model

/-- All models are found. -/
theorem find_eq_readRows (e : Executor ρ μ ε) (s : Scope) (columns : List String)
    (decode : ρ → Except String μ) :
    find e s columns decode
      = readRows e s decode .ok (Statement.select e.dialect s columns none) := by
  show Run.andThen _ _ = _
  unfold readRows
  congr 1
  funext statement
  exact (Run.andThen_done (fetch e s decode statement)).symm

/-- The first of the models is found. -/
theorem first_eq_readRows (e : Executor ρ μ ε) (s : Scope) (columns : List String)
    (decode : ρ → Except String μ) :
    first e s columns decode
      = readRows e s decode firstModel (Statement.select e.dialect s columns (some 1)) := by
  show Run.andThen _ (fun statement => Run.andThen (fetch e s decode statement) _) = _
  unfold readRows
  congr 1
  funext statement
  congr 1
  funext models
  cases models <;> rfl

section

variable (e : Executor ρ μ ε) (s : Scope) (decode : ρ → Except String μ)

/-- What is reported when a statement reads rows. -/
def reading (statement : Statement) : Event :=
  .running .select statement.sql statement.binds.length

/-- How a query for rows can end. -/
inductive RowsOutcome (answer : List μ → Except (QueryError ε) α) :
    Except RenderError Statement → Run ε α → Prop where
  /-- Nothing can be written, and the executor is not asked. -/
  | unwritten {error : RenderError} :
      RowsOutcome answer (.error error) ⟨[], [], .error (.render error)⟩
  /-- The executor reads no rows. -/
  | unread {statement : Statement} {failure : ε}
      (hrows : e.fetchAll statement = .error failure) :
      RowsOutcome answer (.ok statement)
        ⟨[.fetchAll statement], [reading statement], .error (.backend failure)⟩
  /-- A row cannot be decoded, while those before can.  No relation is loaded. -/
  | undecoded {statement : Statement} {before after : List ρ} {row : ρ} {models : List μ}
      {reason : String}
      (hrows : e.fetchAll statement = .ok (before ++ row :: after))
      (hbefore : before.map decode = models.map .ok) (hrow : decode row = .error reason) :
      RowsOutcome answer (.ok statement)
        ⟨[.fetchAll statement], [reading statement], .error (.decode reason)⟩
  /-- There are no rows, and no relation is loaded. -/
  | empty {statement : Statement} (hrows : e.fetchAll statement = .ok []) :
      RowsOutcome answer (.ok statement)
        ⟨[.fetchAll statement], [reading statement], answer []⟩
  /-- A relation cannot be loaded, while those before it can.  Those behind it are not asked
  for. -/
  | unloaded {statement : Statement} {rows : List ρ} {models loaded : List μ}
      {before after : List String} {relation : String} {error : QueryError ε}
      (hrows : e.fetchAll statement = .ok rows) (hsome : rows ≠ [])
      (hmodels : rows.map decode = models.map .ok)
      (hrelations : s.preloads = before ++ relation :: after)
      (hbefore : before.foldlM e.preload models = .ok loaded)
      (hrelation : e.preload loaded relation = .error error) :
      RowsOutcome answer (.ok statement)
        ⟨.fetchAll statement :: e.preloadCalls (before ++ [relation]) rows.length,
          reading statement :: (before ++ [relation]).map (.preloading · rows.length),
          .error error⟩
  /-- All relations are loaded into the models of all rows, and these are the answer. -/
  | loaded {statement : Statement} {rows : List ρ} {models loaded : List μ}
      (hrows : e.fetchAll statement = .ok rows) (hsome : rows ≠ [])
      (hmodels : rows.map decode = models.map .ok)
      (hloaded : s.preloads.foldlM e.preload models = .ok loaded)
      (hlength : loaded.length = rows.length) :
      RowsOutcome answer (.ok statement)
        ⟨.fetchAll statement :: e.preloadCalls s.preloads rows.length,
          reading statement :: s.preloads.map (.preloading · rows.length), answer loaded⟩

variable {e s decode}

/-- Rows that cannot be read end a query. -/
theorem fetch_of_unread {statement : Statement} {failure : ε}
    (hrows : e.fetchAll statement = .error failure) :
    fetch e s decode statement
      = ⟨[.fetchAll statement], [reading statement], .error (.backend failure)⟩ := by
  unfold fetch
  rw [hrows]
  rfl

/-- Rows that are read are decoded, and the relations are loaded if there are any. -/
theorem fetch_of_read {statement : Statement} {rows : List ρ}
    (hrows : e.fetchAll statement = .ok rows) :
    fetch e s decode statement
      = ((Run.ofExcept (decodeAll decode rows)).andThen fun models =>
          if models.isEmpty then Run.done models else loadAll e s.preloads models).behind
            [.fetchAll statement] [reading statement] := by
  unfold fetch
  rw [hrows]
  rfl

/-- With rows that can all be decoded, loading the relations is what is left. -/
theorem fetch_of_decoded {statement : Statement} {rows : List ρ} {models : List μ}
    (hrows : e.fetchAll statement = .ok rows) (hsome : rows ≠ [])
    (hmodels : rows.map decode = models.map .ok) :
    fetch e s decode statement
      = (loadAll e s.preloads models).behind [.fetchAll statement] [reading statement] := by
  have hfilled : models.isEmpty = false := by
    cases models with
    | nil => exact absurd (List.map_eq_nil_iff.mp hmodels) hsome
    | cons model rest => rfl
  rw [fetch_of_read hrows, decodeAll_of_all_ok hmodels]
  show Run.behind _ _ (Run.behind [] [] (if models.isEmpty then _ else _)) = _
  rw [hfilled]
  rfl

/-- With a statement, a query answers from the models that are fetched. -/
theorem readRows_ok (answer : List μ → Except (QueryError ε) α) (statement : Statement) :
    readRows e s decode answer (.ok statement)
      = (fetch e s decode statement).andThen fun models => .ofExcept (answer models) := rfl

/-- A query ends in the way that is listed for it. -/
theorem RowsOutcome.eq_readRows {answer : List μ → Except (QueryError ε) α}
    {written : Except RenderError Statement} {run : Run ε α}
    (h : RowsOutcome e s decode answer written run) : run = readRows e s decode answer written := by
  cases h with
  | unwritten => rfl
  | unread hrows =>
    rw [readRows_ok, fetch_of_unread hrows]
    rfl
  | undecoded hrows hbefore hrow =>
    rw [readRows_ok, fetch_of_read hrows, decodeAll_of_first_error hbefore hrow]
    rfl
  | empty hrows =>
    rw [readRows_ok, fetch_of_read hrows]
    rfl
  | unloaded hrows hsome hmodels hrelations hbefore hrelation =>
    rw [readRows_ok, fetch_of_decoded hrows hsome hmodels, hrelations, loadAll_append e hbefore,
      loadAll_cons, hrelation, Run.andThen_error, Executor.length_of_foldlM_preload hbefore,
      length_eq_of_map_eq hmodels, e.preloadCalls_append, List.map_append]
    rfl
  | @loaded statement rows models loaded hrows hsome hmodels hloaded hlength =>
    have hall : loadAll e s.preloads models
        = (loadAll e [] loaded).behind (e.preloadCalls s.preloads models.length)
            (s.preloads.map (.preloading · models.length)) := by
      have happend := loadAll_append e hloaded []
      rwa [List.append_nil] at happend
    rw [readRows_ok, fetch_of_decoded hrows hsome hmodels, hall, Run.andThen_behind,
      Run.andThen_behind, loadAll, length_eq_of_map_eq hmodels]
    simp only [Run.behind, Run.done, Run.andThen, Run.ofExcept, List.append_nil,
      List.singleton_append]

variable (e s decode)

/-- Each query ends in one of the ways that are listed. -/
theorem exists_rowsOutcome (answer : List μ → Except (QueryError ε) α)
    (written : Except RenderError Statement) :
    ∃ run, RowsOutcome e s decode answer written run := by
  cases written with
  | error error => exact ⟨_, .unwritten⟩
  | ok statement =>
    cases hrows : e.fetchAll statement with
    | error failure => exact ⟨_, .unread hrows⟩
    | ok rows =>
      by_cases hsome : rows = []
      · subst hsome
        exact ⟨_, .empty hrows⟩
      rcases map_eq_ok_or_first_error decode rows with
        ⟨models, hmodels⟩ | ⟨before, row, after, reason, rfl, ⟨models, hbefore⟩, hrow⟩
      · rcases foldlM_eq_ok_or_first_error e.preload s.preloads models with
          ⟨loaded, hloaded⟩ | ⟨before, relation, after, loaded, error, hrelations, hbefore, herror⟩
        · have hlength : loaded.length = rows.length := by
            rw [Executor.length_of_foldlM_preload hloaded, length_eq_of_map_eq hmodels]
          exact ⟨_, .loaded hrows hsome hmodels hloaded hlength⟩
        · exact ⟨_, .unloaded hrows hsome hmodels hrelations hbefore herror⟩
      · exact ⟨_, .undecoded hrows hbefore hrow⟩

/-- So a query ends exactly in the way that is listed for it. -/
theorem rowsOutcome_iff (answer : List μ → Except (QueryError ε) α)
    (written : Except RenderError Statement) (run : Run ε α) :
    RowsOutcome e s decode answer written run ↔ run = readRows e s decode answer written := by
  refine ⟨RowsOutcome.eq_readRows, ?_⟩
  rintro rfl
  obtain ⟨run, hrun⟩ := exists_rowsOutcome e s decode answer written
  exact hrun.eq_readRows ▸ hrun

end

/-! ## Queries for a number -/

section

variable (report : Statement → List Event) (call : Statement → Call)
  (answer : Statement → Except ε Nat)

/-- A query that asks for a number. -/
def askNumber (written : Except RenderError Statement) : Run ε Nat :=
  (rendered written).andThen fun statement =>
    (Run.ask (call statement) (answer statement)).behind [] (report statement)

/-- A statement is put to the executor once, and its answer is the result. -/
theorem askNumber_ok (statement : Statement) :
    askNumber report call answer (.ok statement)
      = ⟨[call statement], report statement, (answer statement).mapError .backend⟩ := by
  show Run.behind [] [] (Run.behind [] (report statement) (Run.ask _ _)) = _
  simp [Run.behind, Run.ask]

/-- What cannot be written is the result, and the executor is not asked. -/
theorem askNumber_error (error : RenderError) :
    askNumber report call answer (.error error) = ⟨[], [], .error (.render error)⟩ := rfl

/-- How a query for a number can end. -/
inductive NumberOutcome : Except RenderError Statement → Run ε Nat → Prop where
  /-- Nothing can be written, and the executor is not asked. -/
  | unwritten {error : RenderError} :
      NumberOutcome (.error error) ⟨[], [], .error (.render error)⟩
  /-- The executor fails. -/
  | refused {statement : Statement} {failure : ε} (hanswer : answer statement = .error failure) :
      NumberOutcome (.ok statement)
        ⟨[call statement], report statement, .error (.backend failure)⟩
  /-- The executor's number is the answer. -/
  | answered {statement : Statement} {rows : Nat} (hanswer : answer statement = .ok rows) :
      NumberOutcome (.ok statement) ⟨[call statement], report statement, .ok rows⟩

variable {report call answer}

/-- A query for a number ends exactly in the way that is listed for it. -/
theorem numberOutcome_iff (written : Except RenderError Statement) (run : Run ε Nat) :
    NumberOutcome report call answer written run ↔ run = askNumber report call answer written := by
  constructor
  · intro h
    cases h with
    | unwritten => rw [askNumber_error]
    | refused hanswer | answered hanswer =>
      rw [askNumber_ok, hanswer]
      rfl
  · rintro rfl
    cases written with
    | error error => exact .unwritten
    | ok statement =>
      rw [askNumber_ok]
      cases hanswer : answer statement with
      | error failure => exact .refused hanswer
      | ok rows => exact .answered hanswer

/-- A query for a number fails for what cannot be written exactly if that is so; no executor fails in
this way. -/
theorem result_askNumber_eq_render_iff (written : Except RenderError Statement)
    (error : RenderError) :
    (askNumber report call answer written).result = .error (.render error)
      ↔ written = .error error := by
  have hend : NumberOutcome report call answer written (askNumber report call answer written) :=
    (numberOutcome_iff written _).mpr rfl
  generalize askNumber report call answer written = run at hend
  cases hend <;> simp

end

/-- What is reported when a statement changes rows. -/
def changing (kind : StatementKind) (s : Scope) (statement : Statement) : List Event :=
  (if s.isUnfiltered then [.wholeTable kind s.table] else [])
    ++ [.running kind statement.sql statement.binds.length]

/-- What is reported when a statement counts rows. -/
def counting (statement : Statement) : List Event :=
  [.running .count statement.sql statement.binds.length]

/-- Rows are counted. -/
theorem count_eq_askNumber (e : Executor ρ μ ε) (s : Scope) :
    count e s = askNumber counting .fetchCount e.fetchCount (Statement.count e.dialect s) := by
  show Run.andThen _ _ = Run.andThen _ _
  congr 1

/-- A change is one call, announced and with a warning if there are no conditions. -/
theorem change_eq (e : Executor ρ μ ε) (s : Scope) (kind : StatementKind) (statement : Statement) :
    change e s kind statement
      = (Run.ask (.execute statement) (e.execute statement)).behind []
          (changing kind s statement) := by
  unfold change changing
  cases s.isUnfiltered <;> rfl

/-- Rows are deleted. -/
theorem delete_eq_askNumber (e : Executor ρ μ ε) (s : Scope) :
    delete e s
      = askNumber (changing .delete s) .execute e.execute (Statement.delete e.dialect s) := by
  show Run.andThen _ _ = Run.andThen _ _
  congr 1
  funext statement
  exact change_eq e s .delete statement

/-- Rows are updated. -/
theorem update_eq_askNumber (e : Executor ρ μ ε) (s : Scope) (assignments : List (String × Value)) :
    update e s assignments
      = askNumber (changing .update s) .execute e.execute
          (Statement.update e.dialect s assignments) := by
  show Run.andThen _ _ = Run.andThen _ _
  congr 1
  funext statement
  exact change_eq e s .update statement

/-! ## Main statement -/

/-- **How queries end.** Each of the five queries ends in one of the ways that are listed for it,
and what is listed is all that it can do: nothing is asked before the statement is written, the
statement is put to the executor once, and the first thing that fails is the result. -/
theorem queries_end_as_listed (e : Executor ρ μ ε) (s : Scope) (columns : List String)
    (decode : ρ → Except String μ) (assignments : List (String × Value)) :
    (∀ run, RowsOutcome e s decode .ok (Statement.select e.dialect s columns none) run ↔
      run = find e s columns decode) ∧
    (∀ run, RowsOutcome e s decode firstModel (Statement.select e.dialect s columns (some 1)) run ↔
      run = first e s columns decode) ∧
    (∀ run, NumberOutcome counting .fetchCount e.fetchCount (Statement.count e.dialect s) run ↔
      run = count e s) ∧
    (∀ run, NumberOutcome (changing .delete s) .execute e.execute
        (Statement.delete e.dialect s) run ↔ run = delete e s) ∧
    (∀ run, NumberOutcome (changing .update s) .execute e.execute
        (Statement.update e.dialect s assignments) run ↔ run = update e s assignments) := by
  rw [find_eq_readRows, first_eq_readRows, count_eq_askNumber, delete_eq_askNumber,
    update_eq_askNumber]
  exact ⟨rowsOutcome_iff e s decode _ _, rowsOutcome_iff e s decode _ _, numberOutcome_iff _,
    numberOutcome_iff _, numberOutcome_iff _⟩

end QueryChain
