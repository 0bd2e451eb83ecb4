/-
# The scope of a chain

Each call of a chain says one of five things: a condition, a term to order by, a relation, a
limit or an offset.  What a chain has asked for in the end is what it said of each, whichever way
its calls were interleaved, so chains that say the same of each end in the same queries.
-/
import QueryChain.Query
import Mathlib.Data.List.Basic
import Mathlib.Data.List.Induction

namespace QueryChain

/-! ## What a call says -/

namespace Refinement

/-- The condition that a call adds. -/
def clause? : Refinement → Option Clause
  | filter clause => some clause
  | order _ | preload _ | limit _ | offset _ => none

/-- The term that a call adds to the order. -/
def order? : Refinement → Option Order
  | order term => some term
  | filter _ | preload _ | limit _ | offset _ => none

/-- The relation that a call asks for. -/
def relation? : Refinement → Option String
  | preload relation => some relation
  | filter _ | order _ | limit _ | offset _ => none

/-- The limit that a call sets. -/
def limit? : Refinement → Option Nat
  | limit rows => some rows
  | filter _ | order _ | preload _ | offset _ => none

/-- The offset that a call sets. -/
def offset? : Refinement → Option Nat
  | offset rows => some rows
  | filter _ | order _ | preload _ | limit _ => none

end Refinement

/-- Two chains that say the same of each kind: the same conditions and terms in order, the same
relations by their first requests, and the same limit and offset last. -/
structure SameRequests (chain chain' : List Refinement) : Prop where
  clauses : chain.filterMap Refinement.clause? = chain'.filterMap Refinement.clause?
  orders : chain.filterMap Refinement.order? = chain'.filterMap Refinement.order?
  relations : (chain.filterMap Refinement.relation?).eraseDups
    = (chain'.filterMap Refinement.relation?).eraseDups
  limit : (chain.filterMap Refinement.limit?).getLast?
    = (chain'.filterMap Refinement.limit?).getLast?
  offset : (chain.filterMap Refinement.offset?).getLast?
    = (chain'.filterMap Refinement.offset?).getLast?

/-! ## First requests -/

/-- One more request is a first request unless the relation was requested before. -/
theorem eraseDups_append_singleton (requests : List String) (relation : String) :
    (requests ++ [relation]).eraseDups
      = if relation ∈ requests then requests.eraseDups else requests.eraseDups ++ [relation] := by
  rw [List.eraseDups_append]
  split
  · rename_i h
    simp [List.removeAll, h]
  · rename_i h
    simp [List.removeAll, h, List.eraseDups_cons]

/-- Without repetitions, requests stand in the order in which they came first. -/
theorem pairwise_idxOf_eraseDups (requests : List String) :
    requests.eraseDups.Pairwise fun a b => requests.idxOf a < requests.idxOf b := by
  induction requests using List.reverseRecOn with
  | nil => simp
  | append_singleton requests relation ih =>
    -- Where a relation came first does not change when another request follows.
    have hkeep : ∀ a ∈ requests.eraseDups,
        (requests ++ [relation]).idxOf a = requests.idxOf a := by
      intro a ha
      exact List.idxOf_append_of_mem (List.mem_eraseDups.mp ha)
    have hbefore : requests.eraseDups.Pairwise fun a b =>
        (requests ++ [relation]).idxOf a < (requests ++ [relation]).idxOf b := by
      refine ih.imp_of_mem fun {a b} ha hb hlt => ?_
      rw [hkeep a ha, hkeep b hb]
      exact hlt
    rw [eraseDups_append_singleton]
    split
    · exact hbefore
    · rename_i hnew
      rw [List.pairwise_append]
      refine ⟨hbefore, List.pairwise_singleton _ _, fun a ha b hb => ?_⟩
      obtain rfl := List.mem_singleton.mp hb
      rw [hkeep a ha, List.idxOf_append_of_notMem hnew]
      have hlt := List.idxOf_lt_length_of_mem (List.mem_eraseDups.mp ha)
      omega

/-- No relation is left twice. -/
theorem nodup_eraseDups (requests : List String) : requests.eraseDups.Nodup := by
  refine (pairwise_idxOf_eraseDups requests).imp ?_
  rintro a b hlt rfl
  exact absurd hlt (Nat.lt_irrefl _)

namespace Scope

/-! ## One call -/

/-- A request for a relation changes nothing else. -/
theorem refine_preload (s : Scope) (relation : String) :
    s.refine (.preload relation) = { s with
      preloads := if relation ∈ s.preloads then s.preloads else s.preloads ++ [relation] } := by
  rw [refine]
  split <;> rfl

variable (s : Scope) (r : Refinement)

/-- A call adds its condition behind those that are there. -/
theorem conditions_refine : (s.refine r).conditions = s.conditions ++ r.clause?.toList := by
  cases r with
  | preload relation => rw [refine_preload]; simp [Refinement.clause?]
  | _ => simp [refine, Refinement.clause?]

/-- A call adds its order behind those that are there. -/
theorem orders_refine : (s.refine r).orders = s.orders ++ r.order?.toList := by
  cases r with
  | preload relation => rw [refine_preload]; simp [Refinement.order?]
  | _ => simp [refine, Refinement.order?]

/-- A call for a limit replaces the one that is there. -/
theorem limit_refine : (s.refine r).limit = r.limit?.or s.limit := by
  cases r with
  | preload relation => rw [refine_preload]; simp [Refinement.limit?]
  | _ => simp [refine, Refinement.limit?]

/-- A call for an offset replaces the one that is there. -/
theorem offset_refine : (s.refine r).offset = r.offset?.or s.offset := by
  cases r with
  | preload relation => rw [refine_preload]; simp [Refinement.offset?]
  | _ => simp [refine, Refinement.offset?]

/-- Relations that came without repetitions still do after one more call. -/
theorem preloads_refine {requests : List String} (h : s.preloads = requests.eraseDups) :
    (s.refine r).preloads = (requests ++ r.relation?.toList).eraseDups := by
  cases r with
  | preload relation =>
    rw [refine_preload, Refinement.relation?, Option.toList_some, eraseDups_append_singleton, h]
    simp [List.mem_eraseDups]
  | _ => simpa [refine, Refinement.relation?] using h

/-! ## A whole chain -/

section

variable {α : Type} {said : Refinement → Option α}

/-- What every call adds at the end is all there in the end, in the order of the calls. -/
theorem collected_refineAll {view : Scope → List α}
    (hstep : ∀ s r, view (s.refine r) = view s ++ (said r).toList) (s : Scope)
    (chain : List Refinement) : view (s.refineAll chain) = view s ++ chain.filterMap said := by
  induction chain generalizing s with
  | nil => simp [refineAll]
  | cons r rest ih =>
    have htail : view (s.refineAll (r :: rest)) = view (s.refine r) ++ rest.filterMap said :=
      ih (s.refine r)
    rw [htail, hstep, List.append_assoc, List.filterMap_cons]
    cases said r <;> rfl

/-- Of what every call replaces, the last one is there in the end. -/
theorem last_refineAll {view : Scope → Option α}
    (hstep : ∀ s r, view (s.refine r) = (said r).or (view s)) (s : Scope)
    (chain : List Refinement) :
    view (s.refineAll chain) = (chain.filterMap said).getLast?.or (view s) := by
  induction chain generalizing s with
  | nil => simp [refineAll]
  | cons r rest ih =>
    have htail : view (s.refineAll (r :: rest))
        = (rest.filterMap said).getLast?.or (view (s.refine r)) := ih (s.refine r)
    rw [htail, hstep, List.filterMap_cons]
    cases said r with
    | none => rfl
    | some a =>
      show _ = (a :: rest.filterMap said).getLast?.or (view s)
      rw [List.getLast?_cons]
      cases (rest.filterMap said).getLast? <;> rfl

end

/-- The last call of a chain refines what the others have asked for. -/
theorem refineAll_append_singleton (s : Scope) (chain : List Refinement) (r : Refinement) :
    s.refineAll (chain ++ [r]) = (s.refineAll chain).refine r := by
  rw [refineAll, List.foldl_append]
  rfl

/-- The relations of a chain are there without repetitions, by their first requests. -/
theorem preloads_refineAll (table : String) (chain : List Refinement) :
    ((ofTable table).refineAll chain).preloads
      = (chain.filterMap Refinement.relation?).eraseDups := by
  -- The last call is taken off, because a relation is only added if none before requested it.
  induction chain using List.reverseRecOn with
  | nil => rfl
  | append_singleton chain r ih =>
    have hone : [r].filterMap Refinement.relation? = r.relation?.toList := by
      cases h : r.relation? <;> simp [h]
    rw [refineAll_append_singleton, preloads_refine _ r ih, List.filterMap_append, hone]

/-- No call of a chain changes the table. -/
theorem table_refineAll (s : Scope) (chain : List Refinement) :
    (s.refineAll chain).table = s.table := by
  induction chain generalizing s with
  | nil => rfl
  | cons r rest ih => exact (ih (s.refine r)).trans (s.table_refine r)

/-- The scope of a chain on a table, part by part. -/
theorem refineAll_ofTable (table : String) (chain : List Refinement) :
    (ofTable table).refineAll chain = {
      table
      conditions := chain.filterMap Refinement.clause?
      orders := chain.filterMap Refinement.order?
      preloads := (chain.filterMap Refinement.relation?).eraseDups
      limit := (chain.filterMap Refinement.limit?).getLast?
      offset := (chain.filterMap Refinement.offset?).getLast? } := by
  have htable := table_refineAll (ofTable table) chain
  have hconditions := collected_refineAll conditions_refine (ofTable table) chain
  have horders := collected_refineAll orders_refine (ofTable table) chain
  have hpreloads := preloads_refineAll table chain
  have hlimit := last_refineAll limit_refine (ofTable table) chain
  have hoffset := last_refineAll offset_refine (ofTable table) chain
  generalize (ofTable table).refineAll chain = s at *
  cases s
  simp_all [ofTable]

end Scope

/-! ## Main statement -/

/-- **What a chain asks for.** The scope of a chain has the table unchanged, every condition and
every term in the order of the calls, each relation once and where it was first requested, and
the last limit and offset.  So chains that say the same of each kind, however their calls are
interleaved, have one scope, and every query on it goes the same way. -/
theorem chain_determines_scope (table : String) (chain : List Refinement) :
    let requests := chain.filterMap Refinement.relation?
    let s := (Scope.ofTable table).refineAll chain
    (s.table = table ∧
      s.conditions = chain.filterMap Refinement.clause? ∧
      s.orders = chain.filterMap Refinement.order? ∧
      (s.preloads = requests.eraseDups ∧ s.preloads.Nodup ∧
        s.preloads.Pairwise fun a b => requests.idxOf a < requests.idxOf b) ∧
      s.limit = (chain.filterMap Refinement.limit?).getLast? ∧
      s.offset = (chain.filterMap Refinement.offset?).getLast?) ∧
    ∀ chain', SameRequests chain chain' →
      let s' := (Scope.ofTable table).refineAll chain'
      s' = s ∧
      ∀ {ρ μ ε : Type} (e : Executor ρ μ ε) (columns : List String) (decode : ρ → Except String μ)
        (assignments : List (String × Value)),
        find e s' columns decode = find e s columns decode ∧
        first e s' columns decode = first e s columns decode ∧
        count e s' = count e s ∧
        delete e s' = delete e s ∧
        update e s' assignments = update e s assignments := by
  intro requests s
  have hs : s = _ := Scope.refineAll_ofTable table chain
  refine ⟨?_, fun chain' hsame => ?_⟩
  · rw [hs]
    exact ⟨rfl, rfl, rfl, ⟨rfl, nodup_eraseDups requests, pairwise_idxOf_eraseDups requests⟩,
      rfl, rfl⟩
  · intro s'
    have hscope : s' = s := by
      rw [hs, show s' = _ from Scope.refineAll_ofTable table chain', hsame.clauses, hsame.orders,
        hsame.relations, hsame.limit, hsame.offset]
    rw [hscope]
    exact ⟨rfl, fun e columns decode assignments => ⟨rfl, rfl, rfl, rfl, rfl⟩⟩

/-- A chain of calls with two limits and a relation that is requested twice. -/
def mixedChain : List Refinement :=
  [.filter ⟨.column "name" "= ?", [.text "ann"]⟩, .preload "posts", .limit 5,
    .order (.column "id" .descending), .preload "team", .filter ⟨.raw "age > ?", [.int 3]⟩,
    .preload "posts", .limit 7, .offset 10]

/-- A chain that says the same, in another order and with other repetitions. -/
def sortedChain : List Refinement :=
  [.limit 7, .offset 2, .offset 10, .preload "posts", .preload "posts", .preload "team",
    .order (.column "id" .descending), .filter ⟨.column "name" "= ?", [.text "ann"]⟩,
    .filter ⟨.raw "age > ?", [.int 3]⟩]

/-- Both chains have one scope. -/
theorem mixedChain_determines_scope :
    SameRequests mixedChain sortedChain ∧
      (Scope.ofTable "users").refineAll sortedChain
        = (Scope.ofTable "users").refineAll mixedChain ∧
      ((Scope.ofTable "users").refineAll mixedChain).preloads = ["posts", "team"] ∧
      ((Scope.ofTable "users").refineAll mixedChain).limit = some 7 := by
  have hsame : SameRequests mixedChain sortedChain := ⟨rfl, rfl, by decide, rfl, rfl⟩
  exact ⟨hsame, ((chain_determines_scope "users" mixedChain).2 sortedChain hsame).1, rfl, rfl⟩

end QueryChain
