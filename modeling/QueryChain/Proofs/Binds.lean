/-
# The binds of a statement

A statement binds the leaves of its values: those of the assignments first, and then those of
the conditions in order.  A leaf is neither absent nor a list, so a typed connection can only
refuse a leaf for its size.  If it refuses none, the parameters of the query carry the leaves, one
for each, in the same order.
-/
import QueryChain.Binding
import QueryChain.Proofs.Drafting
import QueryChain.Proofs.FirstFailure
import Mathlib.Data.List.Basic
import Mathlib.Data.List.Forall2

namespace QueryChain

/-! ## Leaves -/

mutual

/-- A leaf is one value that is there. -/
theorem Value.single_of_mem_leaves : ∀ v : Value, ∀ leaf ∈ v.leaves,
    leaf.isNull = false ∧ leaf.isList = false
  | .null, leaf, h => by simp [leaves] at h
  | .list items, leaf, h => by
    rw [leaves] at h
    exact single_of_mem_leavesOfAll items leaf h
  | .bool _, _, h | .int _, _, h | .uint _, _, h | .float _, _, h | .text _, _, h
  | .bytes _, _, h | .numeric _, _, h | .uuid _, _, h | .timestamp _, _, h
  | .naiveTimestamp _, _, h | .date _, _, h | .time _, _, h | .offsetDateTime _, _, h
  | .primitiveDateTime _, _, h | .timeDate _, _, h | .timeOfDay _, _, h | .decimal _, _, h => by
    rw [leaves, List.mem_singleton] at h <;> simp [h, isNull, isList]

/-- Likewise for the leaves of a list. -/
theorem Value.single_of_mem_leavesOfAll : ∀ items : List Value, ∀ leaf ∈ Value.leavesOfAll items,
    leaf.isNull = false ∧ leaf.isList = false
  | [], leaf, h => by simp [leavesOfAll] at h
  | v :: rest, leaf, h => by
    rw [leavesOfAll, List.mem_append] at h
    rcases h with h | h
    · exact single_of_mem_leaves v leaf h
    · exact single_of_mem_leavesOfAll rest leaf h

end

/-- Marks filled with as many layouts have the slots of these layouts. -/
theorem Layout.slots_fillMarks {σ : Type} (parts : List (List Char)) (ls : List (Layout σ))
    (h : parts.length = ls.length + 1) : slots (fillMarks parts ls) = ls.flatMap slots := by
  induction parts generalizing ls with
  | nil => simp at h
  | cons part rest ih =>
    cases rest with
    | nil =>
      -- Behind the last part there is no mark, so no layout is left.
      have hnone : ls = [] := by simpa using h
      rw [hnone]
      rfl
    | cons next rest =>
      cases ls with
      | nil => simp at h
      | cons l ls =>
        have hlength : (next :: rest).length = ls.length + 1 := by simpa using h
        rw [fillMarks, List.cons_append, slots, slots_append, ih ls hlength, List.flatMap_cons]

/-! ## Leaves of a request -/

/-- The leaves of a clause's values. -/
def Clause.leaves (c : Clause) : List Value :=
  c.args.flatMap Value.leaves

/-- The leaves of all values that a request on a scope has to bind. -/
def Request.leaves (s : Scope) : Request → List Value
  | .update assignments => assignments.flatMap (·.2.leaves) ++ s.conditions.flatMap Clause.leaves
  | .select .. | .count | .delete => s.conditions.flatMap Clause.leaves

/-- The slots of a clause that can be written hold the leaves of its values. -/
theorem Clause.slots_layout {dialect : Dialect} {c : Clause} (h : c.check dialect = .ok ()) :
    (c.layout dialect).slots = c.leaves := by
  have hmarks := (c.check_eq_ok_iff dialect).mp h
  have hparts : (splitAtMarks (· == '?') (c.sql dialect).toList).length
      = (c.args.map Value.layout).length + 1 := by
    rw [length_splitAtMarks, List.length_map, ← hmarks]
    rfl
  rw [layout, Layout.slots_fillMarks _ _ hparts, List.flatMap_map, leaves]
  congr 1
  funext v
  exact v.slots_layout

/-- Parentheses bind nothing. -/
theorem Clause.slots_groupLayout (dialect : Dialect) (several : Bool) (c : Clause) :
    (c.groupLayout dialect several).slots = (c.layout dialect).slots := by
  cases several with
  | false => rfl
  | true => simp [groupLayout, Layout.slots]

/-- The slots of conditions that can be written hold the leaves of their values. -/
theorem slots_whereLayout {dialect : Dialect} {clauses : List Clause}
    (h : checkClauses dialect clauses = .ok ()) :
    (whereLayout dialect clauses).slots = clauses.flatMap Clause.leaves := by
  rw [checkClauses_eq_ok_iff] at h
  unfold whereLayout
  split
  · rename_i hempty
    rw [List.isEmpty_iff.mp hempty]
    rfl
  · rw [Layout.slots, Layout.slots_intercalate, List.flatMap_map]
    refine List.flatMap_congr fun c hc => ?_
    rw [Clause.slots_groupLayout, Clause.slots_layout (h c hc)]

/-- A statement binds the leaves of its values, in order. -/
theorem Request.binds_eq_leaves {dialect : Dialect} {s : Scope} {r : Request} {st : Statement}
    (h : r.statement dialect s = .ok st) : st.binds = r.leaves s := by
  obtain ⟨hcheck, rfl⟩ := check_and_eq_of_statement h
  show (r.layout dialect s).slots = r.leaves s
  cases r with
  | select columns limit =>
    have hwhere := slots_whereLayout (show checkClauses dialect s.conditions = .ok () from hcheck)
    simp [layout, Layout.slots, hwhere, leaves]
  | count => exact slots_whereLayout hcheck
  | delete => exact slots_whereLayout hcheck
  | update assignments =>
    cases assignments with
    | nil => cases hcheck
    | cons a rest =>
      have hwhere := slots_whereLayout (show checkClauses dialect s.conditions = .ok () from hcheck)
      have hassigned := slots_assignmentsLayout dialect (a :: rest)
      simp only [layout, List.cons_append, Layout.slots, Layout.slots_append, hwhere, hassigned,
        leaves]

/-- So no bind is absent or a list. -/
theorem Request.single_of_mem_binds {dialect : Dialect} {s : Scope} {r : Request} {st : Statement}
    (h : r.statement dialect s = .ok st) :
    ∀ v ∈ st.binds, v.isNull = false ∧ v.isList = false := by
  have hclauses : ∀ v ∈ s.conditions.flatMap Clause.leaves, v.isNull = false ∧ v.isList = false := by
    intro v hv
    obtain ⟨c, -, hc⟩ := List.mem_flatMap.mp hv
    obtain ⟨arg, -, harg⟩ := List.mem_flatMap.mp hc
    exact arg.single_of_mem_leaves v harg
  rw [binds_eq_leaves h]
  intro v hv
  cases r with
  | select columns limit => exact hclauses v hv
  | count => exact hclauses v hv
  | delete => exact hclauses v hv
  | update assignments =>
    rcases List.mem_append.mp hv with hassigned | hconditions
    · obtain ⟨a, -, ha⟩ := List.mem_flatMap.mp hassigned
      exact a.2.single_of_mem_leaves v ha
    · exact hclauses v hconditions

/-! ## Parameters -/

/-- An unsigned number in the signed range becomes a parameter. -/
theorem Value.parameter_uint_of_le {n : UInt64} (h : n.toNat ≤ Int64.maxValue.toInt) :
    (uint n).parameter = .ok (.int n.toInt64) := by
  rw [parameter, if_pos h]

/-- One beyond the signed range becomes none. -/
theorem Value.parameter_uint_of_large {n : UInt64} (h : Int64.maxValue.toInt < n.toNat) :
    (uint n).parameter = .error .tooLarge := by
  rw [parameter, if_neg (Int.not_le.mpr h)]

/-- Any other single value that is there becomes a parameter. -/
theorem Value.tooLarge_of_single {v : Value} (hnull : v.isNull = false) (hlist : v.isList = false)
    {error : BindError} (h : v.parameter = .error error) :
    error = .tooLarge ∧ ∃ n, v = .uint n ∧ Int64.maxValue.toInt < n.toNat := by
  cases v with
  | null => cases hnull
  | list items => cases hlist
  | uint n =>
    by_cases hle : n.toNat ≤ Int64.maxValue.toInt
    · rw [parameter_uint_of_le hle] at h
      cases h
    · have hlarge := Int.lt_of_not_ge hle
      rw [parameter_uint_of_large hlarge] at h
      exact ⟨(Except.error.inj h).symm, n, rfl, hlarge⟩
  | _ => cases h

/-- A parameter carries a value: it is of the kind that a typed connection has for the value, and its
content is the same.  All whole numbers are of one kind, and so are texts and numbers in digits. -/
inductive Value.CarriedBy : Value → BindParameter → Prop
  | bool (b : Bool) : CarriedBy (.bool b) (.bool b)
  | int (n : Int64) : CarriedBy (.int n) (.int n)
  | uint {n : UInt64} {m : Int64} (hsame : m.toInt = n.toNat) : CarriedBy (.uint n) (.int m)
  | float (x : Binary64) : CarriedBy (.float x) (.float x)
  | text (s : String) : CarriedBy (.text s) (.text s)
  | bytes (data : List UInt8) : CarriedBy (.bytes data) (.bytes data)
  | numeric (digits : String) : CarriedBy (.numeric digits) (.text digits)
  | uuid (u : Uuid) : CarriedBy (.uuid u) (.uuid u)
  | timestamp (t : DateTime) : CarriedBy (.timestamp t) (.timestamp t)
  | naiveTimestamp (t : DateTime) : CarriedBy (.naiveTimestamp t) (.naiveTimestamp t)
  | date (d : Date) : CarriedBy (.date d) (.date d)
  | time (c : Clock) : CarriedBy (.time c) (.time c)
  | offsetDateTime (t : ZonedTime) : CarriedBy (.offsetDateTime t) (.offsetDateTime t)
  | primitiveDateTime (t : DateTime) : CarriedBy (.primitiveDateTime t) (.primitiveDateTime t)
  | timeDate (d : Date) : CarriedBy (.timeDate d) (.timeDate d)
  | timeOfDay (c : Clock) : CarriedBy (.timeOfDay c) (.timeOfDay c)
  | decimal (d : Decimal) : CarriedBy (.decimal d) (.decimal d)

/-- The parameter for a value carries it. -/
theorem Value.carriedBy_of_parameter {v : Value} {p : BindParameter} (h : v.parameter = .ok p) :
    v.CarriedBy p := by
  cases v with
  | null | list => cases h
  | uint n =>
    by_cases hle : n.toNat ≤ Int64.maxValue.toInt
    · have hint := parameter_uint_of_le hle
      obtain rfl := Except.ok.inj (hint.symm.trans h)
      exact .uint (toInt_of_parameter_uint hint)
    · rw [parameter_uint_of_large (Int.lt_of_not_ge hle)] at h
      cases h
  | _ =>
    obtain rfl := Except.ok.inj h
    constructor

/-- Nothing else carries the value. -/
theorem Value.CarriedBy.parameter_eq {v : Value} {p : BindParameter} (h : v.CarriedBy p) :
    v.parameter = .ok p := by
  cases h with
  | @uint n m hsame =>
    have hle : n.toNat ≤ Int64.maxValue.toInt := hsame ▸ m.toInt_le
    have hint := parameter_uint_of_le hle
    have hm : n.toInt64 = m := by
      rw [← Int64.toInt_inj, toInt_of_parameter_uint hint, hsame]
    rw [hint, hm]
  | _ => rfl

/-- So values become parameters exactly if these carry them one by one. -/
theorem Value.map_parameter_eq_iff {values : List Value} {parameters : List BindParameter} :
    values.map Value.parameter = parameters.map .ok
      ↔ List.Forall₂ Value.CarriedBy values parameters := by
  have hcarried : (fun (v : Value) p => v.parameter = .ok p) = Value.CarriedBy := by
    funext v p
    exact propext ⟨carriedBy_of_parameter, CarriedBy.parameter_eq⟩
  rw [← List.forall₂_eq_eq_eq, List.forall₂_map_left_iff, List.forall₂_map_right_iff, hcarried]

namespace Client

variable {θ : Type} (client : Client θ)

/-- Values that all become parameters are passed in order. -/
theorem foldlM_bindValue_of_parameters {values : List Value} {parameters : List BindParameter}
    (h : values.map Value.parameter = parameters.map .ok) (start : θ) :
    values.foldlM client.bindValue start = .ok (parameters.foldl client.bind start) := by
  -- On the values that are left; those before are in the query, whatever it is.
  induction values generalizing parameters start with
  | nil =>
    rw [List.map_eq_nil_iff.mp h.symm]
    rfl
  | cons v rest ih =>
    cases parameters with
    | nil => cases h
    | cons p parameters =>
      obtain ⟨hp, htail⟩ := List.cons.inj h
      rw [List.foldlM_cons, bindValue, hp]
      exact ih htail (client.bind start p)

/-- The first value that becomes no parameter is reported. -/
theorem foldlM_bindValue_of_error {before after : List Value} {parameters : List BindParameter}
    (h : before.map Value.parameter = parameters.map .ok) {v : Value} {error : BindError}
    (hv : v.parameter = .error error) (start : θ) :
    (before ++ v :: after).foldlM client.bindValue start = .error error := by
  refine foldlM_append_of_error (client.foldlM_bindValue_of_parameters h start) ?_
  rw [bindValue, hv]
  rfl

/-- The query of a statement is built, unless a number is beyond the signed range; then it is refused
for that number. -/
theorem build_cases {st : Statement}
    (hsingle : ∀ v ∈ st.binds, v.isNull = false ∧ v.isList = false) :
    ((¬ ∃ n, .uint n ∈ st.binds ∧ Int64.maxValue.toInt < n.toNat) ∧
      ∃ parameters, List.Forall₂ Value.CarriedBy st.binds parameters ∧
        client.build st = .ok (parameters.foldl client.bind (client.query st.sql))) ∨
    ((∃ n, .uint n ∈ st.binds ∧ Int64.maxValue.toInt < n.toNat) ∧
      client.build st = .error .tooLarge) := by
  rcases map_eq_ok_or_first_error Value.parameter st.binds with
    ⟨parameters, hall⟩ | ⟨before, v, after, error, hsplit, ⟨parameters, hbefore⟩, herror⟩
  · refine Or.inl ⟨?_, parameters, Value.map_parameter_eq_iff.mp hall,
      client.foldlM_bindValue_of_parameters hall (client.query st.sql)⟩
    rintro ⟨n, hn, hlarge⟩
    obtain ⟨p, hp⟩ := exists_ok_of_map_eq hall hn
    rw [Value.parameter_uint_of_large hlarge] at hp
    cases hp
  · have hmem : v ∈ st.binds := hsplit ▸ List.mem_append_right _ List.mem_cons_self
    obtain ⟨hnull, hlist⟩ := hsingle v hmem
    obtain ⟨rfl, n, rfl, hlarge⟩ := Value.tooLarge_of_single hnull hlist herror
    refine Or.inr ⟨⟨n, hmem, hlarge⟩, ?_⟩
    rw [build, hsplit]
    exact client.foldlM_bindValue_of_error hbefore herror (client.query st.sql)

end Client

/-! ## Main statement -/

/-- **Every statement can be bound.** No bind of a statement is absent or a list, so a typed
connection refuses a bind only for being too large.  The query is built exactly if no bind is an
unsigned number beyond the signed range.  Then it is the text of the statement with parameters that
carry the binds, one for each, in their order, and no other query is built. -/
theorem binds_pass_unless_too_large {dialect : Dialect} {s : Scope} {r : Request} {st : Statement}
    (h : r.statement dialect s = .ok st) {θ : Type} (client : Client θ) :
    (∀ v ∈ st.binds, v.isNull = false ∧ v.isList = false) ∧
    (∀ query, ∀ v ∈ st.binds, ∀ error,
      client.bindValue query v = .error error → error = .tooLarge) ∧
    (∀ error, client.build st = .error error → error = .tooLarge) ∧
    ((∃ query, client.build st = .ok query) ↔
      ¬ ∃ n, .uint n ∈ st.binds ∧ Int64.maxValue.toInt < n.toNat) ∧
    ∀ query, client.build st = .ok query ↔
      ∃ parameters, List.Forall₂ Value.CarriedBy st.binds parameters ∧
        query = parameters.foldl client.bind (client.query st.sql) := by
  have hsingle := Request.single_of_mem_binds h
  refine ⟨hsingle, fun query v hv error herror => ?_, ?_⟩
  · obtain ⟨hnull, hlist⟩ := hsingle v hv
    cases hp : v.parameter with
    | ok p =>
      rw [Client.bindValue, hp] at herror
      cases herror
    | error e =>
      rw [Client.bindValue, hp] at herror
      obtain rfl := Except.error.inj herror
      exact (Value.tooLarge_of_single hnull hlist hp).1
  · rcases client.build_cases hsingle with ⟨hfits, parameters, hcarried, hbuild⟩ | ⟨hlarge, hbuild⟩
    · refine ⟨fun error herror => ?_, iff_of_true ⟨_, hbuild⟩ hfits, fun query => ⟨?_, ?_⟩⟩
      · rw [hbuild] at herror
        cases herror
      · intro hquery
        exact ⟨parameters, hcarried, Except.ok.inj (hquery.symm.trans hbuild)⟩
      · rintro ⟨passed, hpassed, rfl⟩
        exact client.foldlM_bindValue_of_parameters (Value.map_parameter_eq_iff.mpr hpassed) _
    · have hrefused : ∀ query, client.build st ≠ .ok query := by
        rw [hbuild]
        exact nofun
      refine ⟨fun error herror => ?_, iff_of_false (not_exists.mpr hrefused) (not_not.mpr hlarge),
        fun query => iff_of_false (hrefused query) ?_⟩
      · exact (Except.error.inj (hbuild.symm.trans herror)).symm
      · rintro ⟨passed, hpassed, rfl⟩
        exact hrefused _
          (client.foldlM_bindValue_of_parameters (Value.map_parameter_eq_iff.mpr hpassed) _)

/-- A scope with a number deep inside of lists, among absent values and empty lists, and with a text
and a number in digits behind it. -/
def nestedScope (n : UInt64) : Scope where
  table := "users"
  conditions := [
    ⟨.column "id" "IN (?)", [.list [.list [], .null, .list [.list [.uint n], .null]]]⟩,
    ⟨.raw "x = ?", [.null]⟩,
    ⟨.raw "name = ? OR total = ?", [.text "ann", .list [.numeric "12"]]⟩]

/-- How the rows of that scope are deleted. -/
def nestedDelete (n : UInt64) : Statement where
  sql := "DELETE FROM \"users\" WHERE (\"id\" IN (NULL, NULL, $1, NULL)) AND (x = NULL) "
    ++ "AND (name = $2 OR total = $3::numeric)"
  binds := [.uint n, .text "ann", .numeric "12"]

/-- The largest signed number is passed as itself, in front of the two texts, and the next one is
refused. -/
theorem nestedDelete_passes_up_to_limit :
    (Request.delete.statement .postgres (nestedScope 9223372036854775807)
        = .ok (nestedDelete 9223372036854775807) ∧
      Client.plain.build (nestedDelete 9223372036854775807)
        = .ok ((nestedDelete 9223372036854775807).sql,
            #[.int 9223372036854775807, .text "ann", .text "12"])) ∧
    (Request.delete.statement .postgres (nestedScope 9223372036854775808)
        = .ok (nestedDelete 9223372036854775808) ∧
      Client.plain.build (nestedDelete 9223372036854775808) = .error .tooLarge) := by
  have hsmall : Request.delete.statement .postgres (nestedScope 9223372036854775807)
      = .ok (nestedDelete 9223372036854775807) := rfl
  have hlarge : Request.delete.statement .postgres (nestedScope 9223372036854775808)
      = .ok (nestedDelete 9223372036854775808) := rfl
  obtain ⟨-, -, -, -, hpassed⟩ := binds_pass_unless_too_large hsmall Client.plain
  obtain ⟨-, -, hreason, hbuilt, -⟩ := binds_pass_unless_too_large hlarge Client.plain
  refine ⟨⟨hsmall, (hpassed _).mpr ?_⟩, hlarge, ?_⟩
  · have hsame : (9223372036854775807 : Int64).toInt = (9223372036854775807 : UInt64).toNat := by
      decide
    exact ⟨[.int 9223372036854775807, .text "ann", .text "12"],
      .cons (.uint hsame) (.cons (.text "ann") (.cons (.numeric "12") .nil)), rfl⟩
  · cases hquery : Client.plain.build (nestedDelete 9223372036854775808) with
    | error error => rw [hreason error hquery]
    | ok query =>
      have hnumber : .uint 9223372036854775808 ∈ (nestedDelete 9223372036854775808).binds :=
        List.mem_cons_self
      exact absurd ⟨_, hnumber, by decide⟩ (hbuilt.mp ⟨query, hquery⟩)

end QueryChain
