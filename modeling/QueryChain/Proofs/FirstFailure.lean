/-
# The first failure

What goes through a list and can fail stops at the first element that it fails on.  What came
before is known then, and what comes behind has no part in it.
-/

namespace QueryChain

variable {α β ε : Type}

/-- Either nothing fails, or there is a first element that does, behind others that do not. -/
theorem map_eq_ok_or_first_error (f : α → Except ε β) (l : List α) :
    (∃ found : List β, l.map f = found.map .ok) ∨
      ∃ before a after error, l = before ++ a :: after ∧
        (∃ found : List β, before.map f = found.map .ok) ∧ f a = .error error := by
  induction l with
  | nil => exact Or.inl ⟨[], rfl⟩
  | cons a rest ih =>
    cases ha : f a with
    | error error => exact Or.inr ⟨[], a, rest, error, rfl, ⟨[], rfl⟩, ha⟩
    | ok b =>
      rcases ih with ⟨found, hfound⟩ | ⟨before, a', after, error, rfl, ⟨found, hfound⟩, herror⟩
      · exact Or.inl ⟨b :: found, by rw [List.map_cons, ha, hfound, List.map_cons]⟩
      · refine Or.inr ⟨a :: before, a', after, error, rfl, ⟨b :: found, ?_⟩, herror⟩
        rw [List.map_cons, ha, hfound, List.map_cons]

/-- Where nothing fails, there is a result for each element. -/
theorem exists_ok_of_map_eq {f : α → Except ε β} {l : List α} {found : List β}
    (h : l.map f = found.map .ok) {a : α} (ha : a ∈ l) : ∃ b, f a = .ok b := by
  have hmem : f a ∈ found.map .ok := h ▸ List.mem_map_of_mem ha
  obtain ⟨b, -, hb⟩ := List.mem_map.mp hmem
  exact ⟨b, hb.symm⟩

/-- There are as many results as elements. -/
theorem length_eq_of_map_eq {f : α → Except ε β} {l : List α} {found : List β}
    (h : l.map f = found.map .ok) : l.length = found.length := by
  simpa using congrArg List.length h

section

variable {f : β → α → Except ε β} {before after : List α} {start middle : β}

/-- All elements are folded exactly if the first one is and then all others. -/
theorem foldlM_cons_eq_ok_iff {a : α} {rest : List α} {last : β} :
    (a :: rest).foldlM f start = .ok last ↔
      ∃ next, f start a = .ok next ∧ rest.foldlM f next = .ok last := by
  rw [List.foldlM_cons]
  cases f start a with
  | error error => exact ⟨nofun, nofun⟩
  | ok next =>
    constructor
    · exact fun hrest => ⟨next, rfl, hrest⟩
    · rintro ⟨_, ⟨⟩, hrest⟩
      exact hrest

/-- Behind elements that are folded, a fold goes on from where they lead. -/
theorem foldlM_append_of_ok (h : before.foldlM f start = .ok middle) :
    (before ++ after).foldlM f start = after.foldlM f middle := by
  rw [List.foldlM_append, h]
  rfl

/-- A fold stops at the first element that it fails on. -/
theorem foldlM_append_of_error (h : before.foldlM f start = .ok middle) {a : α} {error : ε}
    (ha : f middle a = .error error) :
    (before ++ a :: after).foldlM f start = .error error := by
  rw [foldlM_append_of_ok h, List.foldlM_cons, ha]
  rfl

/-- Either all elements are folded, or there is a first one that the fold fails on. -/
theorem foldlM_eq_ok_or_first_error (f : β → α → Except ε β) (l : List α) (start : β) :
    (∃ last, l.foldlM f start = .ok last) ∨
      ∃ before a after middle error, l = before ++ a :: after ∧
        before.foldlM f start = .ok middle ∧ f middle a = .error error := by
  induction l generalizing start with
  | nil => exact Or.inl ⟨start, rfl⟩
  | cons a rest ih =>
    cases ha : f start a with
    | error error => exact Or.inr ⟨[], a, rest, start, error, rfl, rfl, ha⟩
    | ok next =>
      rcases ih next with ⟨last, hlast⟩ | ⟨before, a', after, middle, error, rfl, hbefore, herror⟩
      · exact Or.inl ⟨last, foldlM_cons_eq_ok_iff.mpr ⟨next, ha, hlast⟩⟩
      · exact Or.inr ⟨a :: before, a', after, middle, error, rfl,
          foldlM_cons_eq_ok_iff.mpr ⟨next, ha, hbefore⟩, herror⟩

end

end QueryChain
