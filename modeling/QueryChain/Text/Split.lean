/-
# Cutting a text at marks
-/

namespace QueryChain

/-- The parts of a text between its marks: one more than there are marks, some of them perhaps
empty. -/
def splitAtMarks (isMark : Char → Bool) : List Char → List (List Char)
  | [] => [[]]
  | c :: rest =>
      if isMark c then [] :: splitAtMarks isMark rest
      else
        match splitAtMarks isMark rest with
        | [] => [[c]]
        | part :: parts => (c :: part) :: parts

/-- There is always a part. -/
theorem splitAtMarks_ne_nil (isMark : Char → Bool) (cs : List Char) :
    splitAtMarks isMark cs ≠ [] := by
  cases cs with
  | nil => simp [splitAtMarks]
  | cons c rest =>
    simp only [splitAtMarks]
    split
    · simp
    · split <;> simp

/-- There is one more part than there are marks. -/
theorem length_splitAtMarks (isMark : Char → Bool) (cs : List Char) :
    (splitAtMarks isMark cs).length = cs.countP isMark + 1 := by
  induction cs with
  | nil => rfl
  | cons c rest ih =>
    simp only [splitAtMarks]
    split
    · rename_i h
      simp [h, ih]
    · rename_i h
      split
      · rename_i hnil
        exact absurd hnil (splitAtMarks_ne_nil isMark rest)
      · rename_i part parts hparts
        rw [hparts] at ih
        simpa [h] using ih

/-- The runs of characters between marks. -/
def runsBetween (isMark : Char → Bool) (text : String) : List (List Char) :=
  (splitAtMarks isMark text.toList).filter (!·.isEmpty)

end QueryChain
