/-
# White space
-/
import QueryChain.Text.CharSet

namespace QueryChain

/-- White space beyond ASCII. -/
def wideBlanks : CharSet :=
  .ofText "85 a0 1680 2000-200a 2028-2029 202f 205f 3000"

/-- Whether the character is white space. -/
def isBlank (c : Char) : Bool :=
  if c.toNat < 128 then c.toNat = 32 || 9 ≤ c.toNat && c.toNat ≤ 13 else wideBlanks.contains c

/-- Text without the white space around it. -/
def trim (cs : List Char) : List Char :=
  ((cs.dropWhile isBlank).reverse.dropWhile isBlank).reverse

/-- White space alone is trimmed away entirely. -/
theorem trim_eq_nil_of_blank {cs : List Char} (h : ∀ c ∈ cs, isBlank c = true) :
    trim cs = [] := by
  have dropped : cs.dropWhile isBlank = [] := by
    induction cs with
    | nil => rfl
    | cons c rest ih => simp [h c (by simp), ih fun d hd => h d (by simp [hd])]
  simp [trim, dropped]

end QueryChain
