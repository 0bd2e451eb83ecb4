/-
# Letter case

Full case mappings of text: one character may become several, and a capital sigma at the end of
a word becomes a final one.
-/
import QueryChain.Text.CaseTable

namespace QueryChain

/-- Upper case of a character. -/
def upperChar (c : Char) : List Char :=
  if c.toNat < 128 then [c.toUpper] else wideUpper.map c

/-- Lower case of a character by itself. -/
def lowerChar (c : Char) : List Char :=
  if c.toNat < 128 then [c.toLower] else wideLower.map c

/-- Upper case of a text. -/
def upperText (cs : List Char) : List Char :=
  cs.flatMap upperChar

/-- Whether the first character that counts for word ends is a cased letter. -/
def reachesCased (cs : List Char) : Bool :=
  match cs.dropWhile caseIgnorableChars.contains with
  | c :: _ => casedChars.contains c
  | [] => false

/-- Lower case of a text behind other text, which is given backwards. -/
def lowerBehind (before : List Char) : List Char → List Char
  | [] => []
  | c :: rest =>
      (if c = 'Σ' then
        if reachesCased before && !reachesCased rest then ['ς'] else ['σ']
      else lowerChar c) ++ lowerBehind (c :: before) rest

/-- Lower case of a text. -/
def lowerText (cs : List Char) : List Char :=
  lowerBehind [] cs

/-- In ASCII text each letter has its own lower case. -/
theorem lowerText_ascii {cs : List Char} (h : ∀ c ∈ cs, c.toNat < 128) :
    lowerText cs = cs.map Char.toLower := by
  suffices ∀ before, lowerBehind before cs = cs.map Char.toLower from this []
  induction cs with
  | nil => intro; rfl
  | cons c rest ih =>
    intro before
    have hc : c.toNat < 128 := h c (by simp)
    have hs : c ≠ 'Σ' := by rintro rfl; exact absurd hc (by decide)
    simp [lowerBehind, lowerChar, hs, hc, ih fun d hd => h d (by simp [hd])]

end QueryChain
