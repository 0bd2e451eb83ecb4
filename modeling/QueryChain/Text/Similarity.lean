/-
# Similarity of names

The Jaro–Winkler similarity of two names: the share of characters that both have at about the
same place, raised for names that start alike.  It finds what a misspelt name was meant to be.
-/

namespace QueryChain

/-- The first place within a window that holds the character and is still free. -/
def findFree (c : Char) (low high : Nat) (places : List (Char × Nat)) (taken : List Nat) :
    Option Nat :=
  (places.find? fun (d, place) =>
    low ≤ place && place < high && d == c && !taken.contains place).map (·.2)

/-- The places of the first name and those of the second that are matched to them, in the order
of the first. -/
def matchPlaces (range : Nat) (second : List (Char × Nat)) (taken : List Nat) :
    List (Char × Nat) → List (Nat × Nat)
  | [] => []
  | (c, place) :: first =>
      match findFree c (place - range) (place + range + 1) second taken with
      | some found => (place, found) :: matchPlaces range second (found :: taken) first
      | none => matchPlaces range second taken first

/-- The Jaro similarity, between zero and one. -/
def jaro (a b : List Char) : Float :=
  if a.isEmpty && b.isEmpty then 1
  else if a.isEmpty || b.isEmpty then 0
  else
    let range := max a.length b.length / 2 - 1
    let pairs := matchPlaces range b.zipIdx [] a.zipIdx
    let matched := pairs.length
    if matched = 0 then 0
    else
      let inFirst := a.zipIdx.filter fun (_, place) => pairs.any (·.1 == place)
      let inSecond := b.zipIdx.filter fun (_, place) => pairs.any (·.2 == place)
      let moved := ((inFirst.zip inSecond).filter fun (p, q) => p.1 != q.1).length / 2
      (matched.toFloat / a.length.toFloat + matched.toFloat / b.length.toFloat
        + (matched - moved).toFloat / matched.toFloat) / 3

/-- The length of the common start. -/
def commonStart : List Char → List Char → Nat
  | a :: as, b :: bs => if a = b then commonStart as bs + 1 else 0
  | _, _ => 0

/-- The Jaro–Winkler similarity: a common start of up to four characters counts for names that
are similar already. -/
def jaroWinkler (a b : List Char) : Float :=
  let similarity := jaro a b
  if 0.7 < similarity then
    similarity + 0.1 * (min 4 (commonStart a b)).toFloat * (1 - similarity)
  else similarity

/-- The best of the known names, if one is similar enough; of equally good ones the first. -/
def nearest? (name : String) (known : List String) : Option String :=
  let better (best : Option (Float × String)) (candidate : String) : Option (Float × String) :=
    let similarity := jaroWinkler name.toList candidate.toList
    if 0.8 < similarity && best.all (·.1 < similarity) then some (similarity, candidate) else best
  (known.foldl better none).map (·.2)

end QueryChain
