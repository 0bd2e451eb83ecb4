/-
# Words of a name

A name is cut into words at its marks and wherever its letters change their case or turn into
digits and back.  Joined by underscores in lower case, the words are the name in snake case.
-/
import QueryChain.Text.Case
import QueryChain.Text.Cluster

namespace QueryChain

/-! ## Classes of clusters -/

/-- Whether the cluster has case and is its own upper case. -/
def isUpper (g : List Char) : Bool :=
  upperText g != lowerText g && upperText g == g

/-- Whether the cluster has case and is its own lower case. -/
def isLower (g : List Char) : Bool :=
  upperText g != lowerText g && lowerText g == g

/-- Whether the cluster is an ASCII digit. -/
def isDigitCluster (g : List Char) : Bool :=
  g.all Char.isDigit

/-- Underscore, hyphen and space stand between words and belong to none. -/
def isDelimiter (g : List Char) : Bool :=
  g == ['_'] || g == ['-'] || g == [' ']

/-! ## Cutting -/

/-- Whether a word ends with a cluster, seen from the clusters behind it: where lower case turns
upper, where letters and digits meet, and before the last capital of a run that a lower-case
letter follows. -/
def endsWord (g : List Char) : List (List Char) → Bool
  | [] => false
  | next :: rest =>
      isLower g && (isUpper next || isDigitCluster next)
        || isUpper g && isDigitCluster next
        || isDigitCluster g && (isLower next || isUpper next)
        || isUpper g && isUpper next && rest.head?.any isLower

/-- Cuts clusters into words.  Words may be empty: between two delimiters there is one. -/
def cutWords : List (List Char) → List (List Char)
  | [] => [[]]
  | g :: rest =>
      if isDelimiter g then [] :: cutWords rest
      else if endsWord g rest then g :: cutWords rest
      else
        match cutWords rest with
        | [] => [g]
        | word :: words => (g ++ word) :: words

/-- There is always a word. -/
theorem cutWords_ne_nil (gs : List (List Char)) : cutWords gs ≠ [] := by
  cases gs with
  | nil => simp [cutWords]
  | cons g rest =>
    simp only [cutWords]
    split
    · simp
    · split
      · simp
      · split <;> simp

/-- The name in snake case: its words in lower case with underscores between them. -/
def snakeCase (cs : List Char) : List Char :=
  ['_'].intercalate ((cutWords (clusters cs)).map lowerText)

end QueryChain
