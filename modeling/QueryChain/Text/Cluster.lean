/-
# Clusters of characters

What a reader takes for one character may be several: a mark belongs to the character before it,
a few characters belong to the one behind them, and the parts of flags, syllables and joined
pictures belong together.
-/
import QueryChain.Text.CharSet

namespace QueryChain

/-- Marks, which join the character before them and do not change what it is. -/
def extendingChars : CharSet := .ofText
  "300-36f 483-489 591-5bd 5bf 5c1-5c2 5c4-5c5 5c7 610-61a 64b-65f 670 6d6-6dc 6df-6e4 6e7-6e8
   6ea-6ed 711 730-74a 7a6-7b0 7eb-7f3 7fd 816-819 81b-823 825-827 829-82d 859-85b 897-89f
   8ca-8e1 8e3-902 93a 93c 941-948 94d 951-957 962-963 981 9bc 9be 9c1-9c4 9cd 9d7 9e2-9e3 9fe
   a01-a02 a3c a41-a42 a47-a48 a4b-a4d a51 a70-a71 a75 a81-a82 abc ac1-ac5 ac7-ac8 acd ae2-ae3
   afa-aff b01 b3c b3e-b3f b41-b44 b4d b55-b57 b62-b63 b82 bbe bc0 bcd bd7 c00 c04 c3c c3e-c40
   c46-c48 c4a-c4d c55-c56 c62-c63 c81 cbc cbf-cc0 cc2 cc6-cc8 cca-ccd cd5-cd6 ce2-ce3 d00-d01
   d3b-d3c d3e d41-d44 d4d d57 d62-d63 d81 dca dcf dd2-dd4 dd6 ddf e31 e34-e3a e47-e4e eb1
   eb4-ebc ec8-ece f18-f19 f35 f37 f39 f71-f7e f80-f84 f86-f87 f8d-f97 f99-fbc fc6 102d-1030
   1032-1037 1039-103a 103d-103e 1058-1059 105e-1060 1071-1074 1082 1085-1086 108d 109d
   135d-135f 1712-1715 1732-1734 1752-1753 1772-1773 17b4-17b5 17b7-17bd 17c6 17c9-17d3 17dd
   180b-180d 180f 1885-1886 18a9 1920-1922 1927-1928 1932 1939-193b 1a17-1a18 1a1b 1a56
   1a58-1a5e 1a60 1a62 1a65-1a6c 1a73-1a7c 1a7f 1ab0-1add 1ae0-1aeb 1b00-1b03 1b34-1b3d
   1b42-1b44 1b6b-1b73 1b80-1b81 1ba2-1ba5 1ba8-1bad 1be6 1be8-1be9 1bed 1bef-1bf3 1c2c-1c33
   1c36-1c37 1cd0-1cd2 1cd4-1ce0 1ce2-1ce8 1ced 1cf4 1cf8-1cf9 1dc0-1dff 200c 20d0-20f0
   2cef-2cf1 2d7f 2de0-2dff 302a-302f 3099-309a a66f-a672 a674-a67d a69e-a69f a6f0-a6f1 a802
   a806 a80b a825-a826 a82c a8c4-a8c5 a8e0-a8f1 a8ff a926-a92d a947-a951 a953 a980-a982 a9b3
   a9b6-a9b9 a9bc-a9bd a9c0 a9e5 aa29-aa2e aa31-aa32 aa35-aa36 aa43 aa4c aa7c aab0 aab2-aab4
   aab7-aab8 aabe-aabf aac1 aaec-aaed aaf6 abe5 abe8 abed fb1e fe00-fe0f fe20-fe2f ff9e-ff9f
   101fd 102e0 10376-1037a 10a01-10a03 10a05-10a06 10a0c-10a0f 10a38-10a3a 10a3f 10ae5-10ae6
   10d24-10d27 10d69-10d6d 10eab-10eac 10efa-10eff 10f46-10f50 10f82-10f85 11001 11038-11046
   11070 11073-11074 1107f-11081 110b3-110b6 110b9-110ba 110c2 11100-11102 11127-1112b
   1112d-11134 11173 11180-11181 111b6-111be 111c0 111c9-111cc 111cf 1122f-11231 11234-11237
   1123e 11241 112df 112e3-112ea 11300-11301 1133b-1133c 1133e 11340 1134d 11357 11366-1136c
   11370-11374 113b8 113bb-113c0 113c2 113c5 113c7-113c9 113ce-113d0 113d2 113e1-113e2
   11438-1143f 11442-11444 11446 1145e 114b0 114b3-114b8 114ba 114bd 114bf-114c0 114c2-114c3
   115af 115b2-115b5 115bc-115bd 115bf-115c0 115dc-115dd 11633-1163a 1163d 1163f-11640 116ab
   116ad 116b0-116b7 1171d 1171f 11722-11725 11727-1172b 1182f-11837 11839-1183a 11930
   1193b-1193e 11943 119d4-119d7 119da-119db 119e0 11a01-11a0a 11a33-11a38 11a3b-11a3e 11a47
   11a51-11a56 11a59-11a5b 11a8a-11a96 11a98-11a99 11b60 11b62-11b64 11b66 11c30-11c36
   11c38-11c3d 11c3f 11c92-11ca7 11caa-11cb0 11cb2-11cb3 11cb5-11cb6 11d31-11d36 11d3a
   11d3c-11d3d 11d3f-11d45 11d47 11d90-11d91 11d95 11d97 11ef3-11ef4 11f00-11f01 11f36-11f3a
   11f40-11f42 11f5a 13440 13447-13455 1611e-16129 1612d-1612f 16af0-16af4 16b30-16b36 16f4f
   16f8f-16f92 16fe4 16ff0-16ff1 1bc9d-1bc9e 1cf00-1cf2d 1cf30-1cf46 1d165-1d169 1d16d-1d172
   1d17b-1d182 1d185-1d18b 1d1aa-1d1ad 1d242-1d244 1da00-1da36 1da3b-1da6c 1da75 1da84
   1da9b-1da9f 1daa1-1daaf 1e000-1e006 1e008-1e018 1e01b-1e021 1e023-1e024 1e026-1e02a 1e08f
   1e130-1e136 1e2ae 1e2ec-1e2ef 1e4ec-1e4ef 1e5ee-1e5ef 1e6e3 1e6e6 1e6ee-1e6ef 1e6f5
   1e8d0-1e8d6 1e944-1e94a 1f3fb-1f3ff e0020-e007f e0100-e01ef"

/-- Marks that take room of their own, and join the character before them, too. -/
def spacingChars : CharSet := .ofText
  "903 93b 93e-940 949-94c 94e-94f 982-983 9bf-9c0 9c7-9c8 9cb-9cc a03 a3e-a40 a83 abe-ac0 ac9
   acb-acc b02-b03 b40 b47-b48 b4b-b4c bbf bc1-bc2 bc6-bc8 bca-bcc c01-c03 c41-c44 c82-c83 cbe
   cc1 cc3-cc4 cf3 d02-d03 d3f-d40 d46-d48 d4a-d4c d82-d83 dd0-dd1 dd8-dde df2-df3 e33 eb3
   f3e-f3f f7f 1031 103b-103c 1056-1057 1084 17b6 17be-17c5 17c7-17c8 1923-1926 1929-192b
   1930-1931 1933-1938 1a19-1a1a 1a55 1a57 1a6d-1a72 1b04 1b3e-1b41 1b82 1ba1 1ba6-1ba7 1be7
   1bea-1bec 1bee 1c24-1c2b 1c34-1c35 1ce1 1cf7 a823-a824 a827 a880-a881 a8b4-a8c3 a952 a983
   a9b4-a9b5 a9ba-a9bb a9be-a9bf aa2f-aa30 aa33-aa34 aa4d aaeb aaee-aaef aaf5 abe3-abe4
   abe6-abe7 abe9-abea abec 11000 11002 11082 110b0-110b2 110b7-110b8 1112c 11145-11146 11182
   111b3-111b5 111bf 111ce 1122c-1122e 11232-11233 112e0-112e2 11302-11303 1133f 11341-11344
   11347-11348 1134b-1134c 11362-11363 113b9-113ba 113ca 113cc-113cd 11435-11437 11440-11441
   11445 114b1-114b2 114b9 114bb-114bc 114be 114c1 115b0-115b1 115b8-115bb 115be 11630-11632
   1163b-1163c 1163e 116ac 116ae-116af 1171e 11726 1182c-1182e 11838 11931-11935 11937-11938
   11940 11942 119d1-119d3 119dc-119df 119e4 11a39 11a57-11a58 11a97 11b61 11b65 11b67 11c2f
   11c3e 11ca9 11cb1 11cb4 11d8a-11d8e 11d93-11d94 11d96 11ef5-11ef6 11f03 11f34-11f35
   11f3e-11f3f 1612a-1612c 16f51-16f87"

/-- Characters that join the character behind them. -/
def prependChars : CharSet := .ofText
  "600-605 6dd 70f 890-891 8e2 d4e 110bd 110cd 111c2-111c3 113d1 1193f 11941 11a84-11a89 11d46
   11f02"

/-- Characters that always stand alone, beyond ASCII. -/
def wideControls : CharSet := .ofText
  "80-9f ad 61c 180e 200b 200e-200f 2028-202e 2060-206f feff fff0-fffb 13430-1343f 1bca0-1bca3
   1d173-1d17a e0000-e001f e0080-e00ff e01f0-e0fff"

/-- Pictures, which a joiner can put together. -/
def pictureChars : CharSet := .ofText
  "a9 ae 203c 2049 2122 2139 2194-2199 21a9-21aa 231a-231b 2328 23cf 23e9-23f3 23f8-23fa 24c2
   25aa-25ab 25b6 25c0 25fb-25fe 2600-2604 260e 2611 2614-2615 2618 261d 2620 2622-2623 2626
   262a 262e-262f 2638-263a 2640 2642 2648-2653 265f-2660 2663 2665-2666 2668 267b 267e-267f
   2692-2697 2699 269b-269c 26a0-26a1 26a7 26aa-26ab 26b0-26b1 26bd-26be 26c4-26c5 26c8
   26ce-26cf 26d1 26d3-26d4 26e9-26ea 26f0-26f5 26f7-26fa 26fd 2702 2705 2708-270d 270f 2712
   2714 2716 271d 2721 2728 2733-2734 2744 2747 274c 274e 2753-2755 2757 2763-2764 2795-2797
   27a1 27b0 27bf 2934-2935 2b05-2b07 2b1b-2b1c 2b50 2b55 3030 303d 3297 3299 1f004 1f02c-1f02f
   1f094-1f09f 1f0af-1f0b0 1f0c0 1f0cf-1f0d0 1f0f6-1f0ff 1f170-1f171 1f17e-1f17f 1f18e
   1f191-1f19a 1f1ae-1f1e5 1f201-1f20f 1f21a 1f22f 1f232-1f23a 1f23c-1f23f 1f249-1f25f
   1f266-1f321 1f324-1f393 1f396-1f397 1f399-1f39b 1f39e-1f3f0 1f3f3-1f3f5 1f3f7-1f3fa
   1f400-1f4fd 1f4ff-1f53d 1f549-1f54e 1f550-1f567 1f56f-1f570 1f573-1f57a 1f587 1f58a-1f58d
   1f590 1f595-1f596 1f5a4-1f5a5 1f5a8 1f5b1-1f5b2 1f5bc 1f5c2-1f5c4 1f5d1-1f5d3 1f5dc-1f5de
   1f5e1 1f5e3 1f5e8 1f5ef 1f5f3 1f5fa-1f64f 1f680-1f6c5 1f6cb-1f6d2 1f6d5-1f6e5 1f6e9
   1f6eb-1f6f0 1f6f3-1f6ff 1f7da-1f7ff 1f80c-1f80f 1f848-1f84f 1f85a-1f85f 1f888-1f88f
   1f8ae-1f8af 1f8bc-1f8bf 1f8c2-1f8cf 1f8d9-1f8ff 1f90c-1f93a 1f93c-1f945 1f947-1f9ff
   1fa58-1fa5f 1fa6e-1faff 1fc00-1fffd"

/-- Consonants that can be written as one with a consonant behind them. -/
def conjoiningConsonants : CharSet := .ofText
  "915-939 958-95f 978-97f 995-9a8 9aa-9b0 9b2 9b6-9b9 9dc-9dd 9df 9f0-9f1 a95-aa8 aaa-ab0
   ab2-ab3 ab5-ab9 af9 b15-b28 b2a-b30 b32-b33 b35-b39 b5c-b5d b5f b71 c15-c28 c2a-c39 c58-c5a
   d15-d3a 1000-102a 103f 1050-1055 105a-105d 1061 1065-1066 106e-1070 1075-1081 108e 1780-17b3
   1a20-1a54 1b0b-1b0c 1b13-1b33 1b45-1b4c 1b83-1ba0 1bae-1baf 1bbb-1bbd a989-a98b a98f-a9b2
   a9e0-a9e4 a9e7-a9ef a9fa-a9fe aa60-aa6f aa71-aa73 aa7a aa7e-aa7f aae0-aaea abc0-abda 10a00
   10a10-10a13 10a15-10a17 10a19-10a35 11103-11126 11144 11147 11380-11389 1138b 1138e
   11390-113b5 11900-11906 11909 1190c-11913 11915-11916 11918-1192f 11a00 11a0b-11a32 11a50
   11a5c-11a83 11f04-11f10 11f12-11f33"

/-- Marks that make one of two consonants. -/
def conjoiningMarks : CharSet := .ofText
  "94d 9cd acd b4d c4d d4d 1039 17d2 1a60 1b44 1bab a9c0 aaf6 10a3f 11133 113d0 1193e 11a47 11a99
   11f42"

/-! ## Classes of characters -/

/-- Joins the character before it, and one picture to another. -/
def joiner : Char := '\u200d'

/-- Keeps the characters around it apart, though it belongs to the one before it. -/
def nonJoiner : Char := '\u200c'

/-- Whether the character always stands alone. -/
def isControl (c : Char) : Bool :=
  if c.toNat < 128 then c.toNat < 32 || c.toNat == 127 else wideControls.contains c

/-- Whether the character is a picture. -/
def isPicture (c : Char) : Bool :=
  128 ≤ c.toNat && pictureChars.contains c

/-- Whether the character is a mark that does not change what it belongs to. -/
def isExtending (c : Char) : Bool :=
  128 ≤ c.toNat && extendingChars.contains c

/-- Whether the character joins the one before it, whatever that is. -/
def isMark (c : Char) : Bool :=
  isExtending c || 128 ≤ c.toNat && (c == joiner || spacingChars.contains c)

/-- Whether the character joins the one behind it. -/
def isPrepended (c : Char) : Bool :=
  128 ≤ c.toNat && prependChars.contains c

/-- Whether the character is one of the letters that flags are written with, two for each. -/
def isFlagLetter (c : Char) : Bool :=
  0x1f1e6 ≤ c.toNat && c.toNat ≤ 0x1f1ff

/-- Whether the character is a consonant that can be written as one with another. -/
def isConsonant (c : Char) : Bool :=
  128 ≤ c.toNat && conjoiningConsonants.contains c

/-! ## Syllables -/

/-- What a character is in a syllable: one of its three parts, or a syllable by itself without or
with the last part. -/
inductive SyllablePart where
  | leading
  | vowel
  | trailing
  | openSyllable
  | closedSyllable
  deriving DecidableEq, Repr

/-- What the character is in a syllable, if it is anything. -/
def syllablePart? (c : Char) : Option SyllablePart :=
  let n := c.toNat
  if n < 0x1100 then none
  else if n ≤ 0x115f || 0xa960 ≤ n && n ≤ 0xa97c then some .leading
  else if n ≤ 0x11a7 || 0xd7b0 ≤ n && n ≤ 0xd7c6 || n == 0x16d63 || 0x16d67 ≤ n && n ≤ 0x16d6a then
    some .vowel
  else if n ≤ 0x11ff || 0xd7cb ≤ n && n ≤ 0xd7fb then some .trailing
  else if 0xac00 ≤ n && n ≤ 0xd7a3 then
    some (if (n - 0xac00) % 28 = 0 then .openSyllable else .closedSyllable)
  else none

/-- Whether a part of a syllable goes on with another. -/
def SyllablePart.goesOn : SyllablePart → SyllablePart → Bool
  | leading, next => next != trailing
  | vowel, next | openSyllable, next => next == vowel || next == trailing
  | trailing, next | closedSyllable, next => next == trailing

/-- Whether two characters are parts of one syllable. -/
def joinsSyllable (before c : Char) : Bool :=
  match syllablePart? before, syllablePart? c with
  | some part, some next => part.goesOn next
  | _, _ => false

/-! ## Clusters -/

/-- What a text ends with, as far as that matters to the character behind it. -/
structure Ending where
  /-- A picture, perhaps with marks. -/
  picture : Bool := false
  /-- A picture, perhaps with marks, and a joiner. -/
  joiner : Bool := false
  /-- The first letter of a flag. -/
  halfFlag : Bool := false
  /-- A consonant, perhaps with marks. -/
  consonant : Bool := false
  /-- A consonant with marks, one of which joins it to another. -/
  conjoined : Bool := false
  deriving DecidableEq, Repr

/-- What the text ends with when a character is added to it. -/
def Ending.push (e : Ending) (c : Char) : Ending :=
  let marked := e.consonant && (isExtending c && c != nonJoiner || c == QueryChain.joiner)
  { picture := isPicture c || e.picture && isExtending c
    joiner := e.picture && c == QueryChain.joiner
    halfFlag := isFlagLetter c && !e.halfFlag
    consonant := isConsonant c || marked
    conjoined := marked && (e.conjoined || conjoiningMarks.contains c) }

/-- Whether a character belongs to the one before it, which a text with this ending ends with. -/
def Ending.joins (e : Ending) (before c : Char) : Bool :=
  !isControl before && (isMark c || isPrepended before && !isControl c)
    || e.joiner && isPicture c || e.halfFlag && isFlagLetter c || e.conjoined && isConsonant c
    || joinsSyllable before c

/-- Cuts a text into clusters, which stands behind a text with a certain ending. -/
def clustersBehind (e : Ending) : List Char → List (List Char)
  | [] => []
  | c :: rest =>
      let e := e.push c
      match clustersBehind e rest with
      | (d :: cluster) :: others =>
          if e.joins c d then (c :: d :: cluster) :: others
          else [c] :: (d :: cluster) :: others
      | others => [c] :: others

/-- Cuts a text into clusters. -/
def clusters (cs : List Char) : List (List Char) :=
  clustersBehind {} cs

/-- No ASCII character belongs to another. -/
theorem Ending.joins_ascii (e : Ending) {before c : Char} (hb : before.toNat < 128)
    (hc : c.toNat < 128) : e.joins before c = false := by
  have flag : isFlagLetter c = false := by simp [isFlagLetter]; omega
  have part : syllablePart? c = none := by
    have : c.toNat < 0x1100 := by omega
    simp [syllablePart?, this]
  have syllable : joinsSyllable before c = false := by
    rw [joinsSyllable, part]
    split <;> simp_all
  simp [joins, isMark, isExtending, isPrepended, isPicture, isConsonant, flag, syllable,
    Nat.not_le.2 hb, Nat.not_le.2 hc]

/-- ASCII characters stand alone. -/
theorem clusters_ascii {cs : List Char} (h : ∀ c ∈ cs, c.toNat < 128) :
    clusters cs = cs.map fun c => [c] := by
  suffices ∀ e, clustersBehind e cs = cs.map fun c => [c] from this {}
  induction cs with
  | nil => intro; rfl
  | cons c rest ih =>
    intro e
    have ih := ih fun d hd => h d (by simp [hd])
    cases rest with
    | nil => rfl
    | cons d rest =>
      rw [clustersBehind, ih]
      simp [Ending.joins_ascii _ (h c (by simp)) (h d (by simp))]

end QueryChain
