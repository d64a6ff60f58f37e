/-!
# Similar words

How similar two words are, by the measure of Jaro. Equal characters that do not stand
too far from each other match. The measure is the mean of three shares: of the matching
characters among those of either word, and of those of them that stand in order. It is
kept as an exact fraction.
-/

namespace DiceLauncher.Similarity

/-- How far matching characters may stand from each other. -/
def window (a b : List Char) : Nat := max a.length b.length / 2 - 1

/-- The first place of `b` that is not taken yet and matches the character `c` at the place
`i`. -/
def partner? (b : List Char) (reach : Nat) (taken : List Nat) (i : Nat) (c : Char) :
    Option Nat :=
  (List.range b.length).find? fun j =>
    i ≤ j + reach && j ≤ i + reach && !taken.contains j && b[j]? == some c

/-- The places of `a` and `b` that match, when the places `taken` of `b` are matched already
and the next character of `a` is at the place `i`. -/
def pairsFrom (b : List Char) (reach : Nat) (taken : List Nat) (i : Nat) :
    List Char → List (Char × Nat)
  | [] => []
  | c :: a =>
    match partner? b reach taken i c with
    | some j => (c, j) :: pairsFrom b reach (j :: taken) (i + 1) a
    | none => pairsFrom b reach taken (i + 1) a

/-- The matching characters of `a`, in order, each with its place in `b`. -/
def pairs (a b : List Char) : List (Char × Nat) := pairsFrom b (window a b) [] 0 a

/-- How many matching characters stand out of order, counted in pairs. -/
def transpositions (a b : List Char) : Nat :=
  let matched := pairs a b
  let inB := (matched.map Prod.snd).mergeSort.filterMap (b[·]?)
  (List.zip (matched.map Prod.fst) inB).countP (fun (c, d) => c != d) / 2

/-- The share that a number has of another one. -/
def share (part whole : Nat) : Float := Float.ofNat part / Float.ofNat whole

/-- The similarity of two words, from zero to one. -/
def jaro (a b : List Char) : Float :=
  let m := (pairs a b).length
  if a.isEmpty && b.isEmpty then 1
  else if m = 0 then 0
  else (share m a.length + share m b.length + share (m - transpositions a b) m) / 3

/-- The word that is most similar to a given one, among those whose similarity exceeds a bound;
of equally similar ones the last. -/
def best (bound : Float) (word : List Char) (words : List (List Char)) :
    Option (List Char) :=
  (words.foldl (fun (found : Option (List Char × Float)) candidate =>
    let similarity := jaro word candidate
    if bound < similarity then
      match found with
      | some (_, most) => if similarity < most then found else some (candidate, similarity)
      | none => some (candidate, similarity)
    else found) none).map Prod.fst

end DiceLauncher.Similarity
