import DiceLauncher.Text.Joining

/-!
# Clusters

A cluster is what readers take for one character. A text is divided into clusters from
its start: a character goes into the cluster before it if it joins that, and begins a new
cluster otherwise. These are the extended grapheme clusters of Unicode.

Results:
* `flatten_clusters`: clusters lose nothing.
* `ne_nil_of_mem_clusters`: no cluster is empty.
-/

namespace DiceLauncher.Text

/-- Whether a character joins a cluster by the class of the character before it alone, if that
decides. -/
def joinsNeighbour? : Joining → Joining → Option Bool
  | .control, _ => some false
  | _, .control => some false
  | .initial, .initial => some true
  | .initial, .medial => some true
  | .initial, .openSyllable => some true
  | .initial, .closedSyllable => some true
  | .openSyllable, .medial => some true
  | .openSyllable, .final => some true
  | .medial, .medial => some true
  | .medial, .final => some true
  | .closedSyllable, .final => some true
  | .final, .final => some true
  | _, .extender => some true
  | _, .joiner => some true
  | _, .spacing => some true
  | .leaning, _ => some true
  | _, _ => none

/-- Whether a consonant forms a conjunct with a cluster, whose last character comes first. -/
def joinsConjunct (begun : List Char) (c : Char) : Bool :=
  isConsonant c && (begun.takeWhile isBetweenConsonants).any isLinker &&
    ((begun.dropWhile isBetweenConsonants).head?.map isConsonant).getD false

/-- Whether a pictograph is joined to one in a cluster, whose last character comes first. -/
def joinsPictograph (begun : List Char) (c : Char) : Bool :=
  isPictograph c &&
    match begun with
    | [] => false
    | joiner :: earlier =>
      joining joiner == .joiner &&
        ((earlier.dropWhile (joining · == .extender)).head?.map isPictograph).getD false

/-- Whether a half of a flag completes one in a cluster, whose last character comes first. -/
def joinsFlag (begun : List Char) (c : Char) : Bool :=
  joining c == .regional && (begun.takeWhile (joining · == .regional)).length % 2 == 1

/-- Whether a character joins the cluster before it, whose last character comes first. -/
def joins (begun : List Char) (c : Char) : Bool :=
  match begun with
  | [] => false
  | last :: _ =>
    if last = '\r' ∧ c = '\n' then true
    else
      (joinsNeighbour? (joining last) (joining c)).getD
        (joinsConjunct begun c || joinsPictograph begun c || joinsFlag begun c)

/-- The clusters of a text when a cluster is begun, whose last character comes first. -/
def clustersFrom (begun : List Char) : List Char → List (List Char)
  | [] => [begun.reverse]
  | c :: text =>
    if joins begun c then clustersFrom (c :: begun) text
    else begun.reverse :: clustersFrom [c] text

/-- The clusters of a text. -/
def clusters : List Char → List (List Char)
  | [] => []
  | c :: text => clustersFrom [c] text

theorem flatten_clustersFrom (text begun : List Char) :
    (clustersFrom begun text).flatten = begun.reverse ++ text := by
  induction text generalizing begun with
  | nil => simp [clustersFrom]
  | cons c text ih => unfold clustersFrom; split <;> simp [ih]

/-- Clusters lose nothing. -/
theorem flatten_clusters (text : List Char) : (clusters text).flatten = text := by
  cases text <;> simp [clusters, flatten_clustersFrom]

theorem ne_nil_of_mem_clustersFrom {text begun cluster : List Char} (hbegun : begun ≠ [])
    (h : cluster ∈ clustersFrom begun text) : cluster ≠ [] := by
  induction text generalizing begun with
  | nil => simp only [clustersFrom, List.mem_singleton] at h; simp [h, hbegun]
  | cons c text ih =>
    unfold clustersFrom at h
    split at h
    · exact ih (by simp) h
    · rcases List.mem_cons.mp h with h | h
      · simp [h, hbegun]
      · exact ih (by simp) h

/-- No cluster is empty. -/
theorem ne_nil_of_mem_clusters {text cluster : List Char} (h : cluster ∈ clusters text) :
    cluster ≠ [] := by
  cases text with
  | nil => simp [clusters] at h
  | cons c text => exact ne_nil_of_mem_clustersFrom (by simp) h

end DiceLauncher.Text
