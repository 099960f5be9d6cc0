/-!
# Similar words

What two words have in common is found by taking the longest run of characters that stands in both
of them, and then in the same way what is common in front of that run and behind it. Words are
similar if what they have in common makes up three fifths of both taken together
(`areSimilar_eq`). `similarWords` looks for the most similar among some words.
-/

namespace ChannelGraph.Text

/-! ### What is common -/

/-- The number of characters that two texts start with together. -/
def commonLength : List Char → List Char → Nat
  | c :: cs, d :: ds => if c = d then commonLength cs ds + 1 else 0
  | _, _ => 0

/-- Two texts have no longer beginning in common than each of them is. -/
theorem commonLength_le (a b : List Char) :
    commonLength a b ≤ a.length ∧ commonLength a b ≤ b.length := by
  fun_induction commonLength a b <;> simp_all

/-- A run of characters that stands in two texts. -/
structure SharedRun where
  /-- Its place in the first text. -/
  first : Nat
  /-- Its place in the second text. -/
  second : Nat
  /-- The number of its characters. -/
  size : Nat
deriving DecidableEq

/-- A run lies within two texts. -/
def SharedRun.Fits (r : SharedRun) (a b : List Char) : Prop :=
  r.first + r.size ≤ a.length ∧ r.second + r.size ≤ b.length

/-- The longest run of characters that stands in two texts; among several the one that comes first
in the first text and then in the second. -/
def longestRun (a b : List Char) : SharedRun :=
  let runs := (List.range a.length).flatMap fun i ↦
    (List.range b.length).map fun j ↦
      SharedRun.mk i j (commonLength (a.drop i) (b.drop j))
  runs.foldl (fun best r ↦ if best.size < r.size then r else best) ⟨0, 0, 0⟩

/-- The longest run lies within both texts, since every run does. -/
theorem fits_longestRun (a b : List Char) : (longestRun a b).Fits a b := by
  have hmem : ∀ r ∈ (List.range a.length).flatMap fun i ↦ (List.range b.length).map fun j ↦
      SharedRun.mk i j (commonLength (a.drop i) (b.drop j)), r.Fits a b := by
    intro r hr
    obtain ⟨i, hi, hr⟩ := List.mem_flatMap.1 hr
    obtain ⟨j, hj, rfl⟩ := List.mem_map.1 hr
    have h := commonLength_le (a.drop i) (b.drop j)
    simp only [List.length_drop, List.mem_range] at h hi hj
    constructor <;> simp only <;> omega
  have hfold : ∀ (rs : List SharedRun) (best : SharedRun), best.Fits a b →
      (∀ r ∈ rs, r.Fits a b) →
      (rs.foldl (fun best r ↦ if best.size < r.size then r else best) best).Fits a b := by
    intro rs
    induction rs with
    | nil => intro best h _; exact h
    | cons r rs ih =>
      intro best h hrs
      refine ih _ ?_ fun s hs ↦ hrs s (List.mem_cons_of_mem _ hs)
      dsimp only
      split
      · exact hrs r List.mem_cons_self
      · exact h
  exact hfold _ _ ⟨by simp, by simp⟩ hmem

/-- The number of characters that two texts have in common, where the number of runs is bounded. -/
def sharedWithin : Nat → List Char → List Char → Nat
  | 0, _, _ => 0
  | fuel + 1, a, b =>
    let r := longestRun a b
    if r.size = 0 then 0
    else
      sharedWithin fuel (a.take r.first) (b.take r.second) + r.size +
        sharedWithin fuel (a.drop (r.first + r.size)) (b.drop (r.second + r.size))

/-- The number of characters that two texts have in common. -/
def sharedSize (a b : List Char) : Nat :=
  sharedWithin a.length a b

/-- What is in front of a run, the run, and what is behind it do not overlap, so that no character
counts twice. -/
theorem sharedWithin_le (fuel : Nat) (a b : List Char) :
    sharedWithin fuel a b ≤ a.length ∧ sharedWithin fuel a b ≤ b.length := by
  induction fuel generalizing a b with
  | zero => simp [sharedWithin]
  | succ fuel ih =>
    simp only [sharedWithin]
    split
    · simp
    · have hfits := fits_longestRun a b
      have hfront := ih (a.take (longestRun a b).first) (b.take (longestRun a b).second)
      have hback := ih (a.drop ((longestRun a b).first + (longestRun a b).size))
        (b.drop ((longestRun a b).second + (longestRun a b).size))
      simp only [SharedRun.Fits, List.length_take, List.length_drop] at hfits hfront hback
      omega

/-- Texts have no more in common than the shorter one holds. -/
theorem sharedSize_le (a b : List Char) : sharedSize a b ≤ min a.length b.length := by
  have := sharedWithin_le a.length a b
  simp only [sharedSize]
  omega

/-! ### Similarity -/

/-- Whether so many characters in common are enough for two texts of a length taken together. -/
def isEnough (shared length : Nat) : Bool :=
  3 * length ≤ 10 * shared

/-- Whether two words are similar. A word that is too short for the other need not be looked at. -/
def areSimilar (a b : List Char) : Bool :=
  let length := a.length + b.length
  isEnough (min a.length b.length) length && isEnough (sharedSize a b) length

/-- Similarity is decided by what is common alone. -/
theorem areSimilar_eq (a b : List Char) :
    areSimilar a b = isEnough (sharedSize a b) (a.length + b.length) := by
  have := sharedSize_le a b
  simp only [areSimilar, isEnough, Bool.and_eq_right_iff_imp, decide_eq_true_eq]
  omega

/-- Whether one of two words comes before the other among those similar to a text: it has more in
common with the text, or as much and is the later one in order. -/
def isCloser (text : List Char) (v w : String) : Bool :=
  let closeness (u : String) : Nat := sharedSize u.toList text
  let length (u : String) : Nat := u.length + text.length
  let m := closeness v * length w
  let n := closeness w * length v
  n < m || (m == n && w ≤ v)

/-- The three words that are most similar to a text, the most similar one first. -/
def similarWords (text : String) (words : List String) : List String :=
  let similar := words.filter fun w ↦ areSimilar w.toList text.toList
  (similar.mergeSort (isCloser text.toList)).take 3

end ChannelGraph.Text
