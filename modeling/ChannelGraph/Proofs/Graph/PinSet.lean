import ChannelGraph.Graph.PinSet
import Mathlib.Data.List.Basic
import Mathlib.Data.List.Nodup
import Mathlib.Data.List.Perm.Subperm

/-!
# More on sets of pins

What a set holds after pins are added one after another (`mem_foldl_insert`), how its size is found
by listing its members in any order (`size_eq_length`), and what is left of it without the pins of
one node (`PinSet.away`).
-/

namespace ChannelGraph

namespace PinSet

variable {s : PinSet} {p q : PinRef} {node : String}

/-- No pin occurs twice, as every pin comes before the ones behind it. -/
theorem nodup_toList (s : PinSet) : s.toList.Nodup := by
  refine List.Pairwise.imp ?_ s.sorted
  rintro p q hlt rfl
  exact PinRef.lt_irrefl p hlt

/-- Inserting pins one by one adds exactly these. -/
theorem mem_foldl_insert {ps : List PinRef} : p ∈ ps.foldl insert s ↔ p ∈ s ∨ p ∈ ps := by
  induction ps generalizing s with
  | nil => simp
  | cons q qs ih =>
    rw [List.foldl_cons, ih, mem_insert, List.mem_cons]
    tauto

/-- The size of a set is the length of every list of its members without repetitions. -/
theorem size_eq_length {ps : List PinRef} (hps : ps.Nodup) (h : ∀ p, p ∈ s ↔ p ∈ ps) :
    s.size = ps.length :=
  ((List.perm_ext_iff_of_nodup s.nodup_toList hps).2 h).length_eq

/-- A set with more pins is larger. -/
theorem size_le_size {t : PinSet} (h : ∀ p ∈ s, p ∈ t) : s.size ≤ t.size :=
  (List.Nodup.subperm s.nodup_toList h).length_le

/-- Without a pin a set is no larger. -/
theorem size_erase_le (s : PinSet) (p : PinRef) : (s.erase p).size ≤ s.size :=
  List.length_filter_le _ _

/-- The pins of all nodes but one. -/
def away (s : PinSet) (node : String) : PinSet :=
  ⟨s.toList.filter (·.node ≠ node), s.sorted.filter _⟩

/-- Away from a node are the pins of the other nodes. -/
theorem mem_away : p ∈ s.away node ↔ p ∈ s ∧ p.node ≠ node := by
  simp [mem_iff, away]

end PinSet

end ChannelGraph
