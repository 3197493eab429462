import OpticalTiming.Bus.Block

/-!
# When register paths differ

Every path ends with its leaf, so two registers whose leaves are not endings of one another are
different, whatever blocks they are in (`path_ne_of_apart`). Within one leaf, the path tells the
block (`path_injective`), and within one block it tells the leaf (`leaf_injective`).
-/

namespace OpticalTiming.RegisterBlock

/-- A path ends with its leaf. -/
theorem leaf_suffix_path (block : RegisterBlock) (leaf : String) :
    leaf.toList <:+ (block.path leaf).toList := by
  unfold path
  split
  · exact List.suffix_rfl
  · rw [String.toList_append]
    exact List.suffix_append _ _

/-- Neither of two leaves is an ending of the other. -/
def Apart (leaf other : String) : Prop :=
  ¬ leaf.toList <:+ other.toList ∧ ¬ other.toList <:+ leaf.toList

instance (leaf other : String) : Decidable (Apart leaf other) := by
  unfold Apart; infer_instance

/-- Registers whose leaves are apart have different paths, whatever blocks they are in. -/
theorem path_ne_of_apart {leaf other : String} (h : Apart leaf other) (b c : RegisterBlock) :
    b.path leaf ≠ c.path other := by
  intro heq
  have hleaf : leaf.toList <:+ (c.path other).toList := heq ▸ b.leaf_suffix_path leaf
  rcases List.suffix_or_suffix_of_suffix hleaf (c.leaf_suffix_path other) with hl | ho
  · exact h.1 hl
  · exact h.2 ho

/-- What stands before a leaf does not bring it closer to another one. -/
theorem Apart.prepend {leaf other : String} (h : Apart leaf other) (front : String) :
    Apart (front ++ leaf) other := by
  have hleaf : leaf.toList <:+ (front ++ leaf).toList := by
    rw [String.toList_append]
    exact List.suffix_append _ _
  refine ⟨fun hsuffix => h.1 (hleaf.trans hsuffix), fun hsuffix => ?_⟩
  rcases List.suffix_or_suffix_of_suffix hleaf hsuffix with hl | ho
  · exact h.1 hl
  · exact h.2 ho

/-- A path is as long as its leaf only in the block with the empty name. -/
theorem length_path (block : RegisterBlock) (leaf : String) :
    (block.path leaf).length =
      if block.base.isEmpty then leaf.length else block.base.length + 1 + leaf.length := by
  unfold path
  split
  · rfl
  · rw [String.length_append, String.length_append]
    rfl

/-- The registers with one leaf are told apart by their blocks. -/
theorem path_injective (leaf : String) {b c : RegisterBlock} (h : b.path leaf = c.path leaf) :
    b = c := by
  obtain ⟨s⟩ := b
  obtain ⟨t⟩ := c
  have hlen := congrArg String.length h
  rw [length_path, length_path] at hlen
  -- If only one of the blocks has a name, the lengths of the paths differ.
  by_cases hs : s.isEmpty <;> by_cases ht : t.isEmpty
  · rw [String.isEmpty_iff.mp hs, String.isEmpty_iff.mp ht]
  · simp only [hs, ht, ↓reduceIte, Bool.false_eq_true] at hlen
    omega
  · simp only [hs, ht, ↓reduceIte, Bool.false_eq_true] at hlen
    omega
  · simp only [path, hs, ht, Bool.false_eq_true, ↓reduceIte] at h
    rw [String.append_assoc, String.append_assoc] at h
    rw [(String.append_left_inj _).mp h]

/-- The registers of one block are told apart by their leaves. -/
theorem leaf_injective (block : RegisterBlock) {leaf other : String}
    (h : block.path leaf = block.path other) : leaf = other := by
  unfold path at h
  split at h
  · exact h
  · exact (String.append_right_inj _).mp h

end OpticalTiming.RegisterBlock
