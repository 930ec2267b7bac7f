import Mathlib.Data.List.Destutter
import Mathlib.Data.List.Sort

/-!
# Lists sorted by a key

A list that is sorted strictly by a key is determined by its members.
-/

namespace Parqonaut.Rust

variable {α κ : Type} [LinearOrder κ] (key : α → κ) {left right : List α}

lemma eq_of_pairwise_lt (isLeft : left.Pairwise (key · < key ·))
    (isRight : right.Pairwise (key · < key ·)) (same : ∀ item, item ∈ left ↔ item ∈ right) :
    left = right := by
  have nodup : ∀ {items : List α}, items.Pairwise (key · < key ·) → items.Nodup :=
    fun sorted => sorted.imp fun less equal => less.ne (congrArg key equal)
  apply List.Perm.eq_of_pairwise _ isLeft isRight
  · exact (List.perm_ext_iff_of_nodup (nodup isLeft) (nodup isRight)).mpr same
  · exact fun _ _ _ _ less greater => absurd greater less.asymm

/-- Dropping neighbours with equal keys from a sorted list makes it strictly sorted. -/
lemma destutter_pairwise_lt (sorted : left.Pairwise (key · ≤ key ·)) :
    (left.destutter fun a b => key a ≠ key b).Pairwise (key · < key ·) := by
  have trans : Trans (key · < key ·) (key · < key ·) (key · < key ·) := ⟨lt_trans⟩
  have apart := List.isChain_destutter (fun a b => key a ≠ key b) left
  have below := (sorted.sublist (List.destutter_sublist (fun a b => key a ≠ key b) left)).isChain
  rw [List.isChain_iff_getElem] at apart below
  rw [← List.isChain_iff_pairwise, List.isChain_iff_getElem]
  exact fun index inside => lt_of_le_of_ne (below index inside) (apart index inside)

end Parqonaut.Rust
