import Mathlib

/-! Sums over the members of a system when one of them changes. -/

/-- One member's share is exchanged, the others' stay. -/
lemma sum_apply_update {ι β : Type*} [Fintype ι] [DecidableEq ι] (g : ι → β → ℤ) (f : ι → β) (n : ι) (v : β) :
    ∑ i, g i (Function.update f n v i) = ∑ i, g i (f i)-g n (f n)+g n v := by
  rw [← Finset.sum_erase_add _ _ (Finset.mem_univ n),← Finset.sum_erase_add _ _ (Finset.mem_univ n),
    Function.update_self]
  have hoth : ∑ i∈Finset.univ.erase n, g i (Function.update f n v i) = ∑ i∈Finset.univ.erase n, g i (f i) := by
    refine Finset.sum_congr rfl fun i hi => ?_
    rw [Function.update_of_ne (Finset.ne_of_mem_erase hi)]
  rw [hoth]
  omega
