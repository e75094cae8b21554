import Mathlib.Data.List.Basic

/-! Counting the moments of a log that lie within a window of time. A log has its newest moment first, so the
window is full when one certain entry is still within it. -/
namespace SlidingWindow
open List
variable {now d n : ℕ} {log rest : List ℕ}
/-- How many moments lie less than `d` before `now`. -/
def recent (now d : ℕ) (log : List ℕ) : ℕ := log.countP fun x => now<x+d

/-- A log goes back in time. -/
def Descends (log : List ℕ) : Prop := log.Pairwise fun x y => y≤x

lemma recent_le_length : recent now d log≤log.length := countP_le_length

lemma recent_eq_zero (h : ∀ x∈log, x+d≤now) : recent now d log=0 := by
  rw [recent,countP_eq_zero]
  intro x hx
  have := h x hx
  simp only [decide_eq_true_eq]
  omega

/-- Entries that have left the window do not count. -/
lemma recent_append_of_old (h : ∀ x∈rest, x+d≤now) : recent now d (log++rest)=recent now d log := by
  have hrest := recent_eq_zero h
  unfold recent at hrest ⊢
  rw [countP_append,hrest,Nat.add_zero]

/-- At least `n` moments are recent exactly when the `n`-th is. -/
lemma le_recent_iff (h : Descends log) (hn : 0<n) : n ≤ recent now d log ↔ ∃ x, log[n-1]? = some x ∧ now<x+d := by
  induction log generalizing n with
  | nil =>
    simp only [recent,countP_nil,List.getElem?_nil]
    constructor
    · omega
    · rintro ⟨x,hx,-⟩
      cases hx
  | cons a log ih =>
    obtain ⟨hle,htail⟩ := pairwise_cons.mp h
    by_cases ha : now<a+d
    · have hcons : recent now d (a::log)=recent now d log+1 := by simp [recent,ha]
      rw [hcons]
      obtain rfl | hn' : n=1 ∨ 1<n := by omega
      · simp [ha]
      obtain ⟨m,rfl⟩ : ∃ m, n=m+2 := ⟨n-2,by omega⟩
      have hih : m+1 ≤ recent now d log ↔ ∃ x, log[m]? = some x ∧ now<x+d := ih htail (Nat.succ_pos m)
      rw [show m+2-1=m+1 by omega,List.getElem?_cons_succ,← hih]
      omega
    · -- nothing behind the first entry is newer
      have hold : ∀ x∈a::log, x+d≤now := by
        intro x hx
        obtain rfl | hx := mem_cons.mp hx
        · omega
        have := hle x hx
        omega
      rw [recent_eq_zero hold]
      constructor
      · omega
      · rintro ⟨x,hx,hlt⟩
        have := hold x (List.mem_of_getElem? hx)
        omega
end SlidingWindow
