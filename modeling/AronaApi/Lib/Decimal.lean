import Mathlib.Data.Rat.Floor

/-! Conversions of arbitrary-precision decimals to integers. -/
namespace Decimal

/-- `IntPart` truncates towards zero. -/
def intPart (q : ℚ) : ℤ := q.num.tdiv q.den

@[simp] lemma intPart_zero : intPart 0=0 := by decide +kernel

@[simp] lemma intPart_intCast (n : ℤ) : intPart n=n := by simp [intPart]

variable {q : ℚ} {n : ℤ}
lemma intPart_of_nonneg (h : 0≤q) : intPart q=q.floor := by
  rw [intPart,Rat.floor_def,Int.tdiv_eq_ediv_of_nonneg (Rat.num_nonneg.mpr h)]

lemma intPart_neg : intPart (-q) = -intPart q := by simp [intPart,Int.neg_tdiv]

lemma intPart_of_nonpos (h : q≤0) : intPart q = -(-q).floor := by
  rw [← intPart_of_nonneg (neg_nonneg.mpr h),intPart_neg,neg_neg]

lemma intPart_bounds (h : 0≤q) : 0 ≤ intPart q ∧ intPart q≤q ∧ q < intPart q+1 := by
  rw [intPart_of_nonneg h]
  exact ⟨Rat.le_floor_iff.mpr h,Int.floor_le q,Int.lt_floor_add_one q⟩

lemma intPart_eq (hn : 0≤n) (h : n≤q) (h' : q<n+1) : intPart q=n := by
  rw [intPart_of_nonneg ((Int.cast_nonneg hn).trans h)]
  exact Int.floor_eq_iff.mpr ⟨h,h'⟩

lemma intPart_nonneg_iff : 0 ≤ intPart q ↔ -1<q := by
  rcases le_total 0 q with h | h
  · rw [intPart_of_nonneg h,Rat.le_floor_iff]
    exact ⟨fun _ => by linarith,fun _ => h⟩
  rw [intPart_of_nonpos h,Int.neg_nonneg,← Int.lt_add_one_iff,Rat.floor_lt_iff]
  norm_num
  exact neg_lt

lemma intPart_eq_iff_of_pos (hn : 0<n) : intPart q=n ↔ n≤q ∧ q<n+1 := by
  have hcast : (0 : ℚ)<n := Int.cast_pos.mpr hn
  rcases le_total 0 q with h | h
  · rw [intPart_of_nonneg h,← Rat.le_floor_iff,← Int.cast_one,← Int.cast_add,← Rat.floor_lt_iff]
    omega
  have hflr : 0≤(-q).floor := Rat.le_floor_iff.mpr (by push_cast; linarith)
  rw [intPart_of_nonpos h]
  constructor
  · intro heq
    omega
  · rintro ⟨hle,-⟩
    linarith

lemma le_intPart_iff (hn : 0<n) : n ≤ intPart q ↔ n≤q := by
  rcases le_total 0 q with h | h
  · rw [intPart_of_nonneg h,Rat.le_floor_iff]
  have hneg : intPart q≤0 := by
    rw [intPart_of_nonpos h,neg_nonpos,Rat.le_floor_iff]
    push_cast
    linarith
  have hcast : (0 : ℚ)<n := Int.cast_pos.mpr hn
  exact iff_of_false (by omega) fun hle => by linarith

/-- `Round(0).IntPart()`: the nearest integer, halves away from zero. -/
def roundHalfAway (q : ℚ) : ℤ := if 0≤q then (q+1/2).floor else -(-q+1/2).floor

@[simp] lemma roundHalfAway_zero : roundHalfAway 0=0 := by decide +kernel

@[simp] lemma roundHalfAway_one : roundHalfAway 1=1 := by decide +kernel

lemma roundHalfAway_intCast_of_nonneg (h : 0≤n) : roundHalfAway n=n := by
  have hcast : (0 : ℚ)≤n := Int.cast_nonneg h
  rw [roundHalfAway,if_pos hcast]
  apply le_antisymm
  · apply Int.le_of_lt_add_one
    rw [Rat.floor_lt_iff]
    push_cast
    linarith
  · rw [Rat.le_floor_iff]
    linarith

lemma roundHalfAway_nonneg (h : 0≤q) : 0 ≤ roundHalfAway q := by
  rw [roundHalfAway,if_pos h,Rat.le_floor_iff]
  push_cast
  linarith

lemma roundHalfAway_ne_zero_iff : roundHalfAway q≠0 ↔ 1/2≤|q| := by
  have hfloor {q : ℚ} (h : 0≤q) : (q+1/2).floor≠0 ↔ 1/2≤q := by
    have hnn : 0≤(q+1/2).floor := Rat.le_floor_iff.mpr (by push_cast; linarith)
    rw [show (q+1/2).floor≠0 ↔ 1≤(q+1/2).floor by omega,Rat.le_floor_iff,Int.cast_one]
    exact ⟨fun h => by linarith,fun h => by linarith⟩
  unfold roundHalfAway
  split
  next h => rw [hfloor h,abs_of_nonneg h]
  next h => rw [neg_ne_zero,hfloor (neg_nonneg.mpr (le_of_not_ge h)),abs_of_neg (lt_of_not_ge h)]

/-- `Div`: a quotient has at most sixteen decimal places. -/
def div16 (a b : ℚ) : ℚ := roundHalfAway (a/b*10^16)/10^16
end Decimal
