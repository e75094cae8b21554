import AronaApi.Lib.Decimal

/-! Binary floating point as far as programs with money depend on it. Each operation rounds its exact
result; rounding is monotone and leaves small integers alone. What becomes of a value that does not fit
an integer is up to the machine. -/

structure FloatArith where
  round : ℚ → ℚ
  monotone : Monotone round
  exact : ∀ n : ℤ, -2^53≤n → n≤2^53 → round n=n
  overflow : ℚ → ℤ

namespace FloatArith
open Decimal
variable (f : FloatArith) {q a b : ℚ}
def ofInt (n : ℤ) : ℚ := f.round n
def add (a b : ℚ) : ℚ := f.round (a+b)
def sub (a b : ℚ) : ℚ := f.round (a-b)
def mul (a b : ℚ) : ℚ := f.round (a*b)
def div (a b : ℚ) : ℚ := f.round (a/b)

/-- `int(q)`. -/
def toInt (q : ℚ) : ℤ := if -2^63 ≤ intPart q ∧ intPart q<2^63 then intPart q else f.overflow q

variable {f} {n : ℤ}
lemma round_nonneg (h : 0≤q) : 0≤f.round q := by
  have hzero := f.exact 0 (by decide) (by decide)
  have hmono := f.monotone h
  rw [Int.cast_zero] at hzero
  rwa [hzero] at hmono

lemma ofInt_nonneg (h : 0≤n) : 0≤f.ofInt n := round_nonneg (Int.cast_nonneg h)

lemma mul_nonneg (ha : 0≤a) (hb : 0≤b) : 0≤f.mul a b := round_nonneg (Rat.mul_nonneg ha hb)

lemma div_nonneg (ha : 0≤a) (hb : 0≤b) : 0≤f.div a b :=
  round_nonneg (Rat.div_nonneg ha hb)

/-- A value that is not negative stays so unless it is too large. -/
lemma toInt_nonneg_iff (h : 0≤q) : 0≤f.toInt q ↔ intPart q<2^63 ∨ 0≤f.overflow q := by
  have hpart : 0 ≤ intPart q := Int.tdiv_nonneg (Rat.num_nonneg.mpr h) (Int.natCast_nonneg _)
  unfold toInt
  split
  next hfits => exact ⟨fun _ => .inl hfits.2,fun _ => hpart⟩
  next hlrg =>
  refine ⟨.inr,fun hor => hor.resolve_left fun hlt => ?_⟩
  exact hlrg ⟨by omega,hlt⟩

lemma round_zero : f.round 0=0 := by simpa using f.exact 0 (by decide) (by decide)

lemma round_one : f.round 1=1 := by simpa using f.exact 1 (by decide) (by decide)

lemma toInt_one : f.toInt 1=1 := by simp [toInt,intPart]

lemma ofInt_zero : f.ofInt 0=0 := by rw [ofInt,Int.cast_zero,round_zero]

/-- Rounding does not lose a count. -/
lemma ofInt_eq_zero_iff : f.ofInt n=0 ↔ n=0 := by
  refine ⟨fun h => ?_,fun h => by rw [h,ofInt_zero]⟩
  by_contra hne
  unfold ofInt at h
  rcases lt_or_gt_of_ne hne with hneg | hpos
  · have hmono := f.monotone (show (n : ℚ)≤((-1 : ℤ) : ℚ) by exact_mod_cast Int.le_sub_one_of_lt hneg)
    rw [h,f.exact (-1) (by decide) (by decide)] at hmono
    norm_num at hmono
  have hmono := f.monotone (show ((1 : ℤ) : ℚ)≤n by exact_mod_cast hpos)
  rw [h,f.exact 1 (by decide) (by decide)] at hmono
  norm_num at hmono

/-- A rounded value is a value. -/
def Projects (f : FloatArith) : Prop := ∀ q, f.round (f.round q)=f.round q

lemma Projects.ofInt_sub_zero (h : f.Projects) (n : ℤ) : f.sub (f.ofInt n) 0=f.ofInt n := by
  rw [sub,sub_zero]
  exact h _

lemma Projects.ofInt_add_zero (h : f.Projects) (n : ℤ) : f.add (f.ofInt n) 0=f.ofInt n := by
  rw [add,add_zero]
  exact h _

/-- Arithmetic without rounding. -/
def ideal : FloatArith := ⟨id,monotone_id,fun _ _ _ => rfl,fun _ => 0⟩

lemma ideal_projects : ideal.Projects := fun _ => rfl
end FloatArith
