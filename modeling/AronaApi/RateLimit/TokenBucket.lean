import Mathlib

/-! The token bucket of `common/limiter/lua/rate_limit.lua` for one key, over exact numbers. -/
namespace AronaApi.TokenBucket
open List

/-- The arguments of the script. -/
structure Script where
  (requested rate capacity : ℚ)
  requested_pos : 0 < requested
  rate_pos : 0 < rate
  capacity_pos : 0<capacity

structure Bucket where
  tokens : ℚ
  lastTime : ℕ

/-- The stored bucket, and the times of the runs that were accepted, the last one first. -/
structure State where
  bucket : Option Bucket := none
  accepted : List ℕ := []

namespace Script
variable (k : Script)
/-- The tokens after the refill. -/
def refilled (bucket : Option Bucket) (nowInSeconds : ℕ) : ℚ :=
  match bucket with
  | none => k.capacity
  | some b => min k.capacity (b.tokens+(nowInSeconds-b.lastTime)*k.rate)

/-- One run: the bucket that is stored, and whether the request is allowed. -/
def run (s : State) (nowInSeconds : ℕ) : State :=
  let tokens := k.refilled s.bucket nowInSeconds
  if k.requested≤tokens then ⟨some ⟨tokens-k.requested,nowInSeconds⟩,nowInSeconds::s.accepted⟩
  else ⟨some ⟨tokens,nowInSeconds⟩,s.accepted⟩

/-- What is left at a time, along with what was taken since any earlier one, has been in the bucket or has flowed
in since. -/
structure Held (now : ℕ) (tokens : ℚ) (accepted : List ℕ) : Prop where
  low : 0≤tokens
  high : tokens≤k.capacity
  past : ∀ x∈accepted, x≤now
  since : ∀ s≤now, k.requested*accepted.countP (s≤·)+tokens≤k.capacity+k.rate*(now-s)
  within : ∀ s t, s≤t → k.requested*accepted.countP (fun x => s≤x ∧ x≤t)≤k.capacity+k.rate*(t-s)

variable {k} {now t : ℕ} {tokens : ℚ} {accepted : List ℕ} {s : State}
lemma flow_nonneg {s : ℕ} (h : s≤t) : 0≤k.rate*((t : ℚ)-s) :=
  mul_nonneg k.rate_pos.le (sub_nonneg.mpr (by exact_mod_cast h))

lemma Held.refill (h : k.Held now tokens accepted) (hle : now≤t) :
    k.Held t (k.refilled (some ⟨tokens,now⟩) t) accepted where
  low := by
    have hflow := flow_nonneg (k := k) hle
    exact le_min k.capacity_pos.le (by simp only; linarith [h.low])
  high := min_le_left _ _
  past x hx := (h.past x hx).trans hle
  since s hs := by
    by_cases hold : s≤now
    · have hmin := min_le_right k.capacity (tokens+((t : ℚ)-now)*k.rate)
      have hsince := h.since s hold
      simp only [refilled]
      linarith
    · have hnone : accepted.countP (s≤·)=0 := countP_eq_zero.mpr fun x hx => by
        have hpast := h.past x hx
        simp only [decide_eq_true_eq]
        omega
      have hmin := min_le_left k.capacity (tokens+((t : ℚ)-now)*k.rate)
      have hflow := flow_nonneg (k := k) hs
      simp only [refilled,hnone]
      push_cast
      linarith
  within := h.within

lemma Held.spend (h : k.Held now tokens accepted) (hreq : k.requested≤tokens) :
    k.Held now (tokens-k.requested) (now::accepted) where
  low := sub_nonneg.mpr hreq
  high := by linarith [h.high,k.requested_pos]
  past := forall_mem_cons.mpr ⟨le_rfl,h.past⟩
  since s hs := by
    have hsince := h.since s hs
    rw [countP_cons_of_pos (by simpa using hs)]
    push_cast
    linarith
  within s t hst := by
    by_cases hin : s≤now ∧ now≤t
    · have hsince := h.since s hin.1
      have hflow := flow_nonneg (k := k) hin.2
      have hcount : (accepted.countP (fun x => s≤x ∧ x≤t) : ℚ)≤accepted.countP (s≤·) := by
        exact_mod_cast countP_mono_left fun x _ hx => by simp_all
      have hmul := mul_le_mul_of_nonneg_left hcount k.requested_pos.le
      rw [countP_cons_of_pos (by simpa using hin)]
      push_cast
      linarith
    · rw [countP_cons_of_neg (by simpa using hin)]
      exact h.within s t hst

/-- The state after a run at `now`. -/
def Kept (k : Script) (now : ℕ) (s : State) : Prop :=
  ∃ tokens, s.bucket=some ⟨tokens,now⟩ ∧ k.Held now tokens s.accepted

lemma kept_run (h : k.Held now (k.refilled s.bucket now) s.accepted) : k.Kept now (k.run s now) := by
  unfold run
  simp only
  split
  next hreq => exact ⟨_,rfl,h.spend hreq⟩
  · exact ⟨_,rfl,h⟩

lemma kept_foldl (h : k.Kept now s) (times : List ℕ) (htime : (now::times).Pairwise (· ≤ ·)) :
    ∃ last, k.Kept last (times.foldl k.run s) := by
  induction times generalizing s now with
  | nil => exact ⟨now,h⟩
  | cons t times ih =>
    obtain ⟨hle,htail⟩ := pairwise_cons.mp htime
    obtain ⟨tokens,hbucket,hheld⟩ := h
    have hrefill := hheld.refill (hle t mem_cons_self)
    rw [← hbucket] at hrefill
    exact ih (kept_run hrefill) htail

/-- The stored tokens stay between 0 and the capacity, and no more is accepted from `s` to `t` than the capacity
and what flows in. -/
theorem rate_bounded (k : Script) (times : List ℕ) (htime : times.Pairwise (· ≤ ·)) :
    let state := times.foldl k.run {}
    (∀ b∈state.bucket, 0≤b.tokens ∧ b.tokens≤k.capacity) ∧
      ∀ s t, s≤t → k.requested*state.accepted.countP (fun x => s≤x ∧ x≤t)≤k.capacity+k.rate*(t-s) := by
  have hnew (now : ℕ) : k.Held now k.capacity [] := by
    refine ⟨k.capacity_pos.le,le_rfl,nofun,fun s hs => ?_,fun s t hst => ?_⟩
    · simpa using flow_nonneg (k := k) hs
    · simpa using add_nonneg k.capacity_pos.le (flow_nonneg (k := k) hst)
  cases times with
  | nil => exact ⟨nofun,(hnew 0).within⟩
  | cons now times =>
    obtain ⟨last,tokens,hbucket,hheld⟩ := kept_foldl (kept_run (s := {}) (hnew now)) times htime
    refine ⟨?_,hheld.within⟩
    intro b hb
    rw [foldl_cons,hbucket] at hb
    cases hb
    exact ⟨hheld.low,hheld.high⟩

/-- Two of three runs at once are accepted with a capacity of 2, and the bound is reached. -/
theorem burst_bounded : let k : Script := ⟨1,1,2,by decide,by decide,by decide⟩
    let state := [5,5,5].foldl k.run {}
    state.accepted=[5,5] ∧ k.requested*state.accepted.countP (fun x => 5≤x ∧ x≤5)≤k.capacity+k.rate*((5 : ℕ)-(5 : ℕ)) :=
  ⟨by decide +kernel,(rate_bounded _ _ (by decide)).2 5 5 (by decide)⟩
end Script
end AronaApi.TokenBucket
