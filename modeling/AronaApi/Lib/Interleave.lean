import AronaApi.Lib.Schedule
import Mathlib.Logic.Function.Basic

/-! Workers over shared state. Each worker is at a phase of its own program; an action lets one
worker take its next atomic step on the shared state and appends what it did to a common log. -/

/-- Shared state, the phase of every worker, and the log of what was done by whom. -/
structure Interleave (W S P E : Type*) where
  shared : S
  phase : W → P
  log : List (W × E)

namespace Interleave
open List
variable {W S P E A : Type*} [DecidableEq W]
-- the numerals of a few workers
instance (priority := 2000) neZero_one : @NeZero Nat Zero.ofOfNat0 1 := ⟨by decide⟩
instance (priority := 2000) neZero_two : @NeZero Nat Zero.ofOfNat0 2 := ⟨by decide⟩
instance (priority := 2000) neZero_three : @NeZero Nat Zero.ofOfNat0 3 := ⟨by decide⟩

/-- The effect of one local step of worker `w`. -/
def advance (s : Interleave W S P E) (w : W) (r : S × P × List E) : Interleave W S P E :=
  ⟨r.1,Function.update s.phase w r.2.1,s.log++r.2.2.map (Prod.mk w)⟩

section
variable (s : Interleave W S P E)
include s
@[simp] lemma advance_shared (w : W) (r : S × P × List E) : (s.advance w r).shared=r.1 := rfl
@[simp] lemma advance_phase_self (w : W) (r : S × P × List E) : (s.advance w r).phase w=r.2.1 := by simp [advance]
lemma advance_phase_of_ne {v w : W} (r : S × P × List E) (h : v≠w) :
    (s.advance w r).phase v=s.phase v := by simp [advance,Function.update_of_ne h]
@[simp] lemma advance_log (w : W) (r : S × P × List E) : (s.advance w r).log=s.log++r.2.2.map (Prod.mk w) := rfl
end

/-- Interleaving semantics of a local step function. -/
def step (next : W → S → P → A → Option (S × P × List E)) (s : Interleave W S P E) (a : W × A) :
    Option (Interleave W S P E) :=
  (next a.1 s.shared (s.phase a.1) a.2).map (s.advance a.1)

variable {s : Interleave W S P E} {w : W}
lemma step_eq_some {next : W → S → P → A → Option (S × P × List E)} {t : Interleave W S P E} {a : A} :
    step next s (w,a)=some t ↔ ∃ r, next w s.shared (s.phase w) a=some r ∧ s.advance w r=t := by
  simp [step,Option.map_eq_some_iff]

/-- All workers at the same phase and nothing done yet. -/
def start (shared : S) (p : P) : Interleave W S P E := ⟨shared,fun _ => p,[]⟩

variable {r : S × P × List E}
/-- A property of each worker's phase survives a step when the acting worker re-establishes it and
the step's effect on the shared state does not disturb the others. -/
lemma forall_phase_advance (Q R : W → P → Prop) (h : ∀ v, Q v (s.phase v)) (hself : R w r.2.1)
    (hoth : ∀ v, v≠w → Q v (s.phase v) → R v (s.phase v)) (v : W) : R v ((s.advance w r).phase v) := by
  by_cases hv : v=w
  · subst hv
    simpa using hself
  · rw [advance_phase_of_ne s r hv]
    exact hoth v hv (h v)

/-- No worker's phase satisfies `q` after a step of `w` that ends outside `q`, if no other's did. -/
lemma closed_advance (q : P → Bool) (h : ∀ v, v≠w → q (s.phase v)=false) (hp : q r.2.1=false) (v : W) :
    q ((s.advance w r).phase v)=false := by
  by_cases hv : v=w
  · rw [hv,advance_phase_self]
    exact hp
  · rw [advance_phase_of_ne _ _ hv]
    exact h v hv

/-- Exactly `w` is in `q` after a step of `w` that ends in `q`, if no other was. -/
lemma only_advance (q : P → Bool) (h : ∀ v, v≠w → q (s.phase v)=false) (hp : q r.2.1=true) (v : W) :
    q ((s.advance w r).phase v)=true ↔ v=w := by
  by_cases hv : v=w
  · rw [hv,advance_phase_self]
    simpa using hp
  · rw [advance_phase_of_ne _ _ hv,h v hv]
    simp [hv]

/-- The one worker in `q` stays the only one over a step of another that ends outside `q`. -/
lemma only_frame (q : P → Bool) {v : W} (only : ∀ u, q (s.phase u)=true ↔ u=v) (hw : q (s.phase w)=false)
    (hp : q r.2.1=false) : v≠w ∧ ∀ u, q ((s.advance w r).phase u)=true ↔ u=v := by
  have hv : v≠w := by
    rintro rfl
    rw [(only v).mpr rfl] at hw
    cases hw
  refine ⟨hv,fun u => ?_⟩
  by_cases hu : u=w
  · rw [hu,advance_phase_self]
    simp [hp,hv.symm]
  · rw [advance_phase_of_ne _ _ hu]
    exact only u

/-- At most one worker is in `q` after a step, if at most one was and the acting worker only gets there
while no other is. -/
lemma single_advance (q : P → Bool) (h : ∀ u v, q (s.phase u)=true → q (s.phase v)=true → u=v)
    (hself : q r.2.1=true → ∀ v, v≠w → q (s.phase v)=false) (u v : W)
    (hu : q ((s.advance w r).phase u)=true) (hv : q ((s.advance w r).phase v)=true) : u=v := by
  by_cases hu' : u=w
  · by_cases hv' : v=w
    · rw [hu',hv']
    rw [hu',advance_phase_self] at hu
    rw [advance_phase_of_ne s r hv',hself hu v hv'] at hv
    cases hv
  by_cases hv' : v=w
  · rw [hv',advance_phase_self] at hv
    rw [advance_phase_of_ne s r hu',hself hv u hu'] at hu
    cases hu
  rw [advance_phase_of_ne s r hu'] at hu
  rw [advance_phase_of_ne s r hv'] at hv
  exact h u v hu hv

omit [DecidableEq W] in
/-- Nobody else is in `q` while one worker is, if at most one is. -/
lemma others_of_single (q : P → Bool)
    (h : ∀ u v, q (s.phase u)=true → q (s.phase v)=true → u=v) (hw : q (s.phase w)=true) (v : W) (hv : v≠w) :
    q (s.phase v)=false := by
  cases hq : q (s.phase v) with
  | false => rfl
  | true => exact absurd (h v w hq hw) hv

/-- What the others did is not affected by a step. -/
lemma filter_log_advance (s : Interleave W S P E) (w : W) (r : S × P × List E) (v : W) :
    (s.advance w r).log.filter (fun e => e.1=v) =
      s.log.filter (fun e => e.1=v)++if v=w then r.2.2.map (Prod.mk w) else [] := by
  rw [advance_log,filter_append]
  congr 1
  split
  next hv =>
    rw [filter_eq_self]
    intro e he
    obtain ⟨x,-,rfl⟩ := mem_map.mp he
    exact decide_eq_true hv.symm
  next hv =>
  rw [filter_eq_nil_iff]
  intro e he
  obtain ⟨x,-,rfl⟩ := mem_map.mp he
  simpa using fun h : w=v => hv h.symm

/-- Logs in which every worker did the same differ in their order only. -/
lemma perm_of_filter_log {l l' : List (W × E)}
    (h : ∀ w, l.filter (fun e => e.1=w)=l'.filter (fun e => e.1=w)) : l.Perm l' := by
  classical
  rw [perm_iff_count]
  rintro ⟨w,e⟩
  have hcnt (m : List (W × E)) : (m.filter fun e => e.1=w).count (w,e)=m.count (w,e) := count_filter (by simp)
  rw [← hcnt l,← hcnt l',h w]
end Interleave
