import AronaApi.Lib.Schedule
import Mathlib

/-! Infinite runs of a partial step function. At each moment an action fires or nothing happens; weak fairness
says that an action which stays enabled fires. -/
namespace FairRun
open List Schedule
variable {σ α : Type*} {step : σ → α → Option σ}
/-- What may happen at one moment. -/
def Next (step : σ → α → Option σ) (s : σ) : Option α → σ → Prop
  | none,t => t=s
  | some a,t => step s a=some t

structure Run (step : σ → α → Option σ) where
  state : ℕ → σ
  act : ℕ → Option α
  next : ∀ n, Next step (state n) (act n) (state (n+1))

namespace Run

/-- Weak fairness for an action. -/
def Fair (r : Run step) (a : α) : Prop :=
  ∀ n, (∀ m, n ≤ m → (step (r.state m) a).isSome) → ∃ m, n ≤ m ∧ r.act m=some a

/-- All actions of the run are of some kind. -/
def Only (r : Run step) (ok : α → Prop) : Prop := ∀ n a, r.act n=some a → ok a

def LeadsTo (r : Run step) (P Q : σ → Prop) : Prop := ∀ n, P (r.state n) → ∃ m, n ≤ m ∧ Q (r.state m)

variable {r : Run step} {ok : α → Prop} {P Q R : σ → Prop} {as : List α} {a : α}
lemma LeadsTo.trans (h : r.LeadsTo P Q) (h' : r.LeadsTo Q R) : r.LeadsTo P R := by
  intro n hn
  obtain ⟨m,hm,hq⟩ := h n hn
  obtain ⟨k,hk,hr⟩ := h' m hq
  exact ⟨k,le_trans hm hk,hr⟩

lemma LeadsTo.of_imp (h : ∀ s, P s → Q s) : r.LeadsTo P Q := fun n hn => ⟨n,le_rfl,h _ hn⟩

lemma LeadsTo.or (h : r.LeadsTo P R) (h' : r.LeadsTo Q R) : r.LeadsTo (fun s => P s ∨ Q s) R := by
  rintro n (hn | hn)
  · exact h n hn
  · exact h' n hn

/-- The invariant rule for infinite runs. -/
lemma invariant (hok : r.Only ok) (hstep : ∀ s a t, P s → ok a → step s a=some t → P t) (h₀ : P (r.state 0))
    (n : ℕ) : P (r.state n) := by
  induction n with
  | zero => exact h₀
  | succ n ih =>
    have hnext := r.next n
    cases hact : r.act n with
    | none =>
      rw [hact] at hnext
      rw [show r.state (n+1)=r.state n from hnext]
      exact ih
    | some a =>
      rw [hact] at hnext
      exact hstep _ a _ ih (hok n a hact) hnext

/-- The rule for one fair action: it stays enabled until it fires, unless the goal is reached otherwise. -/
lemma leadsTo_of_fair (hfair : r.Fair a) (hok : r.Only ok) (henabled : ∀ s, P s → (step s a).isSome)
    (heff : ∀ s t, P s → step s a=some t → Q t)
    (hstep : ∀ s b t, P s → ok b → step s b=some t → P t ∨ Q t) : r.LeadsTo P Q := by
  intro n hn
  by_contra hnvr
  push Not at hnvr
  have hsty : ∀ m, n ≤ m → P (r.state m) := by
    intro m hm
    induction m, hm using Nat.le_induction with
    | base => exact hn
    | succ m hm ih =>
      have hnext := r.next m
      cases hact : r.act m with
      | none =>
        rw [hact] at hnext
        rw [show r.state (m+1)=r.state m from hnext]
        exact ih
      | some b =>
        rw [hact] at hnext
        obtain hp | hq := hstep _ b _ ih (hok m b hact) hnext
        · exact hp
        · exact absurd hq (hnvr (m+1) (by omega))
  obtain ⟨m,hm,hact⟩ := hfair n fun m hm => henabled _ (hsty m hm)
  have hnext := r.next m
  rw [hact] at hnext
  exact hnvr (m+1) (by omega) (heff _ _ (hsty m hm) hnext)

/-- A finite schedule after which nothing happens any more. -/
def ofSchedule {s t : σ} {as : List α} (h : exec step s as=some t) : Run step where
  state n := (exec step s (as.take n)).getD t
  act n := as[n]?
  next n := by
    by_cases hn : n<as.length
    · rw [List.getElem?_eq_getElem hn]
      have htake : as.take (n+1)=as.take n++[as[n]] := take_succ_eq_append_getElem hn
      have hsplit := h
      rw [← take_append_drop (n+1) as,exec_append] at hsplit
      obtain ⟨v,hv,-⟩ := Option.bind_eq_some_iff.mp hsplit
      have hv' := hv
      rw [htake,exec_append] at hv'
      obtain ⟨u,hu,hlast⟩ := Option.bind_eq_some_iff.mp hv'
      obtain ⟨w,hw,hnil⟩ := Option.bind_eq_some_iff.mp hlast
      cases hnil
      rw [hu,hv]
      exact hw
    · rw [List.getElem?_eq_none (by omega),take_of_length_le (by omega),take_of_length_le (by omega)]
      rfl

lemma ofSchedule_state {s t : σ} (h : exec step s as=some t) {n : ℕ} (hn : as.length≤n) : (ofSchedule h).state n=t := by
  show (exec step s (as.take n)).getD t=t
  rw [take_of_length_le hn,h]
  rfl

/-- Such a run is fair to the actions that are not enabled at its end. -/
lemma ofSchedule_fair {s t : σ} (h : exec step s as=some t) (ha : step t a=none) : (ofSchedule h).Fair a := by
  intro n henabled
  have hend := henabled (max n as.length) (le_max_left _ _)
  rw [ofSchedule_state h (le_max_right _ _),ha] at hend
  cases hend
end Run
end FairRun
