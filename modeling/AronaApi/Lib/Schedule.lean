import Mathlib.Logic.Basic

/-! Finite schedules of a partial step function. A schedule is a list of actions; it runs from a
state when every action is enabled, and meets a side condition, in the state it fires in. -/
namespace Schedule
open List
variable {σ α : Type*} {step : σ → α → Option σ} {ok : σ → α → Prop}
/-- Fire the actions one after another; a disabled action ends the run without a result. -/
def exec (step : σ → α → Option σ) : σ → List α → Option σ
  | s,[] => some s
  | s,a::as => (step s a).bind fun t => exec step t as

lemma exec_append (step : σ → α → Option σ) (s : σ) (as bs : List α) :
    exec step s (as++bs)=(exec step s as).bind fun t => exec step t bs := by
  induction as generalizing s with
  | nil => rfl
  | cons a as ih =>
    simp only [cons_append,exec]
    cases step s a with
    | none => rfl
    | some t => exact ih t

/-- A run in which every action meets `ok` in the state before it. -/
inductive Runs (step : σ → α → Option σ) (ok : σ → α → Prop) : σ → List α → σ → Prop
  | nil (s) : Runs step ok s [] s
  | cons {s t u a as} (fires : step s a=some t) (meets : ok s a) (tail : Runs step ok t as u) :
      Runs step ok s (a::as) u

variable {as : List α} {s t : σ}
/-- The invariant rule: what one step preserves, a whole run preserves. -/
lemma Runs.invariant (Inv : σ → Prop)
    (hstep : ∀ s a t, Inv s → ok s a → step s a=some t → Inv t) (h : Runs step ok s as t) (h₀ : Inv s) : Inv t := by
  induction h with
  | nil s => exact h₀
  | cons fires meets _ ih => exact ih (hstep _ _ _ h₀ meets fires)

variable {good : σ → α → Prop}
/-- A run all of whose steps are good, or else one that is lost from some step on. -/
lemma Runs.good_or_lost {Inv Lost : σ → Prop} (hgood : ∀ s a t, Inv s → ok s a → good s a → step s a=some t → Inv t)
    (hbad : ∀ s a t, Inv s → ok s a → ¬good s a → step s a=some t → Lost t)
    (hlost : ∀ s a t, Lost s → ok s a → step s a=some t → Lost t) (h : Runs step ok s as t) (h₀ : Inv s) :
    (Inv t ∧ Runs step (fun s a => ok s a ∧ good s a) s as t) ∨ Lost t := by
  induction h with
  | nil s => exact .inl ⟨h₀,.nil s⟩
  | @cons s u t a as fires meets tail ih =>
    by_cases hg : good s a
    · obtain ⟨hinv,hruns⟩ | hl := ih (hgood s a u h₀ meets hg fires)
      · exact .inl ⟨hinv,.cons fires ⟨meets,hg⟩ hruns⟩
      · exact .inr hl
    · exact .inr (tail.invariant Lost hlost (hbad s a u h₀ meets hg fires))

/-- A run under one side condition is one under any weaker condition. -/
lemma Runs.imp {ok' : σ → α → Prop} (himp : ∀ s a, ok s a → ok' s a) (h : Runs step ok s as t) :
    Runs step ok' s as t := by
  induction h with
  | nil s => exact .nil s
  | cons fires meets _ ih => exact .cons fires (himp _ _ meets) ih

/-- A schedule that can be fired, all of whose actions meet the condition wherever they fire. -/
lemma runs_of_exec (h : exec step s as=some t) (hok : ∀ s, ∀ a∈as, ok s a) : Runs step ok s as t := by
  induction as generalizing s with
  | nil =>
    cases h
    exact .nil _
  | cons a as ih =>
    obtain ⟨u,hu,htail⟩ := Option.bind_eq_some_iff.mp h
    exact .cons hu (hok s a mem_cons_self) (ih htail fun s b hb => hok s b (mem_cons_of_mem _ hb))

/-- A property of every action of a run may join its side condition. -/
lemma Runs.restrict {P : α → Prop} (h : Runs step ok s as t) (hP : ∀ a∈as, P a) :
    Runs step (fun s a => ok s a ∧ P a) s as t := by
  induction h with
  | nil s => exact .nil s
  | cons fires meets _ ih =>
    exact .cons fires ⟨meets,hP _ mem_cons_self⟩ (ih fun a ha => hP a (mem_cons_of_mem _ ha))

/-- Where each step keeps the invariant exactly when it is good, the invariant holds all along a run exactly when
all steps are good. -/
lemma always_iff {Inv : σ → Prop}
    (hstep : ∀ s a t, Inv s → step s a=some t → (Inv t ↔ good s a)) (h : exec step s as=some t) (h₀ : Inv s) :
    (∀ done u, done <+: as → exec step s done=some u → Inv u) ↔ Runs step good s as t := by
  induction as generalizing s with
  | nil =>
    cases h
    constructor
    · intro _
      exact .nil _
    · intro _ done u hdone hu
      rw [prefix_nil.mp hdone] at hu
      cases hu
      exact h₀
  | cons a as ih =>
    obtain ⟨v,hv,htail⟩ := Option.bind_eq_some_iff.mp h
    constructor
    · intro hall
      have hinv : Inv v := by
        apply hall [a] v (cons_prefix_cons.mpr ⟨rfl, nil_prefix⟩)
        simp [exec,hv]
      refine .cons hv ((hstep s a v h₀ hv).mp hinv) ((ih htail hinv).mp fun done u hdone hu => ?_)
      apply hall (a::done) u (cons_prefix_cons.mpr ⟨rfl,hdone⟩)
      simpa [exec,hv] using hu
    · intro hruns done u hdone hu
      cases hruns with
      | cons fires meets tail =>
        cases fires.symm.trans hv
        cases done with
        | nil =>
          cases hu
          exact h₀
        | cons b done =>
          obtain ⟨rfl,hrest⟩ := cons_prefix_cons.mp hdone
          have hinv := (hstep s b v h₀ hv).mpr meets
          apply (ih htail hinv).mpr tail done u hrest
          simpa [exec,hv] using hu

/-- Checks a schedule against a decidable side condition while firing it. -/
def check (step : σ → α → Option σ) (ok : σ → α → Prop) [∀ s a, Decidable (ok s a)] :
    σ → List α → Bool
  | _,[] => true
  | s,a::as => decide (ok s a) && match step s a with
    | none => false
    | some t => check step ok t as

/-- A checked schedule has the run that `exec` computes. -/
lemma runs_of_check (step : σ → α → Option σ) (ok : σ → α → Prop) [∀ s a, Decidable (ok s a)]
    (s : σ) (as : List α) (h : check step ok s as=true) : ∃ t, exec step s as=some t ∧ Runs step ok s as t := by
  induction as generalizing s with
  | nil => exact ⟨s,rfl,.nil s⟩
  | cons a as ih =>
    simp only [check,Bool.and_eq_true,decide_eq_true_eq] at h
    obtain ⟨hok,hrest⟩ := h
    cases hs : step s a with
    | none => simp [hs] at hrest
    | some t =>
      rw [hs] at hrest
      obtain ⟨u,hu,hruns⟩ := ih t hrest
      exact ⟨u,by simp [exec,hs,hu],.cons hs hok hruns⟩

lemma exists_of_any {β : Type*} {o : Option β} {P : β → Prop} [DecidablePred P]
    (h : (o.any fun b => decide (P b))=true) : ∃ b, o=some b ∧ P b := by
  obtain ⟨b,hb,hP⟩ := (Option.any_eq_true _ _).mp h
  exact ⟨b,hb,of_decide_eq_true hP⟩

/-- A checked schedule has a run to the state that `exec` computes, and what is seen of that state holds. -/
lemma checked_run (step : σ → α → Option σ) (ok : σ → α → Prop) [∀ s a, Decidable (ok s a)] (s : σ) (as : List α)
    (P : σ → Prop) [DecidablePred P] (h : (check step ok s as && (exec step s as).any fun t => decide (P t))=true) :
    ∃ t, exec step s as=some t ∧ Runs step ok s as t ∧ P t := by
  obtain ⟨hcheck,hend⟩ := Bool.and_eq_true_iff.mp h
  obtain ⟨t,ht,hruns⟩ := runs_of_check step ok s as hcheck
  obtain ⟨u,hu,hP⟩ := exists_of_any hend
  cases ht.symm.trans hu
  exact ⟨t,ht,hruns,hP⟩
end Schedule
