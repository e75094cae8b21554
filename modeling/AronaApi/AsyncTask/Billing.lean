import AronaApi.AsyncTask.Effect
import Mathlib

/-! The billing life of a task row. The workers of one row simulate a small automaton: the row is
`unbilled` until one worker moves it to a terminal status, that worker alone may owe the billing
call, and nothing is billed after it. -/
namespace AronaApi.AsyncTask
open Schedule Interleave List
variable {W : Type*}
@[simp] def Event.isCall : Event → Bool
  | .wrote _ _ => false
  | .refunded _ | .settled => true

@[simp] def Event.isRefund : Event → Bool
  | .refunded _ => true
  | .wrote _ _ | .settled => false

/-- The `UPDATE` that took the row into a terminal status. -/
@[simp] def Event.isMove : Event → Bool
  | .wrote old new => decide (¬old.Terminal ∧ new.Terminal)
  | .refunded _ | .settled => false

def authors (kind : Event → Bool) (log : List (W × Event)) : List W :=
  (log.filter fun e => kind e.2).map Prod.fst

@[simp] lemma authors_nil (kind : Event → Bool) : authors kind ([] : List (W × Event))=[] := rfl

lemma authors_append (kind : Event → Bool) (log log' : List (W × Event)) :
    authors kind (log++log')=authors kind log++authors kind log' := by simp [authors]

@[simp] lemma authors_append_one (kind : Event → Bool) (log : List (W × Event)) (w : W) (e : Event) :
    authors kind (log++[(w,e)])=authors kind log++if kind e then [w] else [] := by
  rw [authors_append]
  cases h : kind e <;> simp [authors,h]

/-- The executions that called `RefundTaskQuota` or `settleTaskBillingOnComplete`. -/
abbrev callers (log : List (W × Event)) : List W := authors Event.isCall log

/-- The executions whose write moved the row into `SUCCESS` or `FAILURE`. -/
abbrev movers (log : List (W × Event)) : List W := authors Event.isMove log

/-- The executions that called `RefundTaskQuota`. -/
abbrev refunders (log : List (W × Event)) : List W := authors Event.isRefund log

inductive Stage (W : Type*)
  | unbilled
  | unsaved (w : W)
  | owing (w : W)
  | billed (w : W)
  | closed (mover : Option W)

namespace Stage

@[simp] def Final : Stage W → Prop
  | unbilled | unsaved _ => False
  | owing _ | billed _ | closed _ => True

@[simp] def callers : Stage W → List W
  | unsaved w | billed w => [w]
  | unbilled | owing _ | closed _ => []

@[simp] def movers : Stage W → List W
  | owing w | billed w => [w]
  | closed mover => mover.toList
  | unbilled | unsaved _ => []

inductive Step (w : W) : Stage W → Stage W → Prop
  | stay (g) : Step w g g
  | fail : Step w unbilled (owing w)
  | close : Step w unbilled (closed (some w))
  | refundFirst : Step w unbilled (unsaved w)
  | save : Step w (unsaved w) (billed w)
  | pay : Step w (owing w) (billed w)

lemma callers_length_le (g : Stage W) : g.callers.length≤1 := by cases g <;> simp [callers]

lemma movers_length_le (g : Stage W) : g.movers.length≤1 := by
  cases g with
  | closed mover => cases mover <;> simp [movers]
  | _ => simp [movers]

lemma mem_movers_of_mem_callers {g : Stage W} (hg : ∀ v, g≠unsaved v) {w : W} (h : w∈g.callers) : w∈g.movers := by
  cases g with
  | unsaved v => exact absurd rfl (hg v)
  | _ => simp_all [callers,movers]
end Stage

/-- The system is at stage `g`. -/
structure Sim (g : Stage W) (s : Sys W) : Prop where
  terminal : s.shared.status.Terminal ↔ g.Final
  callers_eq : callers s.log=g.callers
  movers_eq : movers s.log=g.movers
  owing : ∀ v, (s.phase v).owing=true ↔ g=.owing v
  unsaved : ∀ v, (s.phase v).unsaved=true ↔ g=.unsaved v
  sound : ∀ v, (s.phase v).Sound
  refunding : ∀ v task, s.phase v=.refunding task → s.shared.status=.failure
  refunded : refunders s.log≠[] → s.shared.status=.failure ∨ ∃ v, g=.unsaved v

def Act.touches : Act → Bool
  | .store _ _ | .bill _ | .nullUpstream _ | .channelMissing _ => true
  | _ => false

/-- What the acting worker has to respect: a refund ahead of the save is for an unfinished row and a
failed task, and its save goes through; a plain `Save` does not overwrite a finished row; a realtime
fetch does not change a finished row's status. -/
def Phase.careful (row : Task) : Phase → Act → Bool
  | .fetchStore snap task,.store _ false => decide (snap.status.Terminal → task.status=snap.status)
  | .sunoRefund task _,.bill _ => decide (¬row.status.Terminal ∧ task.status=.failure)
  | .sunoSave _ _ true,.store _ error => !error
  | .sunoSave _ _ false,.store _ false => decide ¬row.status.Terminal
  | _,_ => true

/-- The discipline under which every writer keeps the automaton; moreover, nobody touches the row
while another worker has refunded it without having stored the failure. -/
def Careful (s : Sys W) (x : W × Act) : Prop :=
  (x.2.touches=true → ∀ v, v≠x.1 → (s.phase v).unsaved=false) ∧ (s.phase x.1).careful s.shared x.2=true

instance [Fintype W] [DecidableEq W] (s : Sys W) (x : W × Act) : Decidable (Careful s x) :=
  inferInstanceAs (Decidable (_ ∧ _))

lemma sim_init (row : Task) :
    Sim (if row.status.Terminal then .closed none else .unbilled) (init W row) := by
  by_cases h : row.status.Terminal <;>
    constructor <;> simp [h,init,Interleave.start,Phase.owing,Phase.unsaved,Phase.Sound]

namespace Stage.Step
variable {w v : W} {g g' : Stage W}
lemma owing_iff (h : Step w g g') (hv : v≠w) : g'=.owing v ↔ g=.owing v := by
  cases h <;> simp [hv.symm]

lemma unsaved_iff (h : Step w g g') (hv : v≠w) : g'=.unsaved v ↔ g=.unsaved v := by
  cases h <;> simp [hv.symm]
end Stage.Step

namespace Sim
variable {g g' : Stage W} {s : Sys W}
lemma eq_unbilled (h : Sim g s) (hrow : ¬s.shared.status.Terminal)
    (hsvd : ∀ v, (s.phase v).unsaved=false) : g=.unbilled := by
  cases g with
  | unbilled => rfl
  | unsaved v =>
    have hv := (h.unsaved v).mpr rfl
    rw [hsvd v] at hv
    cases hv
  | owing v | billed v | closed v => exact absurd (h.terminal.mpr trivial) hrow

variable [DecidableEq W] {w : W} {row' : Task} {p' : Phase} {ev : List Event}
lemma advance (h : Sim g s) (hstep : Stage.Step w g g') (hterm : row'.status.Terminal ↔ g'.Final)
    (hcl : callers (s.log++ev.map (Prod.mk w))=g'.callers) (hmov : movers (s.log++ev.map (Prod.mk w))=g'.movers)
    (hown : p'.owing=true ↔ g'=.owing w) (huns : p'.unsaved=true ↔ g'=.unsaved w)
    (hsnd : p'.Sound) (hfail : s.shared.status=.failure → row'.status=.failure)
    (href : ∀ task, p'=.refunding task → row'.status=.failure) (hrfn : refunders (s.log++ev.map (Prod.mk w))≠[] →
      row'.status=.failure ∨ ∃ v, g'=.unsaved v) : Sim g' (s.advance w (row',p',ev)) where
  terminal := hterm
  callers_eq := hcl
  movers_eq := hmov
  owing := forall_phase_advance (fun v (p : Phase) => p.owing=true ↔ g=.owing v)
    (fun v (p : Phase) => p.owing=true ↔ g'=.owing v) h.owing hown
    fun _ hv hp => hp.trans (hstep.owing_iff hv).symm
  unsaved := forall_phase_advance (fun v (p : Phase) => p.unsaved=true ↔ g=.unsaved v)
    (fun v (p : Phase) => p.unsaved=true ↔ g'=.unsaved v) h.unsaved huns
    fun _ hv hp => hp.trans (hstep.unsaved_iff hv).symm
  sound := forall_phase_advance (fun _ (p : Phase) => p.Sound) (fun _ (p : Phase) => p.Sound) h.sound hsnd
    fun _ _ hp => hp
  refunding := forall_phase_advance
    (fun _ (p : Phase) => ∀ task, p=.refunding task → s.shared.status=.failure)
    (fun _ (p : Phase) => ∀ task, p=.refunding task → row'.status=.failure) h.refunding href
    fun _ _ hp task ht => hfail (hp task ht)
  refunded := hrfn

lemma stay (h : Sim g s) (hterm : row'.status.Terminal ↔ s.shared.status.Terminal)
    (hcl : callers (s.log++ev.map (Prod.mk w))=callers s.log) (hmov : movers (s.log++ev.map (Prod.mk w))=movers s.log)
    (href : refunders (s.log++ev.map (Prod.mk w))=refunders s.log) (hp : p'.owing=false ∧ p'.unsaved=false)
    (hfree : (s.phase w).owing=false ∧ (s.phase w).unsaved=false)
    (hsnd : p'.Sound) (hfail : s.shared.status=.failure → row'.status=.failure) : Sim g (s.advance w (row',p',ev)) := by
  refine h.advance (.stay g) (hterm.trans h.terminal) (hcl.trans h.callers_eq)
    (hmov.trans h.movers_eq) ?_ ?_ hsnd hfail ?_ ?_
  · rw [← h.owing,hp.1,hfree.1]
  · rw [← h.unsaved,hp.2,hfree.2]
  · rintro task rfl
    cases hp.1
  · rw [href]
    intro hr
    exact (h.refunded hr).imp_left hfail

lemma write (h : Sim .unbilled s) (hp : p'.unsaved=false) (hsnd : p'.Sound)
    (hown : p'.owing=true → row'.status.Terminal) (href : ∀ task, p'=.refunding task → row'.status=.failure) :
    ∃ g', Stage.Step w .unbilled g' ∧ Sim g' (s.advance w (row',p',[.wrote s.shared.status row'.status])) := by
  have hrow : ¬s.shared.status.Terminal := fun ht => h.terminal.mp ht
  have hfail : s.shared.status=.failure → row'.status=.failure := fun hf => absurd (.inl hf) hrow
  have hcl : callers s.log=[] := h.callers_eq
  have hmov : movers s.log=[] := h.movers_eq
  have hrfn : refunders s.log=[] := by
    by_contra hr
    rcases h.refunded hr with hf | ⟨v,hv⟩
    · exact hrow (.inl hf)
    · cases hv
  by_cases ht : row'.status.Terminal
  · cases ho : p'.owing with
    | true =>
      refine ⟨.owing w,.fail,h.advance .fail ?_ ?_ ?_ ?_ ?_ hsnd hfail href ?_⟩ <;>
        simp [ht,ho,hp,hrow,hcl,hmov,hrfn]
    | false =>
      refine ⟨.closed (some w),.close,h.advance .close ?_ ?_ ?_ ?_ ?_ hsnd hfail href ?_⟩ <;>
        simp [ht,ho,hp,hrow,hcl,hmov,hrfn]
  · have ho : p'.owing=false := Bool.eq_false_iff.mpr fun hc => ht (hown hc)
    refine ⟨.unbilled,.stay _,h.advance (.stay _) ?_ ?_ ?_ ?_ ?_ hsnd hfail href ?_⟩ <;>
      simp [ht,ho,hp,hcl,hmov,hrfn]

lemma rewrite (h : Sim g s) (hrow : s.shared.status.Terminal) (hrow' : row'.status.Terminal)
    (hfail : s.shared.status=.failure → row'.status=.failure)
    (hfree : (s.phase w).owing=false ∧ (s.phase w).unsaved=false) :
    Sim g (s.advance w (row',.done,[.wrote s.shared.status row'.status])) := by
  refine h.stay (by simp [hrow,hrow']) ?_ ?_ ?_ ⟨rfl,rfl⟩ hfree trivial hfail <;>
    simp [hrow]

lemma pay (h : Sim (.owing w) s) {e : Event} (hcall : e.isCall=true) (hmove : e.isMove=false)
    (href : e.isRefund=true → s.shared.status=.failure) : Sim (.billed w) (s.advance w (s.shared,.done,[e])) := by
  have hcl : callers s.log=[] := h.callers_eq
  have hmov : movers s.log=[w] := h.movers_eq
  refine h.advance .pay (by simp [h.terminal]) (by simp [hcl,hcall,-Event.isCall])
    (by simp [hmov,hmove,-Event.isMove]) (by simp [Phase.owing]) (by simp [Phase.unsaved]) trivial id
    (by simp) ?_
  intro hr
  cases he : e.isRefund with
  | true => exact .inl (href he)
  | false =>
    simp only [map_cons,map_nil,authors_append_one,he,Bool.false_eq_true,if_false,append_nil] at hr
    rcases h.refunded hr with hf | ⟨v,hv⟩
    · exact .inl hf
    · cases hv

variable {rest : List SunoDataResponse}
lemma prepay (h : Sim .unbilled s) {task : Task} (hfail : task.status=.failure) (ok : Bool) :
    Sim (.unsaved w) (s.advance w (s.shared,.sunoSave task rest true,[refundTaskQuota task ok])) := by
  have hrow : ¬s.shared.status.Terminal := fun ht => h.terminal.mp ht
  have hcl : callers s.log=[] := h.callers_eq
  have hmov : movers s.log=[] := h.movers_eq
  refine h.advance .refundFirst ?_ ?_ ?_ ?_ ?_ (by simpa [Phase.Sound]) id (by simp) (fun _ => .inr ⟨w,rfl⟩) <;>
    simp [hrow,hcl,hmov,Phase.owing,Phase.unsaved,refundTaskQuota]

lemma save (h : Sim (.unsaved w) s) (hfail : row'.status=.failure) :
    Sim (.billed w) (s.advance w (row',.sunoItems row' rest,[.wrote s.shared.status row'.status])) := by
  have hrow' : row'.status.Terminal := .inl hfail
  have hrow : ¬s.shared.status.Terminal := fun ht => h.terminal.mp ht
  have hcl : callers s.log=[w] := h.callers_eq
  have hmov : movers s.log=[] := h.movers_eq
  refine h.advance .save ?_ ?_ ?_ ?_ ?_ trivial (fun _ => hfail) (by simp) (fun _ => .inl hfail) <;>
    simp [hrow',hrow,hcl,hmov,Phase.owing,Phase.unsaved]
end Sim

section
variable [DecidableEq W] {cfg : Config} {g : Stage W} {s t : Sys W}
lemma sim_effect {w : W} {a : Act} {row' : Task} {p' : Phase} {ev : List Event} (h : Sim g s)
    (hc : Careful s (w,a)) (he : Effect cfg s.shared (s.phase w) a row' p' ev) :
    ∃ g', Stage.Step w g g' ∧ Sim g' (s.advance w (row',p',ev)) := by
  obtain ⟨hoth,hc⟩ := hc
  have hsvd : a.touches=true → (s.phase w).unsaved=false → ∀ v, (s.phase v).unsaved=false := by
    intro ha hw v
    by_cases hv : v=w
    · rw [hv]; exact hw
    · exact hoth ha v hv
  have hsnd := h.sound w
  generalize hp : s.phase w=p at *
  cases he with
  | silent free free' sound carries copied =>
    exact ⟨g,.stay g,h.stay .rfl (by simp) (by simp) (by simp) free' (hp ▸ free) sound id⟩
  | swept matched =>
    have hrow : ¬s.shared.status.Terminal := matched ▸ hsnd
    obtain rfl := h.eq_unbilled hrow (hsvd rfl rfl)
    refine h.write ?_ ?_ (fun _ => .inl rfl) (fun _ _ => rfl)
    · split <;> rfl
    · split <;> trivial
  | @stored _ _ r settle _ matched =>
    obtain ⟨hsnap,hr,hs⟩ := hsnd
    have hrow : ¬s.shared.status.Terminal := matched ▸ hsnap
    obtain rfl := h.eq_unbilled hrow (hsvd rfl rfl)
    cases settle with
    | true =>
      have hsuccess := hs.mp rfl
      have hr' : r=false := Bool.eq_false_iff.mpr fun hc => by simp [(hr.mp hc).1] at hsuccess
      exact h.write rfl hr' (fun _ => .inr hsuccess) (by simp [billingPhase])
    | false =>
      cases r with
      | true => exact h.write rfl trivial (fun _ => .inl (hr.mp rfl).1) (fun _ _ => (hr.mp rfl).1)
      | false => exact h.write rfl trivial (by simp [billingPhase,Phase.owing]) (by simp [billingPhase])
  | fetched matched =>
    by_cases hrow : s.shared.status.Terminal
    · have hkeep : row'.status=s.shared.status :=
        (of_decide_eq_true hc (matched ▸ hrow)).trans matched.symm
      exact ⟨g,.stay g,h.rewrite hrow (hkeep ▸ hrow) hkeep.trans (by rw [hp]; exact ⟨rfl,rfl⟩)⟩
    · obtain rfl := h.eq_unbilled hrow (hsvd rfl rfl)
      exact h.write rfl trivial (by simp [Phase.owing]) (by simp)
  | bulk reason ha =>
    by_cases hrow : s.shared.status.Terminal
    · exact ⟨g,.stay g,h.rewrite hrow (.inl rfl) (fun _ => rfl) (by rw [hp]; exact ⟨rfl,rfl⟩)⟩
    have htch : a.touches=true := by rcases ha with rfl | rfl <;> rfl
    obtain rfl := h.eq_unbilled hrow (hsvd htch rfl)
    exact h.write rfl trivial (by simp [Phase.owing]) (by simp)
  | @saved _ _ refunded =>
    cases refunded with
    | true =>
      obtain rfl := (h.unsaved w).mp (by rw [hp]; rfl)
      exact ⟨.billed w,.save,h.save (hsnd.mp rfl)⟩
    | false =>
      obtain rfl := h.eq_unbilled (of_decide_eq_true hc) (hsvd rfl rfl)
      exact h.write rfl trivial (by simp [Phase.owing]) (by simp)
  | @saveFailed _ _ refunded =>
    cases refunded with
    | true => cases hc
    | false =>
      exact ⟨g,.stay g,h.stay .rfl (by simp) (by simp) (by simp) ⟨rfl,rfl⟩ (by rw [hp]; exact ⟨rfl,rfl⟩)
        trivial id⟩
  | prepaid =>
    obtain ⟨hrow,hfail⟩ := of_decide_eq_true hc
    obtain rfl := h.eq_unbilled hrow (hsvd rfl rfl)
    exact ⟨.unsaved w,.refundFirst,h.prepay hfail _⟩
  | settled =>
    obtain rfl := (h.owing w).mp (by rw [hp]; rfl)
    exact ⟨.billed w,.pay,h.pay rfl rfl (by simp)⟩
  | refunded =>
    obtain rfl := (h.owing w).mp (by rw [hp]; rfl)
    exact ⟨.billed w,.pay,h.pay rfl rfl fun _ => h.refunding w _ hp⟩

lemma sim_step {x : W × Act} (h : Sim g s) (hc : Careful s x) (hx : step cfg s x=some t) :
    ∃ g', Stage.Step x.1 g g' ∧ Sim g' t := by
  obtain ⟨w,a⟩ := x
  obtain ⟨⟨row',p',ev⟩,hnext,rfl⟩ := step_eq_some.mp hx
  exact sim_effect h hc (next_effect (h.sound w) hnext)
end

/-- The steps of `sweepTimedOutTasks` and `updateVideoSingleTask`. -/
def Act.ofSweepOrVideo : Act → Bool
  | .loadTimedOut _ | .loadUnfinished | .answer _ _ | .store _ _ | .bill _ => true
  | _ => false

def Phase.background : Phase → Bool
  | .idle | .sweeping _ | .polled _ | .videoStore _ _ _ _ | .settling _ _ | .refunding _ | .done => true
  | _ => false

lemma billingPhase_background (task : Task) (r s : Bool) : (billingPhase task r s).background=true := by
  unfold billingPhase
  split
  · rfl
  · split <;> rfl

lemma next_background {cfg : Config} {row row' : Task} {p p' : Phase} {a : Act} {ev : List Event}
    (hp : p.background=true) (ha : a.ofSweepOrVideo=true)
    (h : next cfg row p a=some (row',p',ev)) : p'.background=true := by
  cases p <;> simp only [Phase.background,Bool.false_eq_true] at hp <;>
    cases a <;> simp only [Act.ofSweepOrVideo,Bool.false_eq_true] at ha <;>
    simp only [next,reduceCtorEq] at h
  case idle.loadTimedOut | idle.loadUnfinished =>
    split at h
    · cases h; rfl
    · cases h
  case sweeping.store =>
    split at h
    · cases h; rfl
    · cases h; split <;> rfl
  case polled.answer =>
    simp only [Option.ite_none_right_eq_some] at h
    obtain ⟨-,h⟩ := h
    split at h
    · cases h; rfl
    · split at h <;> (cases h; rfl)
  case videoStore.store => cases h; exact billingPhase_background _ _ _
  case settling.bill => cases h; split <;> rfl
  case refunding.bill => cases h; rfl

lemma careful_of_background {s : Sys W} (h : ∀ v, (s.phase v).background=true) (x : W × Act) : Careful s x := by
  refine ⟨fun _ v _ => ?_,?_⟩
  · have hv := h v
    cases hp : s.phase v <;> simp_all [Phase.background,Phase.unsaved]
  · have hx := h x.1
    cases hp : s.phase x.1 <;> simp_all [Phase.background,Phase.careful]

/-- In every interleaving of sweeps and video polls, on any nodes and with any answers, at most one
execution makes a billing call, and it is the one whose write moved the row into its terminal
status. -/
theorem background_bills_at_most_once [DecidableEq W] (cfg : Config) (row : Task)
    {as : List (W × Act)} {t : Sys W}
    (h : Runs (step cfg) (fun _ x => x.2.ofSweepOrVideo=true) (init W row) as t) :
    (callers t.log).length≤1 ∧ (movers t.log).length≤1 ∧ ∀ w∈callers t.log, w∈movers t.log := by
  have hinv : (∃ g, Sim g t) ∧ ∀ v, (t.phase v).background=true := by
    refine h.invariant (fun s => (∃ g, Sim g s) ∧ ∀ v, (s.phase v).background=true) ?_
      ⟨⟨_,sim_init row⟩,fun _ => rfl⟩
    rintro s ⟨w,a⟩ t ⟨⟨g,hg⟩,hb⟩ ha hx
    obtain ⟨g',-,hg'⟩ := sim_step hg (careful_of_background hb (w,a)) hx
    obtain ⟨⟨row',p',ev⟩,hnext,rfl⟩ := step_eq_some.mp hx
    exact ⟨⟨g',hg'⟩,forall_phase_advance (fun _ (p : Phase) => p.background=true)
      (fun _ (p : Phase) => p.background=true) hb (next_background (hb w) ha hnext) fun _ _ hp => hp⟩
  obtain ⟨⟨g,hg⟩,hb⟩ := hinv
  have hsvd : ∀ v, g≠.unsaved v := by
    intro v hv
    have hu := (hg.unsaved v).mpr hv
    have hbv := hb v
    cases hp : t.phase v <;> simp_all [Phase.background,Phase.unsaved]
  rw [hg.callers_eq,hg.movers_eq]
  exact ⟨g.callers_length_le,g.movers_length_le,fun w hw => g.mem_movers_of_mem_callers hsvd hw⟩

def videoTask : Task :=
  (Task.initTask (.other "50") "task_1" 7 3 1800000000).submit "up" .wallet 0 500 []

/-- A sweep and a video poll both loaded the row and both see it fail; the sweep stores first. -/
def sweepBeatsPoll : List (Fin 2 × Act) :=
  [(0,.loadTimedOut 1800007200),(1,.loadUnfinished),
    (1,.answer (.body ⟨.failure,"rejected","",""⟩ .notJson []) 1800007201),
    (0,.store 1800007202 false),(1,.store 1800007203 false),(0,.bill true)]

theorem sweepBeatsPoll_bills_once :
    ∃ t, exec (step ⟨60,""⟩) (init (Fin 2) videoTask) sweepBeatsPoll=some t ∧ callers t.log=[0] ∧
      (callers t.log).length≤1 ∧ (movers t.log).length≤1 ∧ ∀ w∈callers t.log, w∈movers t.log := by
  obtain ⟨t,hexec,hruns,hcall⟩ := checked_run (step ⟨60,""⟩) (fun _ x => x.2.ofSweepOrVideo=true)
    (init (Fin 2) videoTask) sweepBeatsPoll (fun t => callers t.log=[0]) (by decide)
  exact ⟨t,hexec,hcall,background_bills_at_most_once _ _ hruns⟩
end AronaApi.AsyncTask
