import AronaApi.AsyncTask.Billing

/-! Refunds of Suno tasks. `updateSunoTasks` refunds first and then writes its whole copy back with
`Save`, so nothing in the row tells another pass, or a timeout sweep, that the refund was made.

Terminal statuses over all writers of a task row. Two of the writers do not fit the billing
automaton of the pollers: a user's realtime fetch writes the upstream's status over any row, and the
bulk updates fail a row without refunding it. -/
namespace AronaApi.AsyncTask
open Schedule List

section
variable {W : Type*}
/-- The steps of `updateSunoTasks` and `sweepTimedOutTasks`. -/
def Act.ofSweepOrSuno : Act → Bool
  | .loadTimedOut _ | .loadUnfinished | .sunoAnswer _ | .sunoNext | .store _ _ | .bill _ => true
  | _ => false

lemma authors_length_le (kind kind' : Event → Bool) (h : ∀ e, kind e=true → kind' e=true)
    (log : List (W × Event)) : (authors kind log).length≤(authors kind' log).length := by
  unfold authors
  rw [length_map,length_map]
  exact (monotone_filter_right log fun e he => h e.2 he).length_le

lemma Sim.refund_once {g : Stage W} {s : Sys W} (h : Sim g s) : (refunders s.log).length≤1 ∧
      (refunders s.log≠[] → (∀ v, (s.phase v).unsaved=false) → s.shared.status=.failure) := by
  constructor
  · have hcall : ∀ e : Event, e.isRefund=true → e.isCall=true := by
      intro e he
      cases e with
      | wrote => cases he
      | refunded | settled => rfl
    calc (refunders s.log).length≤(callers s.log).length := authors_length_le _ _ hcall s.log
      _=g.callers.length := by rw [h.callers_eq]
      _≤1 := g.callers_length_le
  · intro hr hsvd
    rcases h.refunded hr with hf | ⟨v,hv⟩
    · exact hf
    have hu := (h.unsaved v).mpr hv
    rw [hsvd v] at hu
    cases hu

/-- In every run in which each step is careful, a Suno task is refunded at most once, and a refunded
row whose save is not still under way is in `FAILURE`. -/
theorem suno_refunds_at_most_once_of_careful [DecidableEq W] (cfg : Config) (row : Task)
    {as : List (W × Act)} {t : Sys W}
    (h : Runs (step cfg) (fun s x => x.2.ofSweepOrSuno=true ∧ Careful s x) (init W row) as t) :
    (refunders t.log).length≤1 ∧
      (refunders t.log≠[] → (∀ v, (t.phase v).unsaved=false) → t.shared.status=.failure) := by
  have hinv : ∃ g, Sim g t := by
    refine h.invariant (fun s => ∃ g, Sim g s) ?_ ⟨_,sim_init row⟩
    rintro s x t ⟨g,hg⟩ ⟨-,hc⟩ hx
    obtain ⟨g',-,hg'⟩ := sim_step hg hc hx
    exact ⟨g',hg'⟩
  obtain ⟨g,hg⟩ := hinv
  exact hg.refund_once

def sunoTask : Task :=
  (Task.initTask .suno "task_1" 7 3 1800000000).submit "up" .wallet 0 500 []

def sunoFailed : SunoDataResponse := ⟨.failure,"rejected",1800000000,0,1800000100,[]⟩
def sunoSucceeded : SunoDataResponse := ⟨.success,"",1800000000,0,1800000100,[]⟩

/-- A pass refunds and saves while a sweep that loaded the row earlier comes too late. -/
def passBeatsSweep : List (Fin 2 × Act) :=
  [(0,.loadUnfinished),(1,.loadTimedOut 1800007200),(0,.sunoAnswer [sunoFailed]),(0,.sunoNext),
    (0,.bill true),(0,.store 1800007201 false),(1,.store 1800007202 false)]

theorem passBeatsSweep_refunds_once :
    ∃ t, exec (step ⟨60,""⟩) (init (Fin 2) sunoTask) passBeatsSweep=some t ∧ refunders t.log=[0] ∧
      (refunders t.log).length≤1 ∧
      (refunders t.log≠[] → (∀ v, (t.phase v).unsaved=false) → t.shared.status=.failure) := by
  obtain ⟨t,hexec,hruns,href⟩ := checked_run (step ⟨60,""⟩) (fun s x => x.2.ofSweepOrSuno=true ∧ Careful s x)
    (init (Fin 2) sunoTask) passBeatsSweep (fun t => refunders t.log=[0]) (by decide)
  exact ⟨t,hexec,href,suno_refunds_at_most_once_of_careful _ _ hruns⟩

/-- Three passes on three nodes load the row. Two are told that it failed and refund it; the third,
told that it succeeded, saves last. -/
def threePasses : List (Fin 3 × Act) :=
  [(0,.loadUnfinished),(1,.loadUnfinished),(2,.loadUnfinished),
    (0,.sunoAnswer [sunoFailed]),(1,.sunoAnswer [sunoFailed]),(2,.sunoAnswer [sunoSucceeded]),
    (0,.sunoNext),(0,.bill true),(0,.store 1800000101 false),
    (1,.sunoNext),(1,.bill true),(1,.store 1800000102 false),
    (2,.sunoNext),(2,.store 1800000103 false)]

/-- Two refunds, and the refunded row ends in `SUCCESS`. -/
theorem threePasses_refund_twice :
    ∃ t, Runs (step ⟨60,""⟩) (fun _ x => x.2.ofSweepOrSuno=true) (init (Fin 3) sunoTask) threePasses t ∧
      refunders t.log=[0,1] ∧ t.shared.status=.success ∧ ∀ v, (t.phase v).unsaved=false := by
  obtain ⟨t,-,hend⟩ := checked_run (step ⟨60,""⟩) (fun _ x => x.2.ofSweepOrSuno=true) (init (Fin 3) sunoTask) threePasses
    (fun t => refunders t.log=[0,1] ∧ t.shared.status=.success ∧ ∀ v, (t.phase v).unsaved=false) (by decide)
  exact ⟨t,hend⟩
end

open Interleave Event
variable {W : Type*}
def returned (log : List (W × Event)) : List (Fund × ℤ) :=
  log.filterMap fun e => match e.2 with
    | .refunded r => r
    | _ => none

/-- What one successful refund of the charge `c` gives back. -/
def due (c : Fund × ℤ) : List (Fund × ℤ) := if c.2≠0 then [c] else []

lemma returned_append (log log' : List (W × Event)) :
    returned (log++log')=returned log++returned log' := by simp [returned]

lemma returned_refund (w : W) (task : Task) : returned [(w,refundTaskQuota task true)]=due task.charge := by
  by_cases h : task.quota=0 <;> simp [returned,refundTaskQuota,due,Task.charge,h]

/-- Nothing is owed for the row when it fails: `sweepTimedOutTasks` leaves old rows unrefunded. -/
def Task.Exempt (t : Task) : Prop := t.quota=0 ∨ t.IsLegacy

instance (t : Task) : Decidable t.Exempt := inferInstanceAs (Decidable (_ ∨ _))

lemma Task.exempt_congr {t u : Task} (hqt : t.quota=u.quota) (htime : t.submitTime=u.submitTime) :
    t.Exempt ↔ u.Exempt := by simp only [Task.Exempt,Task.IsLegacy,hqt,htime]

/-- What the writers outside the automaton have to respect: a bulk update finds the row failed
already, or unfinished with nothing owed; a realtime fetch brings no new failure for which something
is owed; the refund's write goes through. -/
def Phase.diligent (row : Task) : Phase → Act → Bool
  | .polled _,.nullUpstream false | .polled _,.channelMissing false =>
    decide (row.status=.failure ∨ ¬row.status.Terminal ∧ row.Exempt)
  | .fetchStore snap task,.store _ false =>
    decide (task.status=.failure → snap.status=.failure ∨ task.Exempt)
  | .sunoRefund _ _,.bill fundingOk | .refunding _,.bill fundingOk => fundingOk
  | _,_ => true

def Diligent (s : Sys W) (x : W × Act) : Prop :=
  Careful s x ∧ (s.phase x.1).diligent s.shared x.2=true

instance [Fintype W] [DecidableEq W] (s : Sys W) (x : W × Act) : Decidable (Diligent s x) :=
  inferInstanceAs (Decidable (_ ∧ _))

/-- The books of a row that was charged `c`. -/
structure Kept (c : Fund × ℤ) (s : Sys W) : Prop where
  charge : s.shared.charge=c
  carries : ∀ v, (s.phase v).Carries c
  frozen : ∀ v snap, (s.phase v).fetchCopy=some snap → snap.status.Terminal →
    s.shared.status=snap.status ∧ s.shared.submitTime=snap.submitTime
  absorbing : ∀ w old new, (w,wrote old new)∈s.log → old.Terminal → new=old
  returned_eq : returned s.log=(refunders s.log).flatMap fun _ => due c
  announced : ∀ v, (s.phase v).unsaved=true → refunders s.log≠[]
  paid : s.shared.status=.failure → ¬s.shared.Exempt → refunders s.log≠[] ∨ ∃ v task, s.phase v=.refunding task

lemma kept_init {row : Task} (h : ¬row.status.Terminal) : Kept row.charge (init W row) where
  charge := rfl
  carries := fun _ => trivial
  frozen := by simp [init,Interleave.start,Phase.fetchCopy]
  absorbing := by simp [init,Interleave.start]
  returned_eq := rfl
  announced := by simp [init,Interleave.start,Phase.unsaved]
  paid := fun hf => absurd (.inl hf) h

section
variable {cfg : Config} {g : Stage W} {c : Fund × ℤ} {s : Sys W} {w : W} {a : Act} {row' : Task}
  {p' : Phase} {ev : List Event} {p : Phase}

lemma Kept.finished (hk : Kept c s) (hg : Sim g s) (hd : Diligent s (w,a))
    (he : Effect cfg s.shared (s.phase w) a row' p' ev) (hrow : s.shared.status.Terminal) :
    row'.status=s.shared.status ∧ row'.submitTime=s.shared.submitTime := by
  obtain ⟨⟨-,hc⟩,hd⟩ := hd
  have hsnd := hg.sound w
  have hfroz := hk.frozen w
  have huns := hg.unsaved w
  generalize s.phase w=p at *
  cases he with
  | silent | saveFailed | prepaid | settled | refunded => exact ⟨rfl,rfl⟩
  | swept matched => exact absurd (matched ▸ hrow) hsnd
  | stored matched => exact absurd (matched ▸ hrow) hsnd.1
  | fetched matched =>
    obtain ⟨-,htime⟩ := hfroz _ rfl (matched ▸ hrow)
    exact ⟨(of_decide_eq_true hc (matched ▸ hrow)).trans matched.symm,hsnd.trans htime.symm⟩
  | bulk reason ha =>
    rcases ha with rfl | rfl <;> rcases of_decide_eq_true hd with hf | ⟨hn,-⟩
    · exact ⟨hf.symm,rfl⟩
    · exact absurd hrow hn
    · exact ⟨hf.symm,rfl⟩
    · exact absurd hrow hn
  | @saved _ _ refunded =>
    cases refunded with
    | true =>
      obtain rfl := huns.mp rfl
      exact (hg.terminal.mp hrow).elim
    | false => exact absurd hrow (of_decide_eq_true hc)

lemma Kept.charge_effect (hk : Kept c s) (he : Effect cfg s.shared (s.phase w) a row' p' ev) :
    row'.charge=c ∧ p'.Carries c := by
  have hrow := hk.charge
  have hp := hk.carries w
  generalize s.phase w=p at *
  cases he with
  | silent free free' sound carries copied => exact ⟨hrow,carries c hrow hp⟩
  | swept matched =>
    refine ⟨hp,?_⟩
    split
    · exact hp
    · trivial
  | stored matched =>
    refine ⟨hp.2,?_⟩
    unfold billingPhase
    split
    · exact hp.2
    split
    · exact hp.2
    · trivial
  | fetched matched => exact ⟨hp.2,trivial⟩
  | bulk reason ha | settled | refunded => exact ⟨hrow,trivial⟩
  | saved => exact ⟨hp,hp⟩
  | saveFailed | prepaid => exact ⟨hrow,hp⟩

variable {row : Task}
section
variable (he : Effect cfg row p a row' p' ev)
include he
lemma Effect.fetchCopy {snap : Task} (h : p'.fetchCopy=some snap) : row'=row ∧ (snap=row ∨ p.fetchCopy=some snap) := by
  cases he with
  | silent free free' sound carries copied => exact ⟨rfl,copied snap h⟩
  | swept matched => split at h <;> cases h
  | @stored _ _ r s =>
    unfold billingPhase at h
    split at h
    · cases h
    · split at h <;> cases h
  | _ => cases h

lemma Effect.wrote {old new : TaskStatus} (h : wrote old new∈ev) : old=row.status ∧ new=row'.status := by
  cases he with
  | silent | saveFailed => cases h
  | prepaid | settled | refunded => simp [refundTaskQuota] at h
  | swept | stored | fetched | bulk | saved => simpa [timeOut,Task.taskBulkUpdateByID] using h

lemma Effect.returned (hd : p.diligent row a=true) (hp : p.Carries c) :
    AsyncTask.returned (ev.map (Prod.mk w)) = (refunders (ev.map (Prod.mk w))).flatMap fun _ => due c := by
  cases he with
  | silent | saveFailed | swept | stored | fetched | bulk | saved | settled => rfl
  | prepaid | refunded =>
    obtain rfl : _=true := hd
    obtain rfl : Task.charge _=c := hp
    simpa [authors,refundTaskQuota,isRefund] using returned_refund w _
end

lemma Effect.announced (w : W) (he : Effect cfg row p a row' p' ev) (h : p'.unsaved=true) :
    refunders (ev.map (Prod.mk w))≠[] := by
  cases he with
  | silent _ free' => rw [free'.2] at h; cases h
  | prepaid => simp [authors,refundTaskQuota,isRefund]
  | swept => split at h <;> cases h
  | stored =>
    unfold billingPhase at h
    split at h
    · cases h
    · split at h <;> cases h
  | _ => cases h

variable [DecidableEq W]
lemma authors_subset_advance (kind : Event → Bool) (h : authors kind s.log≠[]) :
    authors kind (s.advance w (row',p',ev)).log≠[] := by
  rw [advance_log,authors_append]
  exact append_ne_nil_of_left_ne_nil h _

lemma Kept.paid_effect (hk : Kept c s) (hg : Sim g s) (hd : Diligent s (w,a))
    (he : Effect cfg s.shared (s.phase w) a row' p' ev) (hf : row'.status=.failure) (howed : ¬row'.Exempt) :
    refunders (s.advance w (row',p',ev)).log≠[] ∨ ∃ v task, (s.advance w (row',p',ev)).phase v=.refunding task := by
  -- the row was in this state before and the acting worker is not the one about to refund
  have hbef : s.shared.status=.failure → ¬s.shared.Exempt → (∀ task, s.phase w≠.refunding task) →
      refunders (s.advance w (row',p',ev)).log≠[] ∨ ∃ v task, (s.advance w (row',p',ev)).phase v=.refunding task := by
    intro hf ho hw
    rcases hk.paid hf ho with hr | ⟨v,task,hv⟩
    · exact .inl (authors_subset_advance _ hr)
    have hne : v≠w := by rintro rfl; exact hw task hv
    exact .inr ⟨v,task,by rw [advance_phase_of_ne _ _ hne,hv]⟩
  have hsnd := hg.sound w
  have hchar := hk.charge_effect he
  have hfin := hk.finished hg hd he
  have hann := hk.announced w
  obtain ⟨-,hd⟩ := hd
  generalize hp : s.phase w=p at *
  cases he with
  | silent free => exact hbef hf howed fun task ht => by simp [ht,Phase.owing] at free
  | @swept task =>
    by_cases href : ¬task.IsLegacy ∧ task.quota≠0
    · exact .inr ⟨w,_,by rw [advance_phase_self]; exact if_pos href⟩
    rcases not_and_or.mp href with hleg | hqt
    · exact absurd (.inr (not_not.mp hleg)) howed
    · exact absurd (.inl (not_not.mp hqt)) howed
  | @stored _ _ r settle =>
    obtain ⟨-,hr,hs⟩ := hsnd
    obtain rfl : r=true := hr.mpr ⟨hf,fun hq => howed (.inl hq)⟩
    obtain rfl : settle=false := Bool.eq_false_iff.mpr fun h => by simp [hs.mp h] at hf
    exact .inr ⟨w,_,advance_phase_self _ _ _⟩
  | fetched matched =>
    rcases of_decide_eq_true hd hf with hsnap | hexem
    · have hrow : s.shared.status=.failure := matched.trans hsnap
      have hqt : row'.quota=s.shared.quota := congrArg Prod.snd (hchar.1.trans hk.charge.symm)
      have htime := (hfin (.inl hrow)).2
      exact hbef hrow (fun h => howed ((Task.exempt_congr hqt htime).mpr h)) (by simp)
    · exact absurd hexem howed
  | bulk reason ha =>
    have hrow : s.shared.status=.failure ∨ ¬s.shared.status.Terminal ∧ s.shared.Exempt := by
      rcases ha with rfl | rfl <;> exact of_decide_eq_true hd
    rcases hrow with hrow | ⟨-,hexem⟩
    · exact hbef hrow howed (by simp)
    · exact absurd hexem howed
  | @saved _ _ refunded =>
    obtain rfl : refunded=true := hsnd.mpr hf
    exact .inl (authors_subset_advance _ (hann rfl))
  | saveFailed | settled => exact hbef hf howed (by simp)
  | prepaid | refunded => exact .inl (by simp [refundTaskQuota,isRefund])

lemma Kept.effect (hk : Kept c s) (hg : Sim g s) (hd : Diligent s (w,a))
    (he : Effect cfg s.shared (s.phase w) a row' p' ev) : Kept c (s.advance w (row',p',ev)) := by
  have hfin := hk.finished hg hd he
  constructor
  · exact (hk.charge_effect he).1
  · exact forall_phase_advance (fun _ (p : Phase) => p.Carries c)
      (fun _ (p : Phase) => p.Carries c) hk.carries (hk.charge_effect he).2 fun _ _ hp => hp
  · refine forall_phase_advance
      (fun _ (p : Phase) => ∀ snap, p.fetchCopy=some snap → snap.status.Terminal →
        s.shared.status=snap.status ∧ s.shared.submitTime=snap.submitTime)
      (fun _ (p : Phase) => ∀ snap, p.fetchCopy=some snap → snap.status.Terminal →
        row'.status=snap.status ∧ row'.submitTime=snap.submitTime) hk.frozen ?_ ?_
    · intro snap hsnap ht
      obtain ⟨rfl,rfl | hold⟩ := he.fetchCopy hsnap
      · exact ⟨rfl,rfl⟩
      · exact hk.frozen w snap hold ht
    · intro v _ hold snap hsnap ht
      obtain ⟨hstatus,htime⟩ := hold snap hsnap ht
      obtain ⟨hst',htm'⟩ := hfin (hstatus ▸ ht)
      exact ⟨hst'.trans hstatus,htm'.trans htime⟩
  · intro v old new hmem hold
    rw [advance_log,mem_append] at hmem
    rcases hmem with hmem | hmem
    · exact hk.absorbing v old new hmem hold
    obtain ⟨e,hev,heq⟩ := mem_map.mp hmem
    cases heq
    obtain ⟨rfl,rfl⟩ := he.wrote hev
    exact (hfin hold).1
  · rw [advance_log,returned_append,hk.returned_eq,he.returned hd.2 (hk.carries w)]
    simp only [refunders,authors_append,flatMap_append]
  · refine forall_phase_advance
      (fun _ (p : Phase) => p.unsaved=true → refunders s.log≠[])
      (fun _ (p : Phase) => p.unsaved=true → refunders (s.advance w (row',p',ev)).log≠[])
      hk.announced ?_ fun _ _ hold hu => authors_subset_advance _ (hold hu)
    intro hu
    simp only [advance_log,refunders,authors_append]
    exact append_ne_nil_of_right_ne_nil _ (he.announced w hu)
  · exact hk.paid_effect hg hd he
end

/-- In every run of careful and diligent steps over all writers: a finished row is never written with
another status; at most one refund is returned; and a failed row for which something is owed, with no
worker still about to bill or to save it, has had exactly its charge returned. -/
theorem terminal_absorbing_and_refunded_of_diligent [DecidableEq W] (cfg : Config) {row : Task}
    (hrow : ¬row.status.Terminal) {as : List (W × Act)} {t : Sys W}
    (h : Runs (step cfg) Diligent (init W row) as t) :
    (∀ w old new, (w,wrote old new)∈t.log → old.Terminal → new=old) ∧ (returned t.log).length≤1 ∧
      (t.shared.status=.failure → t.shared.quota≠0 → ¬t.shared.IsLegacy →
        (∀ v, (t.phase v).owing=false ∧ (t.phase v).unsaved=false) →
        returned t.log=[t.shared.charge]) := by
  have hinv : (∃ g, Sim g t) ∧ Kept row.charge t := by
    refine h.invariant (fun s => (∃ g, Sim g s) ∧ Kept row.charge s) ?_ ⟨⟨_,sim_init row⟩,kept_init hrow⟩
    rintro s ⟨w,a⟩ t ⟨⟨g,hg⟩,hk⟩ hd hx
    obtain ⟨⟨row',p',ev⟩,hnext,rfl⟩ := step_eq_some.mp hx
    have he := next_effect (hg.sound w) hnext
    obtain ⟨g',-,hg'⟩ := sim_effect hg hd.1 he
    exact ⟨⟨g',hg'⟩,hk.effect hg hd he⟩
  obtain ⟨⟨g,hg⟩,hk⟩ := hinv
  have honce : refunders t.log=[] ∨ ∃ w, refunders t.log=[w] := by
    rcases Nat.le_one_iff_eq_zero_or_eq_one.mp hg.refund_once.1 with h0 | h1
    · exact .inl (length_eq_zero_iff.mp h0)
    · exact .inr (length_eq_one_iff.mp h1)
  have hret := hk.returned_eq
  refine ⟨hk.absorbing,?_,?_⟩
  · rw [hret]
    rcases honce with hr | ⟨w,hr⟩
    · simp [hr]
    · by_cases hc : row.charge.2=0 <;> simp [hr,due,hc]
  · intro hf hqt hleg hidle
    have href : refunders t.log≠[] := by
      rcases hk.paid hf (by simp [Task.Exempt,hqt,hleg]) with hr | ⟨v,task,hv⟩
      · exact hr
      have hown := (hidle v).1
      rw [hv] at hown
      cases hown
    have hdue : due row.charge=[t.shared.charge] := by
      rw [← hk.charge]
      exact if_pos hqt
    rcases honce with hr | ⟨w,hr⟩
    · exact absurd hr href
    · simpa [hret,hr] using hdue

/-- A poll fails the row and refunds it; a later fetch of the failed row changes its progress only. -/
def fetchAfterFailure : List (Fin 2 × Act) :=
  [(0,.loadUnfinished),(0,.answer (.body ⟨.failure,"rejected","",""⟩ .notJson []) 1800000100),
    (0,.store 1800000101 false),(0,.bill true),
    (1,.loadForFetch),(1,.answer (.body ⟨.failure,"","","99%"⟩ .notJson []) 1800000200),
    (1,.store 1800000201 false)]

theorem fetchAfterFailure_refunded :
    ¬videoTask.status.Terminal ∧
    ∃ t, exec (step ⟨60,""⟩) (init (Fin 2) videoTask) fetchAfterFailure=some t ∧ t.shared.status=.failure ∧
      (∀ w old new, (w,wrote old new)∈t.log → old.Terminal → new=old) ∧
      (returned t.log).length≤1 ∧
      (t.shared.status=.failure → t.shared.quota≠0 → ¬t.shared.IsLegacy →
        (∀ v, (t.phase v).owing=false ∧ (t.phase v).unsaved=false) →
        returned t.log=[t.shared.charge]) := by
  obtain ⟨t,hexec,hruns,hstatus⟩ := checked_run (step ⟨60,""⟩) Diligent (init (Fin 2) videoTask)
    fetchAfterFailure (fun t => t.shared.status=.failure) (by decide)
  exact ⟨by decide,t,hexec,hstatus,terminal_absorbing_and_refunded_of_diligent _ (by decide) hruns⟩

/-- A poll stores and settles a success; then the user fetches the task and the upstream answers that
it failed. -/
def fetchAfterSuccess : List (Fin 2 × Act) :=
  [(0,.loadUnfinished),(0,.answer (.body ⟨.success,"","",""⟩ .notJson []) 1800000100),
    (0,.store 1800000101 false),(0,.bill true),
    (1,.loadForFetch),(1,.answer (.body ⟨.failure,"expired","",""⟩ .notJson []) 1800000200),
    (1,.store 1800000201 false)]

def lostChannel : List (Fin 1 × Act) := [(0,.loadUnfinished),(0,.channelMissing false)]

/-- The fetch moves a finished row from `SUCCESS` to `FAILURE`, and the bulk update fails a charged
row for which nothing is ever returned. -/
theorem fetch_and_bulk_break_terminal :
    (∃ t, exec (step ⟨60,""⟩) (init (Fin 2) videoTask) fetchAfterSuccess=some t ∧
      (1,wrote .success .failure)∈t.log ∧ t.shared.status=.failure) ∧
    ∃ t, exec (step ⟨60,""⟩) (init (Fin 1) videoTask) lostChannel=some t ∧
      t.shared.status=.failure ∧ t.shared.quota≠0 ∧ ¬t.shared.IsLegacy ∧
      (∀ v, (t.phase v).owing=false ∧ (t.phase v).unsaved=false) ∧ returned t.log=[] := by
  constructor
  · refine ⟨_,rfl,?_,?_⟩ <;> decide
  · refine ⟨_,rfl,?_,?_,?_,?_,?_⟩ <;> decide
end AronaApi.AsyncTask
