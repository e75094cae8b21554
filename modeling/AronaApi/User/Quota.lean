import AronaApi.Lib.Sums
import AronaApi.User.Writers

/-! When no update of a user's quota is lost. Changes in place commute with everything; an operation
that writes a whole row back keeps the sum only if the quota it has read is still the current one. -/
namespace AronaApi.UserQuota
open Schedule Interleave RowStore Function
variable {W N : Type*}
def reported (log : List (W × Event)) : ℤ := (log.map fun e => match e.2 with | .reported delta => delta).sum

@[simp] lemma reported_nil : reported ([] : List (W × Event))=0 := rfl
@[simp] lemma reported_append (l l' : List (W × Event)) : reported (l++l')=reported l+reported l' := by simp [reported]
@[simp] lemma reported_one (w : W) (delta : ℤ) : reported [(w,.reported delta)]=delta := by simp [reported]

def held [Fintype N] (s : Shared W N) : ℤ := ∑ n, (s.batch n+(s.flushing n).getD 0)

def column (s : Shared W N) : ℤ := (s.db.committed ()).quota

section
variable [DecidableEq W]
/-- A whole row is only written back while the quota read with it is current (`Updates` skips a
zero), and no batch write fails. -/
def Fresh (job : W → Op N) (s : Sys W N) (x : W × Act) : Prop :=
  match x.2 with
  | .write fails =>
    match job x.1,s.phase x.1 with
    | .transferAffQuotaToQuota _,.read row | .inviteUser,.read row =>
      (s.shared.db.view x.1 ()).quota=row.quota
    | .update _ _,.read row => row.quota≠0 → (s.shared.db.view x.1 ()).quota=row.quota
    | .batchUpdate _,_ => fails=false
    | _,_ => True
  | _ => True

instance (job : W → Op N) (s : Sys W N) (x : W × Act) : Decidable (Fresh job s x) := by
  unfold Fresh
  split
  · split <;> infer_instance
  · infer_instance
end

section
variable [Fintype N]
variable (s : Shared W N)
lemma held_eq : held s = ∑ n, s.batch n+∑ n, (s.flushing n).getD 0 :=
  Finset.sum_add_distrib

@[simp] lemma held_db (db : RowStore W Unit (fun _ => User)) : held { s with db := db }=held s := rfl

variable [DecidableEq N] {n : N}
lemma held_enqueue (n : N) (delta : ℤ) : held { s with batch := update s.batch n (s.batch n+delta) }=held s+delta := by
  have hbtc := sum_apply_update (fun _ v => v) s.batch n (s.batch n+delta)
  rw [held_eq,held_eq,hbtc]
  simp only
  omega

lemma held_take (h : s.flushing n=none) : held { s with
      batch := update s.batch n 0
      flushing := update s.flushing n (some (s.batch n)) }=held s := by
  have hbtc := sum_apply_update (fun _ v => v) s.batch n 0
  have hflus := sum_apply_update (fun _ (v : Option ℤ) => v.getD 0) s.flushing n (some (s.batch n))
  rw [held_eq,held_eq,hbtc,hflus,h]
  simp only [Option.getD_none,Option.getD_some]
  omega

lemma held_flush (db : RowStore W Unit (fun _ => User)) {v : ℤ} (h : s.flushing n=some v) :
    held { s with db := db, flushing := update s.flushing n none }=held s-v := by
  have hflus := sum_apply_update (fun _ (v : Option ℤ) => v.getD 0) s.flushing n none
  rw [held_eq,held_eq,hflus,h]
  simp only [Option.getD_none,Option.getD_some]
  omega
end

section
variable [DecidableEq W] [Fintype N] {start : ℤ} {s : Sys W N} {w : W}
/-- The column and the batches add up; whoever holds the row's lock has written its change to it. -/
structure Balanced (start : ℤ) (s : Sys W N) : Prop where
  balance : column s.shared+held s.shared=start+reported s.log
  wrote : ∀ v delta, s.phase v=.wrote delta → (s.shared.db.view v ()).quota=column s.shared+delta
  holder : ∀ v, s.shared.db.owner ()=some v → ∃ delta, s.phase v=.wrote delta

lemma balanced_init (row : User) : Balanced row.quota (init W N row) where
  balance := by simp [column,init,held,Interleave.start]
  wrote := by intro v delta h; cases h
  holder := by intro v h; cases h

namespace Balanced

lemma not_owner (h : Balanced start s) (hw : ∀ delta, s.phase w≠.wrote delta) : s.shared.db.owner ()≠some w := by
  intro ho
  obtain ⟨delta,hd⟩ := h.holder w ho
  exact hw delta hd

variable {sh : Shared W N} {p' : Phase} {events : List Event} {delta : ℤ} {f : User → User}
lemma local_step (h : Balanced start s) (hw : ∀ delta, s.phase w≠.wrote delta)
    (hp' : ∀ delta, p'=.wrote delta → delta=0) (hdb : sh.db=s.shared.db)
    (hheld : held sh=held s.shared+reported (events.map (Prod.mk w))) :
    Balanced start (s.advance w (sh,p',events)) where
  balance := by
    have := h.balance
    simp only [column,advance_shared,advance_log,reported_append,hdb,hheld] at this ⊢
    omega
  wrote := by
    intro v delta hv
    simp only [column,advance_shared,hdb]
    by_cases hvw : v=w
    · subst hvw
      rw [advance_phase_self] at hv
      rw [view_of_not_owner (h.not_owner hw),hp' delta hv]
      omega
    · rw [advance_phase_of_ne _ _ hvw] at hv
      exact h.wrote v delta hv
  holder := by
    intro v hv
    rw [advance_shared,hdb] at hv
    have hvw : v≠w := fun e => h.not_owner hw (e ▸ hv)
    rw [advance_phase_of_ne _ _ hvw]
    exact h.holder v hv

lemma giveUp (h : Balanced start s) : Balanced start (s.advance w (giveUp w s.shared)) where
  balance := by
    have := h.balance
    simpa [UserQuota.giveUp,column] using this
  wrote := by
    intro v delta hv
    by_cases hvw : v=w
    · subst hvw
      rw [advance_phase_self] at hv
      cases hv
    rw [advance_phase_of_ne _ _ hvw] at hv
    have hview : (s.shared.db.abort w).view v ()=s.shared.db.view v () := by
      by_cases ho : s.shared.db.owner ()=some v
      · simp [RowStore.view,ho,hvw]
      · by_cases hw : s.shared.db.owner ()=some w <;> simp [RowStore.view,ho,hw,Ne.symm hvw]
    simp only [UserQuota.giveUp,column,advance_shared,hview,abort_committed]
    exact h.wrote v delta hv
  holder := by
    intro v hv
    simp only [UserQuota.giveUp,advance_shared,abort_owner] at hv
    split at hv
    · cases hv
    next hw =>
    have hvw : v≠w := fun e => hw (e ▸ hv)
    rw [advance_phase_of_ne _ _ hvw]
    exact h.holder v hv

lemma unlocked (h : Balanced start s) {v : W} (hv : s.phase v=.wrote delta)
    (ho : s.shared.db.owner ()≠some v) : delta=0 := by
  have := h.wrote v delta hv
  rw [view_of_not_owner ho,column] at this
  omega

variable {r : Shared W N × Phase × List Event}
section
variable (h : Balanced start s) {fails : Bool}
include h
lemma write (hw : ∀ delta, s.phase w≠.wrote delta)
    (hf : (f (s.shared.db.view w ())).quota=(s.shared.db.view w ()).quota+delta) (hr : write w s.shared f delta fails=some r) : Balanced start (s.advance w r) := by
  unfold UserQuota.write at hr
  split at hr
  · cases hr; exact h.giveUp
  obtain ⟨db,hdb,rfl⟩ := Option.map_eq_some_iff.mp hr
  obtain ⟨hfree,rfl⟩ := update_eq_some.mp hdb
  have hnone : s.shared.db.owner ()=none := hfree.resolve_right (h.not_owner hw)
  rw [view_of_not_owner (h.not_owner hw)] at hf ⊢
  refine ⟨by simpa [column] using h.balance,fun v d hv => ?_,fun v hv => ?_⟩
  · by_cases hvw : v=w
    · subst hvw
      rw [advance_phase_self] at hv
      cases hv
      simp only [advance_shared,view_write,update_self,column,write_committed]
      exact hf
    rw [advance_phase_of_ne _ _ hvw] at hv
    have h0 := h.unlocked hv (by simp [hnone])
    rw [advance_shared,view_of_not_owner (by simp [Ne.symm hvw]),h0]
    simp [column]
  · rw [advance_shared] at hv
    simp only [write_owner_self,Option.some.injEq] at hv
    subst hv
    rw [advance_phase_self]
    exact ⟨delta,rfl⟩

lemma commit (hw : s.phase w=.wrote delta) : Balanced start (s.advance w
      ({ s.shared with db := s.shared.db.commit w },.done true,[.reported delta])) := by
  have hself := h.wrote w delta hw
  refine ⟨?_,fun v d hv => ?_,fun v hv => ?_⟩
  · have := h.balance
    simp only [column,advance_shared,advance_log,reported_append,held_db,
      commit_committed,List.map_cons,List.map_nil,reported_one] at this hself ⊢
    omega
  · by_cases hvw : v=w
    · subst hvw
      rw [advance_phase_self] at hv
      cases hv
    rw [advance_phase_of_ne _ _ hvw] at hv
    simp only [column,advance_shared,commit_committed] at hself ⊢
    by_cases ho : s.shared.db.owner ()=some v
    · have hv' := h.wrote v d hv
      have h0 := h.unlocked hw (by simp [ho,hvw])
      rw [view_of_owner (by simp [ho,hvw]),commit_pending]
      rw [view_of_owner ho,column] at hv'
      omega
    have h0 := h.unlocked hv ho
    rw [view_of_not_owner (by
      rw [commit_owner]
      split
      · simp
      · exact ho),commit_committed]
    omega
  · simp only [advance_shared,commit_owner] at hv
    split at hv
    · cases hv
    next hne =>
    have hvw : v≠w := fun e => hne (e ▸ hv)
    rw [advance_phase_of_ne _ _ hvw]
    exact h.holder v hv

section
variable (hw : ∀ delta, s.phase w≠.wrote delta)
  (hf : (f (s.shared.db.view w ())).quota=(s.shared.db.view w ()).quota+delta)
include hw hf
lemma direct {db : RowStore W Unit (fun _ => User)} (hdb : s.shared.db.update w () f=some db)
    (hp' : ∀ delta, p'≠.wrote delta) (hsh : sh.db=db.commit w)
    (hheld : held sh+delta=held s.shared+reported (events.map (Prod.mk w))) :
    Balanced start (s.advance w (sh,p',events)) := by
  obtain ⟨hfree,rfl⟩ := update_eq_some.mp hdb
  have hnone : s.shared.db.owner ()=none := hfree.resolve_right (h.not_owner hw)
  have hcol : column sh=column s.shared+delta := by
    rw [column,column,hsh,commit_committed,view_write,update_self,hf,view_of_not_owner (h.not_owner hw)]
  have hown : sh.db.owner ()=none := by simp [hsh]
  refine ⟨?_,fun v d hv => ?_,fun v hv => ?_⟩
  · have := h.balance
    simp only [advance_shared,advance_log,reported_append,hcol] at this ⊢
    omega
  · by_cases hvw : v=w
    · subst hvw
      rw [advance_phase_self] at hv
      exact absurd hv (hp' d)
    rw [advance_phase_of_ne _ _ hvw] at hv
    rw [advance_shared,view_of_not_owner (by simp [hown]),h.unlocked hv (by simp [hnone]),column]
    omega
  · rw [advance_shared,hown] at hv
    cases hv

lemma autocommit (hr : autocommit w s.shared f delta fails=some r) : Balanced start (s.advance w r) := by
  unfold UserQuota.autocommit at hr
  split at hr
  · cases hr; exact h.giveUp
  obtain ⟨db,hdb,rfl⟩ := Option.map_eq_some_iff.mp hr
  exact h.direct hw hf hdb (by simp) rfl (by simp)
end
end
end Balanced
end

lemma updates_quota (newUser row : User) (h : newUser.quota≠0 → row.quota=newUser.quota) :
    (updates newUser row).quota=row.quota+0 := by
  simp only [updates]
  split
  next hne => rw [h hne]; omega
  next => omega

lemma examine_ne_wrote (row : User) (op : Op N) (delta : ℤ) : examine row op≠.wrote delta := by
  unfold examine
  repeat' split
  all_goals simp

section
variable [DecidableEq W] [Fintype N] {cfg : Config} {job : W → Op N} {start : ℤ} {s t : Sys W N} {w : W}
    {r : Shared W N × Phase × List Event} {fails : Bool}

section
variable (h : Balanced start s) (hw : ∀ delta, s.phase w≠.wrote delta)
include h hw
lemma balanced_select {op : Op N} (hr : select cfg w s.shared op fails=some r) : Balanced start (s.advance w r) := by
  have hread : Balanced start (s.advance w (s.shared,examine (s.shared.db.view w ()) op,[])) :=
    h.local_step hw (fun d hd => absurd hd (examine_ne_wrote _ _ d)) rfl (by simp)
  unfold select at hr
  split at hr
  case h_5 => cases hr
  all_goals
    split at hr
    · cases hr; exact h.giveUp
    · cases hr; exact hread

variable [DecidableEq N] {node : N}
lemma balanced_changeQuota {delta : ℤ} {db : Bool} (hr : changeQuota cfg w s.shared node delta db fails=some r) :
    Balanced start (s.advance w r) := by
  unfold changeQuota at hr
  split at hr
  · cases hr
    exact h.local_step hw (by simp) rfl (by simp [held_enqueue])
  · exact h.autocommit hw rfl hr

lemma balanced_flush (hfls : fails=false) (hr : flush w s.shared node fails=some r) :
    Balanced start (s.advance w r) := by
  unfold flush at hr
  split at hr
  · cases hr
  next v hv =>
  simp only at hr
  split at hr
  next hzero =>
    cases hr
    have h0 : v=0 := by simpa [hfls] using hzero
    refine h.local_step hw (by simp) rfl ?_
    rw [held_flush s.shared s.shared.db hv]
    simp [h0]
  next =>
    obtain ⟨db,hdb,rfl⟩ := Option.map_eq_some_iff.mp hr
    refine h.direct hw rfl hdb (by simp) rfl ?_
    rw [held_flush s.shared (db.commit w) hv]
    simp
end

variable [DecidableEq N]
lemma balanced_step {x : W × Act} (h : Balanced start s) (hfresh : Fresh job s x)
    (hx : step cfg job s x=some t) : Balanced start t := by
  obtain ⟨w,a⟩ := x
  obtain ⟨r,hr,rfl⟩ := step_eq_some.mp hx
  generalize hp : s.phase w=p at hr
  unfold next at hr
  split at hr
  case h_1 => exact balanced_select h (by simp [hp]) hr
  case h_2 =>
    split at hr
    · split at hr
      next hnone =>
        cases hr
        exact h.local_step (by simp [hp]) (by simp) rfl (by simp [held_take s.shared hnone])
      · cases hr
    · cases hr
  case h_3 fails =>
    have hidle : ∀ delta, s.phase w≠.wrote delta := by simp [hp]
    split at hr
    next =>
      split at hr
      · cases hr; exact h.giveUp
      · exact balanced_changeQuota h hidle hr
    next =>
      split at hr
      · cases hr; exact h.giveUp
      · exact balanced_changeQuota h hidle hr
    next node hop =>
      simp only [Fresh,hop,hp] at hfresh
      exact balanced_flush h hidle hfresh hr
    next => exact h.write hidle rfl hr
    next => exact h.write hidle rfl hr
    next => exact h.autocommit hidle (updates_quota _ _ (by simp [User.blank])) hr
    next => cases hr
  case h_4 row fails =>
    have hread : ∀ delta, s.phase w≠.wrote delta := by simp [hp]
    split at hr
    next =>
      split at hr
      · exact h.write hread rfl hr
      cases hr
      exact h.local_step hread (by simp) rfl (by simp)
    next n hop =>
      simp only [Fresh,hop,hp] at hfresh
      exact h.write hread (by simp only [hfresh]) hr
    next hop =>
      simp only [Fresh,hop,hp] at hfresh
      exact h.autocommit hread (by simp only [hfresh,add_zero]) hr
    next selectAll edit hop =>
      simp only [Fresh,hop,hp] at hfresh
      split at hr
      · exact h.write hread (updates_quota _ _ hfresh) hr
      · exact h.autocommit hread (updates_quota _ _ hfresh) hr
    next => cases hr
  case h_5 delta fails =>
    split at hr
    · cases hr; exact h.giveUp
    · cases hr; exact h.commit hp
  case h_6 => cases hr

/-- If every row is written back while its quota is current and no batch write fails, the column and
what the batches still hold are the initial quota plus all reported changes; once the batches are
empty the column alone is. -/
theorem quota_sum_of_fresh (row : User) {xs : List (W × Act)}
    (h : Runs (step cfg job) (Fresh job) (init W N row) xs s) :
    column s.shared+held s.shared=row.quota+reported s.log ∧
      ((∀ n, s.shared.batch n=0 ∧ s.shared.flushing n=none) → column s.shared=row.quota+reported s.log) := by
  have hb : Balanced row.quota s :=
    h.invariant (Balanced row.quota) (fun _ _ _ hs hf hx => balanced_step hs hf hx) (balanced_init row)
  refine ⟨hb.balance,fun hemp => ?_⟩
  have hheld : held s.shared=0 := Finset.sum_eq_zero fun n _ => by
    rw [(hemp n).1,(hemp n).2]
    rfl
  have := hb.balance
  omega
end

def plainConfig : Config := ⟨500000,0,false⟩

def preferenceAndCharge : Fin 2 → Op (Fin 1)
  | 0 => .update true (.setting fun _ => "subscription_first")
  | 1 => .decreaseUserQuota 0 300 false

def richUser : User := { User.blank "user" with quota := 1000 }

def oneByOne : List (Fin 2 × Act) := [(0,.select false),(0,.write false),(1,.write false)]

theorem oneByOne_keeps_charge :
    ∃ t, exec (step plainConfig preferenceAndCharge) (init (Fin 2) (Fin 1) richUser) oneByOne=some t ∧
      reported t.log = -300 ∧ column t.shared+held t.shared=1000+reported t.log := by
  obtain ⟨t,hexec,hruns,hlog⟩ := checked_run (step plainConfig preferenceAndCharge) (Fresh preferenceAndCharge)
    (init (Fin 2) (Fin 1) richUser) oneByOne (fun s => reported s.log = -300) (by decide)
  exact ⟨t,hexec,hlog,(quota_sum_of_fresh richUser hruns).1⟩

def chargeBetween : List (Fin 2 × Act) := [(0,.select false),(1,.write false),(0,.write false)]

/-- Both operations report success, nothing is left in a batch, and the charge is gone. -/
theorem chargeBetween_erases_charge :
    (exec (step plainConfig preferenceAndCharge) (init (Fin 2) (Fin 1) richUser) chargeBetween).map
      (fun s => (column s.shared,reported s.log,s.shared.batch 0,s.shared.flushing 0)) =
        some (1000,-300,0,none) := by decide
end AronaApi.UserQuota
