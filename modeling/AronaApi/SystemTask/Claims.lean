import AronaApi.SystemTask.Statements

/-! What holds in every run, however late or lost the runners are. The rows only move forward, from
pending to running by the loop of a runner and from running to their outcome, and each call still knows
the row it is about. -/
namespace AronaApi.SystemTask
open List TaskTable

def Status.isActive : Status → Bool
  | .pending | .running => true
  | _ => false

def Status.isOver : Status → Bool
  | .succeeded | .failed => true
  | _ => false

lemma Outcome.isOver_status (outcome : Outcome) : outcome.status.isOver=true := by
  cases outcome <;> rfl

structure SameKeys (t t' : Task) : Prop where
  id_eq : t'.id=t.id
  taskID_eq : t'.taskID=t.taskID
  type_eq : t'.type=t.type

/-- What one step of `w` can do to a row. -/
inductive RowStep (w : Worker) (t t' : Task) : Prop
  | same (hkeys : SameKeys t t') (hstatus : t'.status=t.status) (hlockedBy : t'.lockedBy=t.lockedBy)
      (hkey : t'.activeKey=t.activeKey) : RowStep w t t'
  | start {runnerID : String} (hkeys : SameKeys t t') (hw : w=.loop runnerID) (hpending : t.status=.pending)
      (hrunning : t'.status=.running) (hlockedBy : t'.lockedBy=runnerID) (hkey : t'.activeKey=t.activeKey) : RowStep w t t'
  | finish (hkeys : SameKeys t t') (hrunning : t.status=.running) (hover : t'.status.isOver=true)
      (hlockedBy : t'.lockedBy=t.lockedBy) (hkey : t'.activeKey=none) : RowStep w t t'

variable {w : Worker} {s s' : Shared} {t t' : Task} {p : Task → Bool} {c : Change}
lemma RowStep.refl (w : Worker) (t : Task) : RowStep w t t := .same ⟨rfl,rfl,rfl⟩ rfl rfl rfl

lemma RowStep.keys (h : RowStep w t t') : SameKeys t t' := by
  cases h with
  | same hkeys | start hkeys | finish hkeys => exact hkeys

lemma RowStep.status_of_isOver (h : RowStep w t t') (hover : t.status.isOver=true) : t'.status=t.status := by
  cases h with
  | same _ hstatus => exact hstatus
  | start _ _ hpending =>
    rw [hpending] at hover
    cases hover
  | finish _ hrunning =>
    rw [hrunning] at hover
    cases hover

lemma RowStep.not_pending (h : RowStep w t t') (hp : t.status≠.pending) : t'.status≠.pending := by
  cases h with
  | same _ hstatus =>
    rw [hstatus]
    exact hp
  | start _ _ hpending => exact absurd hpending hp
  | finish _ _ hover =>
    intro hpending
    rw [hpending] at hover
    cases hover

def HasRow (s : Shared) (taskID : String) (P : Task → Prop) : Prop := ∃ t∈s.tasks.rows, t.taskID=taskID ∧ P t

/-- What one step of `w` can do to the tasks and to the list of handlers. -/
structure Evolves (w : Worker) (s s' : Shared) : Prop where
  forth : ∀ t∈s.tasks.rows, ∃ t'∈s'.tasks.rows, RowStep w t t'
  back : ∀ t'∈s'.tasks.rows, (∃ t∈s.tasks.rows, RowStep w t t') ∨
    t'.status=.pending ∧ t'.activeKey=some t'.type ∧ ∀ t∈s.tasks.rows, t.Apart t'
  dispatched : ∀ x∈s'.dispatched, x∈s.dispatched ∨ w=.loop x.1 ∧ HasRow s x.2 fun t => t.status≠.pending
  kept : ∀ x∈s.dispatched, x∈s'.dispatched
  clock : s'.clock=s.clock

lemma evolves_of_tasks_eq (htsk : s'.tasks=s.tasks) (hdisp : s'.dispatched=s.dispatched)
    (hclc : s'.clock=s.clock) : Evolves w s s' := by
  refine ⟨?_,?_,?_,?_,hclc⟩
  · intro t ht
    rw [htsk]
    exact ⟨t,ht,.refl w t⟩
  · intro t ht
    rw [htsk] at ht
    exact .inl ⟨t,ht,.refl w t⟩
  · intro x hx
    rw [hdisp] at hx
    exact .inl hx
  · intro x hx
    rw [hdisp]
    exact hx

lemma evolves_update (h : ∀ t∈s.tasks.rows, p t=true → RowStep w t (c.apply t)) :
    Evolves w s { s with tasks := s.tasks.update p c } := by
  have hstep (t : Task) (ht : t∈s.tasks.rows) : RowStep w t (if p t then c.apply t else t) := by
    split
    next hp => exact h t ht hp
    · exact .refl w t
  refine ⟨?_,?_,fun _ hx => .inl hx,fun _ hx => hx,rfl⟩
  · intro t ht
    exact ⟨_,mem_update.mpr ⟨t,ht,rfl⟩,hstep t ht⟩
  · intro t' ht'
    obtain ⟨t,ht,rfl⟩ := mem_update.mp ht'
    exact .inl ⟨t,ht,hstep t ht⟩

variable {taskID : String} {P Q : Task → Prop}
lemma HasRow.apply (h : HasRow s taskID P) (ht : t∈s.tasks.rows) (hid : t.taskID=taskID) : P t := by
  obtain ⟨t₀,ht₀,hid₀,hP⟩ := h
  rw [eq_of_taskID ht ht₀ (hid.trans hid₀.symm)]
  exact hP

lemma HasRow.evolve (h : HasRow s taskID P) (hevol : Evolves w s s')
    (hPQ : ∀ t t', t.taskID=taskID → RowStep w t t' → P t → Q t') : HasRow s' taskID Q := by
  obtain ⟨t,ht,hid,hP⟩ := h
  obtain ⟨t',ht',hstep⟩ := hevol.forth t ht
  exact ⟨t',ht',hstep.keys.taskID_eq.trans hid,hPQ t t' hid hstep hP⟩

lemma HasRow.update (h : HasRow s taskID P)
    (hchan : ∀ t, p t=true → P t → Q (c.apply t)) (hoth : ∀ t, ¬p t=true → P t → Q t) :
    HasRow { s with tasks := s.tasks.update p c } taskID Q := by
  obtain ⟨t,ht,hid,hP⟩ := h
  refine ⟨_,mem_update.mpr ⟨t,ht,rfl⟩,?_⟩
  split
  next hp => exact ⟨(c.taskID_eq t).trans hid,hchan t hp hP⟩
  next hp => exact ⟨hid,hoth t hp hP⟩

/-- The tables of a run: a key marks the tasks that are not over, and every lock and every handler is
about a task there is. -/
structure Sound (s : Shared) : Prop where
  active : ∀ t∈s.tasks.rows, t.activeKey=if t.status.isActive then some t.type else none
  typed : ∀ l∈s.locks, HasRow s l.taskID fun t => t.type=l.type
  dispatched : ∀ x∈s.dispatched, HasRow s x.2 fun t => t.status≠.pending

/-- A claim that has found its task: the task has not been started by this runner, so no handler of
the runner works on it. -/
structure Claiming (s : Shared) (w : Worker) (c : Claim) (taskID : String) : Prop where
  isLoop : w=.loop w.runnerID
  now_le : c.now ≤ s.clock
  row : HasRow s taskID fun t => t.id=c.id ∧ t.type=c.type ∧ (t.status=.running → t.lockedBy≠w.runnerID)
  undispatched : (w.runnerID,taskID)∉s.dispatched

def Stands (s : Shared) (w : Worker) : Phase → Prop
  | .idle | .creating _ _ _ _ => True
  | .selecting c => w=.loop w.runnerID ∧ c.now ≤ s.clock
  | .locking c taskID | .looking c taskID | .stealing c taskID _ | .marking c taskID _ | .starting c taskID =>
    Claiming s w c taskID
  | .releasing taskID => w=.loop w.runnerID ∧ HasRow s taskID fun t => t.status=.running → t.lockedBy≠w.runnerID
  | .reloading _ taskID => w=.loop w.runnerID ∧ HasRow s taskID fun t => t.status≠.pending
  | .updating taskID _ _ | .renewing taskID _ _ | .finishing taskID _ _ _ _ => (w.runnerID,taskID)∈s.dispatched
  | .finished taskID => (w.runnerID,taskID)∈s.dispatched ∧ HasRow s taskID fun t => t.status.isOver=true
  | .scanning now | .expiring now _ | .deleting now _ _ => now ≤ s.clock

variable {v : Worker} {p : Phase} {now : ℤ} {runnerID : String}
lemma RowStep.not_started (h : RowStep w t t') (hw : w≠.loop runnerID)
    (ht : t.status=.running → t.lockedBy≠runnerID) : t'.status=.running → t'.lockedBy≠runnerID := by
  cases h with
  | same _ hstatus hlockedBy =>
    rw [hstatus,hlockedBy]
    exact ht
  | start _ hloop _ _ hlockedBy =>
    intro _ heq
    rw [← heq,hlockedBy] at hw
    exact hw hloop
  | finish _ _ hover =>
    intro hrunning
    rw [hrunning] at hover
    cases hover

lemma Claiming.evolve {c : Claim} (h : Claiming s v c taskID) (hv : v≠w) (hevol : Evolves w s s') :
    Claiming s' v c taskID := by
  have hw : w≠.loop v.runnerID := fun heq => hv (h.isLoop.trans heq.symm)
  refine ⟨h.isLoop,hevol.clock ▸ h.now_le,?_,?_⟩
  · refine h.row.evolve hevol fun t t' _ hstep hP => ⟨?_,?_,hstep.not_started hw hP.2.2⟩
    · rw [hstep.keys.id_eq]
      exact hP.1
    · rw [hstep.keys.type_eq]
      exact hP.2.1
  · intro hmem
    rcases hevol.dispatched _ hmem with hold | hnew
    · exact h.undispatched hold
    · exact hw hnew.1

lemma hasRow_not_pending (h : HasRow s taskID fun t => t.status≠.pending) (hevol : Evolves w s s') :
    HasRow s' taskID fun t => t.status≠.pending :=
  h.evolve hevol fun _ _ _ hstep hP => hstep.not_pending hP

lemma hasRow_isOver (h : HasRow s taskID fun t => t.status.isOver=true) (hevol : Evolves w s s') :
    HasRow s' taskID fun t => t.status.isOver=true :=
  h.evolve hevol fun _ _ _ hstep hP => by rw [hstep.status_of_isOver hP]; exact hP

lemma Stands.evolve (h : Stands s v p) (hv : v≠w) (hevol : Evolves w s s') : Stands s' v p := by
  cases p with
  | idle | creating => trivial
  | selecting c => exact ⟨h.1,hevol.clock ▸ h.2⟩
  | locking c taskID | looking c taskID | stealing c taskID | marking c taskID | starting c taskID =>
    exact Claiming.evolve h hv hevol
  | releasing taskID =>
    have hw : w≠.loop v.runnerID := fun heq => hv (h.1.trans heq.symm)
    exact ⟨h.1,h.2.evolve hevol fun _ _ _ hstep hP => hstep.not_started hw hP⟩
  | reloading c taskID => exact ⟨h.1,hasRow_not_pending h.2 hevol⟩
  | updating taskID | renewing taskID | finishing taskID => exact hevol.kept _ h
  | finished taskID => exact ⟨hevol.kept _ h.1,hasRow_isOver h.2 hevol⟩
  | scanning now | expiring now | deleting now => exact Int.le_trans h (Int.le_of_eq hevol.clock.symm)

lemma Stands.tick (h : Stands s v p) (hnow : s.clock≤now) : Stands { s with clock := now } v p := by
  cases p with
  | idle | creating => trivial
  | selecting c => exact ⟨h.1,Int.le_trans h.2 hnow⟩
  | locking c taskID | looking c taskID | stealing c taskID | marking c taskID | starting c taskID =>
    exact ⟨h.isLoop,Int.le_trans h.now_le hnow,h.row,h.undispatched⟩
  | releasing taskID | reloading c taskID | updating taskID | renewing taskID | finishing taskID | finished taskID => exact h
  | scanning now' | expiring now' | deleting now' => exact Int.le_trans h hnow

lemma Sound.tick (h : Sound s) : Sound { s with clock := now } := ⟨h.active,h.typed,h.dispatched⟩

variable {r : Shared × Phase × List Event}
lemma rowStep_expire (h : t.status=.running) : RowStep w t ((Change.expire now).apply t) :=
  .finish ⟨rfl,rfl,rfl⟩ h rfl rfl rfl

lemma status_of_owns (h : owns s runnerID taskID now t=true) : t.status=.running := (of_decide_eq_true h).2.1

lemma Effect.evolves (h : Effect w s p r) (hp : Stands s w p) : Evolves w s r.1 := by
  cases h with
  | quiet | acquire | release | renew | delete => exact evolves_of_tasks_eq rfl rfl rfl
  | create hinsert hpending hkey =>
    obtain ⟨hapr,hrows⟩ := insert_eq_some hinsert
    refine ⟨?_,?_,fun _ hx => .inl hx,fun _ hx => hx,rfl⟩
    · intro t ht
      refine ⟨t,?_,.refl w t⟩
      show t∈_
      rw [hrows]
      exact mem_append_left _ ht
    · intro t' ht'
      have ht' : t'∈_ := ht'
      rw [hrows,mem_append,mem_singleton] at ht'
      rcases ht' with ht' | rfl
      · exact .inl ⟨t',ht',.refl w t'⟩
      · exact .inr ⟨hpending,hkey,hapr⟩
  | mark taskID => exact evolves_update fun t _ ht => rowStep_expire (of_decide_eq_true ht).2
  | @start c taskID hany =>
    have hp : Claiming s w c taskID := hp
    exact evolves_update fun t _ ht =>
      .start ⟨rfl,rfl,rfl⟩ hp.isLoop (of_decide_eq_true ht).2.2 rfl rfl rfl
  | dispatch c taskID =>
    have hp : w=.loop w.runnerID ∧ HasRow s taskID fun t => t.status≠.pending := hp
    refine ⟨fun t ht => ⟨t,ht,.refl w t⟩,fun t ht => .inl ⟨t,ht,.refl w t⟩,?_,fun _ hx => mem_cons_of_mem _ hx,rfl⟩
    intro x hx
    rcases mem_cons.mp hx with rfl | hx
    · exact .inr hp
    · exact .inl hx
  | update => exact evolves_update fun t _ _ => .same ⟨rfl,rfl,rfl⟩ rfl rfl rfl
  | finish => exact evolves_update fun t _ ht => .finish ⟨rfl,rfl,rfl⟩ (status_of_owns ht) (Outcome.isOver_status _) rfl rfl

lemma Sound.active_evolve (h : Sound s) (hevol : Evolves w s s') :
    ∀ t∈s'.tasks.rows, t.activeKey=if t.status.isActive then some t.type else none := by
  intro t' ht'
  rcases hevol.back t' ht' with ⟨t,ht,hstep⟩ | ⟨hpending,hkey,-⟩
  · have hact := h.active t ht
    cases hstep with
    | same hkeys hstatus _ hkey =>
      rw [hkey,hstatus,hkeys.type_eq]
      exact hact
    | start hkeys _ hpending hrunning _ hkey =>
      rw [hpending] at hact
      rw [hkey,hrunning,hkeys.type_eq]
      exact hact
    | finish _ _ hover _ hkey =>
      rw [hkey]
      cases hstatus : t'.status with
      | pending | running =>
        rw [hstatus] at hover
        cases hover
      | succeeded | failed => rfl
  · rw [hpending,hkey]
    rfl

lemma Effect.mem_locks (h : Effect w s p r) {l : Lock} (hl : l∈r.1.locks) :
    (∃ l₀∈s.locks, l₀.type=l.type ∧ l₀.taskID=l.taskID ∧ l₀.lockedBy=l.lockedBy) ∨
      l.lockedBy=w.runnerID ∧ ∃ c, l.type=c.type ∧ (p=.locking c l.taskID ∨ ∃ old, p=.stealing c l.taskID old) := by
  cases h with
  | acquire hp _ hlocks =>
    rcases (hlocks l).mp hl with rfl | ⟨hold,-⟩
    · exact .inr ⟨rfl,_,rfl,hp⟩
    · exact .inl ⟨l,hold,rfl,rfl,rfl⟩
  | renew hlocks =>
    obtain ⟨l₀,hl₀,rfl⟩ := (hlocks l).mp hl
    refine .inl ⟨l₀,hl₀,?_⟩
    split <;> exact ⟨rfl,rfl,rfl⟩
  | release | delete => exact .inl ⟨l,(KeyedTable.mem_delete.mp hl).1,rfl,rfl,rfl⟩
  | quiet | create | mark | start | dispatch | update | finish => exact .inl ⟨l,hl,rfl,rfl,rfl⟩

lemma Sound.effect (h : Sound s) (hp : Stands s w p) (heff : Effect w s p r) : Sound r.1 := by
  have hevol := heff.evolves hp
  refine ⟨h.active_evolve hevol,?_,?_⟩
  · intro l hl
    have hrow : HasRow s l.taskID fun t => t.type=l.type := by
      rcases heff.mem_locks hl with ⟨l₀,hl₀,htype,htaskID,-⟩ | ⟨-,c,htype,hphase⟩
      · rw [← htype,← htaskID]
        exact h.typed l₀ hl₀
      have hcla : Claiming s w c l.taskID := by rcases hphase with rfl | ⟨old,rfl⟩ <;> exact hp
      obtain ⟨t,ht,hid,-,ht',-⟩ := hcla.row
      exact ⟨t,ht,hid,ht'.trans htype.symm⟩
    exact hrow.evolve hevol fun t t' _ hstep ht => hstep.keys.type_eq.trans ht
  · intro x hx
    rcases hevol.dispatched x hx with hold | ⟨-,hrow⟩
    · exact hasRow_not_pending (h.dispatched x hold) hevol
    · exact hasRow_not_pending hrow hevol

lemma Stands.quiet {p' : Phase} (hsnd : Sound s) (hp : Stands s w p) (h : Quiet w s p p') : Stands s w p' := by
  cases h with
  | toIdle | create => trivial
  | claim hw => exact ⟨by rw [hw]; rfl,Int.le_refl _⟩
  | update hdispatched | renew hdispatched | finish hdispatched => exact hdispatched
  | expire => exact Int.le_refl _
  | @select c t ht hselects =>
    obtain ⟨hid,htype,hpending⟩ := of_decide_eq_true hselects
    refine ⟨hp.1,hp.2,⟨t,ht,rfl,hid,htype,fun hrunning => ?_⟩,fun hmem => ?_⟩
    · rw [hpending] at hrunning
      cases hrunning
    · exact (hsnd.dispatched _ hmem).apply ht rfl hpending
  | taken | stale | scan => exact hp
  | unmarked | unstarted =>
    have hp : Claiming s w _ _ := hp
    exact ⟨hp.isLoop,hp.row.imp fun t ht => ⟨ht.1,ht.2.1,ht.2.2.2.2⟩⟩

section
variable {c : Claim} (hp : Claiming s w c taskID) (hany : s.tasks.rows.any c.selects=true)
include hp hany
lemma Claiming.selected : ∃ t∈s.tasks.rows, t.taskID=taskID ∧ c.selects t=true := by
  obtain ⟨t,ht,hid,htid,-⟩ := hp.row
  obtain ⟨t₀,ht₀,hselects⟩ := any_eq_true.mp hany
  have heq : t=t₀ := eq_of_id ht ht₀ (htid.trans (of_decide_eq_true hselects).1.symm)
  exact ⟨t,ht,hid,heq ▸ hselects⟩

lemma hasRow_start :
    HasRow { s with tasks := s.tasks.update c.selects (.start w.runnerID c.now) } taskID fun t => t.status≠.pending := by
  obtain ⟨t,ht,hid,hselects⟩ := hp.selected hany
  have hrow : HasRow s taskID fun t => c.selects t=true := ⟨t,ht,hid,hselects⟩
  exact hrow.update (fun _ _ _ => nofun) fun t hnot hselects => absurd hselects hnot
end

lemma Stands.effect (hsnd : Sound s) (hp : Stands s w p) (h : Effect w s p r) : Stands r.1 w r.2.1 := by
  cases h with
  | quiet hquiet => exact hp.quiet hsnd hquiet
  | create | release | dispatch | update | renew => trivial
  | @acquire _ _ c taskID _ hphase hphase' =>
    have hcla : Claiming s w c taskID := by rcases hphase with rfl | ⟨old,rfl⟩ <;> exact hp
    rcases hphase' with rfl | ⟨old,rfl⟩ <;> exact ⟨hcla.isLoop,hcla.now_le,hcla.row,hcla.undispatched⟩
  | mark taskID hphase =>
    rcases hphase with ⟨c,T,rfl,rfl⟩ | ⟨now,lock,locks,rfl,rfl,-⟩
    · have hp : Claiming s w c T := hp
      refine ⟨hp.isLoop,hp.now_le,hp.row.update (fun t _ hP => ⟨hP.1,hP.2.1,nofun⟩) fun t _ hP => hP,hp.undispatched⟩
    · exact hp
  | start hany => exact ⟨Claiming.isLoop hp,hasRow_start hp hany⟩
  | @finish taskID result errorMessage now outcome hany =>
    obtain ⟨t,ht,howns⟩ := any_eq_true.mp hany
    have hrow : HasRow s taskID fun t => owns s w.runnerID taskID now t=true := ⟨t,ht,(of_decide_eq_true howns).1,howns⟩
    exact ⟨hp,hrow.update (fun t _ _ => outcome.isOver_status) fun t hnot howns => absurd howns hnot⟩
  | delete => exact hp

variable {s t : Sys} {a : Act}
/-- The tables are sound and every worker stands where it can rely on what it has read. -/
structure Standing (s : Sys) : Prop where
  sound : Sound s.shared
  stands : ∀ w, Stands s.shared w (s.phase w)

lemma standing_start : Standing start := ⟨⟨nofun,nofun,nofun⟩,fun _ => trivial⟩

lemma step_effect (h : step s (w,a)=some t) : s.shared.clock≤a.now ∧
    ∃ r, Effect w { s.shared with clock := a.now } (s.phase w) r ∧ t=s.advance w r ∧
      (a.move=.run ∨ ∃ p', r=({ s.shared with clock := a.now },p',[])) := by
  obtain ⟨r,hnext,rfl⟩ := Interleave.step_eq_some.mp h
  obtain ⟨hclc,⟨p',hqt,rfl⟩ | ⟨hrun,heff⟩⟩ := effect_of_next hnext
  · exact ⟨hclc,_,.quiet hqt,rfl,.inr ⟨p',rfl⟩⟩
  · exact ⟨hclc,r,heff,rfl,.inl hrun⟩

lemma Standing.step (h : Standing s) (hstep : SystemTask.step s (w,a)=some t) : Standing t := by
  obtain ⟨hclc,r,heff,rfl,-⟩ := step_effect hstep
  have hself := (h.stands w).tick hclc
  refine ⟨h.sound.tick.effect hself heff,?_⟩
  refine Interleave.forall_phase_advance (Stands s.shared) (Stands r.1) h.stands (hself.effect h.sound.tick heff) ?_
  intro v hv hstan
  exact (hstan.tick hclc).evolve hv (heff.evolves hself)
end AronaApi.SystemTask
