import AronaApi.SystemTask.Claims

/-! When a running task stays recoverable. `ClaimSystemTask` takes the lock and starts the task in two
statements, and the second one does not look at the lock. As long as a task is started before the lease
of its claim runs out, nobody can have taken the lock away in between, and it stays with the task. -/
namespace AronaApi.SystemTask
open Schedule List KeyedTable TaskTable

def Recoverable (s : Shared) : Prop := ∀ t∈s.tasks.rows, t.status=.running → ∃ l∈s.locks, l.taskID=t.taskID

def StartedByHolder (log : List (Worker × Event)) : Prop := ∀ e∈log, ∀ taskID held, e.2=.started taskID held → held=true

/-- A task is started before the lease of its claim runs out, and a lease is not renewed to a time
that is already past. -/
def Prompt (s : Sys) (a : Worker × Act) : Prop :=
  match a.2.move,s.phase a.1 with
  | .run,.starting c _ => a.2.now ≤ c.lockUntil
  | .run,.renewing _ _ lockUntil => a.2.now≤lockUntil
  | _,_ => True

instance (s : Sys) (a : Worker × Act) : Decidable (Prompt s a) := by
  unfold Prompt
  split <;> infer_instance

/-- The running tasks of a type are locked at least until `now`. -/
def LockedUntil (s : Shared) (now : ℤ) (P : Task → Prop) : Prop :=
  ∀ t∈s.tasks.rows, t.status=.running → P t → ∀ l∈s.locks, l.type=t.type → now≤l.lockedUntil

def Claim.lock (c : Claim) (taskID runnerID : String) : Lock := ⟨c.type,taskID,runnerID,c.lockUntil,c.now⟩

/-- What the leases give a worker at a phase: what a claim has found pending was not running when the
claim read the time, a lock is kept for its lease, and a lease that a pass has found expired is not
that of a task started since. -/
def Leased (s : Shared) (w : Worker) : Phase → Prop
  | .locking c _ | .looking c _ | .stealing c _ _ => LockedUntil s c.now fun t => t.type=c.type
  | .marking c taskID _ | .starting c taskID => s.clock ≤ c.lockUntil → c.lock taskID w.runnerID∈s.locks
  | .deleting now lock _ => LockedUntil s now fun t => t.taskID=lock.taskID
  | _ => True

def Locked (s : Shared) : Prop :=
  ∀ t∈s.tasks.rows, t.status=.running → ∃ l∈s.locks, l.type=t.type ∧ l.taskID=t.taskID ∧ l.lockedBy=t.lockedBy

variable {v w : Worker} {s s' : Shared} {p : Phase} {r : Shared × Phase × List Event} {now : ℤ}
/-- The lock of a running task's type after a step: it has just been given a lease, or it was the lock of
the task before. -/
def Carried (s s' : Shared) : Prop :=
  ∀ t'∈s'.tasks.rows, t'.status=.running → ∀ l'∈s'.locks, l'.type=t'.type → s.clock≤l'.lockedUntil ∨
    ∃ t∈s.tasks.rows, t.status=.running ∧ t.type=t'.type ∧ t.taskID=t'.taskID ∧
      ∃ l∈s.locks, l.type=l'.type ∧ l.lockedUntil=l'.lockedUntil

lemma LockedUntil.carry {P : Task → Prop} (h : LockedUntil s now P) (hcarr : Carried s s') (hnow : now ≤ s.clock)
    (hP : ∀ t t' : Task, t.type=t'.type → t.taskID=t'.taskID → P t' → P t) : LockedUntil s' now P := by
  intro t' ht' hrn' hPt' l' hl' htype
  rcases hcarr t' ht' hrn' l' hl' htype with hfresh | ⟨t,ht,hrunning,htt',hid,l,hl,hll',hunt⟩
  · exact Int.le_trans hnow hfresh
  rw [← hunt]
  exact h t ht hrunning (hP t t' htt' hid hPt') l hl (hll'.trans (htype.trans htt'.symm))

/-- What the others rely on after a step that carries the locks of running tasks and keeps the locks of
claims whose lease has not run out. -/
lemma Leased.carry (h : Leased s v p) (hstan : Stands s v p) (hcarr : Carried s s') (hclc : s'.clock=s.clock)
    (hkeep : ∀ c taskID, Claiming s v c taskID → s.clock ≤ c.lockUntil → c.lock taskID v.runnerID∈s.locks →
      c.lock taskID v.runnerID∈s'.locks) : Leased s' v p := by
  cases p with
  | locking c taskID | looking c taskID | stealing c taskID =>
    have hstan : Claiming s v c taskID := hstan
    exact LockedUntil.carry h hcarr hstan.now_le fun t t' htype _ hP => htype.trans hP
  | marking c taskID | starting c taskID =>
    intro hls
    rw [hclc] at hls
    exact hkeep c taskID hstan hls (h hls)
  | deleting now lock locks => exact LockedUntil.carry h hcarr hstan fun t t' _ hid hP => hid.trans hP
  | _ => trivial

lemma Leased.tick (h : Leased s v p) (hnow : s.clock≤now) : Leased { s with clock := now } v p := by
  cases p with
  | locking | looking | stealing | deleting => exact h
  | marking c taskID | starting c taskID => exact fun hls => h (Int.le_trans hnow hls)
  | _ => trivial

variable {taskID : String} {c : Claim}
lemma not_running_of_acquire (hlock : Locked s) (hleas : Leased s w p)
    (hp : p=.locking c taskID ∨ ∃ old, p=.stealing c taskID old)
    (hold : ∀ l∈s.locks, l.type=c.type → l.lockedUntil<c.now ∧ ∃ old, p=.stealing c taskID old) {t : Task}
    (ht : t∈s.tasks.rows) (hrunning : t.status=.running) : t.type≠c.type := by
  intro htype
  obtain ⟨l,hl,hlty,-,-⟩ := hlock t ht hrunning
  obtain ⟨hexp,old,rfl⟩ := hold l hl (hlty.trans htype)
  have hfresh : c.now≤l.lockedUntil := hleas t ht hrunning htype l hl hlty
  omega

lemma running_of_update {q : Task → Bool} {c : Change}
    (hc : ∀ t, q t=true → (c.apply t).status=.running → t.status=.running ∧ t.lockedBy=(c.apply t).lockedBy) :
    ∀ t'∈(s.tasks.update q c).rows, t'.status=.running → ∃ t∈s.tasks.rows, t.status=.running ∧ t.type=t'.type ∧
      t.taskID=t'.taskID ∧ t.lockedBy=t'.lockedBy := by
  intro t' ht' hrunning
  obtain ⟨t,ht,rfl⟩ := mem_update.mp ht'
  refine ⟨t,ht,?_⟩
  split at hrunning
  next hq =>
    obtain ⟨hstatus,hlockedBy⟩ := hc t hq hrunning
    rw [if_pos hq]
    exact ⟨hstatus,(c.type_eq t).symm,(c.taskID_eq t).symm,hlockedBy⟩
  next hq =>
  rw [if_neg hq]
  exact ⟨hrunning,rfl,rfl,rfl⟩

lemma Effect.running_back (h : Effect w s p r) (hnot : ∀ c taskID, p≠.starting c taskID) :
    ∀ t'∈r.1.tasks.rows, t'.status=.running → ∃ t∈s.tasks.rows, t.status=.running ∧ t.type=t'.type ∧
      t.taskID=t'.taskID ∧ t.lockedBy=t'.lockedBy := by
  cases h with
  | quiet | acquire | release | dispatch | renew | delete =>
    intro t' ht' hrunning
    exact ⟨t',ht',hrunning,rfl,rfl,rfl⟩
  | create hinsert hpending =>
    intro t' ht' hrunning
    have ht' : t'∈_ := ht'
    rw [(insert_eq_some hinsert).2,mem_append,mem_singleton] at ht'
    rcases ht' with ht' | rfl
    · exact ⟨t',ht',hrunning,rfl,rfl,rfl⟩
    rw [hpending] at hrunning
    cases hrunning
  | mark => exact running_of_update fun _ _ hrunning => by cases hrunning
  | start => exact absurd rfl (hnot _ _)
  | update => exact running_of_update fun _ howns _ => ⟨status_of_owns howns,rfl⟩
  | @finish _ _ _ _ outcome =>
    exact running_of_update fun _ _ hrunning => by
      have hover := outcome.isOver_status
      have hstatus : outcome.status=.running := hrunning
      rw [hstatus] at hover
      cases hover

lemma not_starting_of_mark {p' : Phase} (hp : (∃ c T, p=.marking c T taskID ∧ p'=.starting c T) ∨
      ∃ now lock locks, p=.expiring now (lock::locks) ∧ p'=.deleting now lock locks ∧ lock.taskID=taskID)
    (c : Claim) (T : String) : p≠.starting c T := by rcases hp with ⟨c',T',rfl,-⟩ | ⟨now,lock,locks,rfl,-⟩ <;> nofun

lemma running_of_start (hp : Claiming s w c taskID) {t' : Task}
    (ht' : t'∈(s.tasks.update c.selects (.start w.runnerID c.now)).rows) (hrunning : t'.status=.running) :
    t'∈s.tasks.rows ∨ t'.type=c.type ∧ t'.taskID=taskID ∧ t'.lockedBy=w.runnerID := by
  obtain ⟨t,ht,rfl⟩ := mem_update.mp ht'
  split
  next hselects =>
    obtain ⟨hid,htype,-⟩ := of_decide_eq_true hselects
    obtain ⟨t₀,ht₀,hid₀,htid₀,-⟩ := hp.row
    refine .inr ⟨htype,?_,rfl⟩
    rw [eq_of_id ht₀ ht (htid₀.trans hid.symm)] at hid₀
    exact hid₀
  · exact .inl ht

def Timely (s : Shared) : Phase → Prop
  | .starting c _ => s.clock ≤ c.lockUntil
  | .renewing _ _ lockUntil => s.clock≤lockUntil
  | _ => True

lemma Effect.carried (h : Effect w s p r) (hp : Stands s w p) (hlock : Locked s) (hleas : Leased s w p)
    (htim : Timely s p) :
    Carried s r.1 := by
  have hback := h.running_back
  intro t' ht' hrunning l' hl' htyp
  cases h with
  | quiet hquiet | dispatch =>
    exact .inr ⟨t',ht',hrunning,rfl,rfl,l',hl',rfl,rfl⟩
  | create | update | finish =>
    obtain ⟨t,ht,hrunning,htype,hid,-⟩ := hback nofun t' ht' hrunning
    exact .inr ⟨t,ht,hrunning,htype,hid,l',hl',rfl,rfl⟩
  | mark _ hphase =>
    obtain ⟨t,ht,hrunning,htype,hid,-⟩ := hback (not_starting_of_mark hphase) t' ht' hrunning
    exact .inr ⟨t,ht,hrunning,htype,hid,l',hl',rfl,rfl⟩
  | acquire hphase _ hlocks hold =>
    rcases (hlocks l').mp hl' with rfl | ⟨hl',-⟩
    · exact absurd htyp.symm (not_running_of_acquire hlock hleas hphase hold ht' hrunning)
    · exact .inr ⟨t',ht',hrunning,rfl,rfl,l',hl',rfl,rfl⟩
  | @start c taskID =>
    rcases running_of_start hp ht' hrunning with hold | ⟨htyp',-⟩
    · exact .inr ⟨t',hold,hrunning,rfl,rfl,l',hl',rfl,rfl⟩
    left
    rw [eq_of_key hl' (hleas htim) (htyp.trans htyp')]
    exact htim
  | release | delete =>
    exact .inr ⟨t',ht',hrunning,rfl,rfl,l',(mem_delete.mp hl').1,rfl,rfl⟩
  | renew hlocks =>
    obtain ⟨l,hl,rfl⟩ := (hlocks l').mp hl'
    split
    · exact .inl htim
    · exact .inr ⟨t',ht',hrunning,rfl,rfl,l,hl,rfl,rfl⟩

lemma Effect.keeps (h : Effect w s p r) (hp : Stands s w p) (hv : v≠w)
    (hcla : Claiming s v c taskID) (hls : s.clock ≤ c.lockUntil) (hl : c.lock taskID v.runnerID∈s.locks) :
    c.lock taskID v.runnerID∈r.1.locks := by
  cases h with
  | quiet | create | mark | start | dispatch | update | finish => exact hl
  | @acquire _ _ c' taskID' _ hphase _ hlocks hold =>
    refine (hlocks _).mpr (.inr ⟨hl,fun htype => ?_⟩)
    have hexp : c.lockUntil<c'.now := (hold _ hl htype).1
    have hnow : c'.now ≤ s.clock := by rcases hphase with rfl | ⟨old,rfl⟩ <;> exact Claiming.now_le hp
    omega
  | release taskID' hphase =>
    refine mem_delete.mpr ⟨hl,decide_eq_false ?_⟩
    rintro ⟨hid,hrunn⟩
    have hid : taskID=taskID' := hid
    have hrunn : v.runnerID=w.runnerID := hrunn
    rcases hphase with ⟨rfl,-⟩ | ⟨rfl,-⟩
    · exact hv (hcla.isLoop.trans (hrunn ▸ hp.1.symm))
    · exact hcla.undispatched (by rw [hrunn,hid]; exact hp.1)
  | renew hlocks =>
    refine (hlocks _).mpr ⟨_,hl,(if_neg ?_).symm⟩
    rintro ⟨hid,hrunn,-⟩
    have hid : taskID=_ := hid
    have hrunn : v.runnerID=w.runnerID := hrunn
    exact hcla.undispatched (by rw [hrunn,hid]; exact hp)
  | delete now lock rest =>
    refine mem_delete.mpr ⟨hl,decide_eq_false ?_⟩
    rintro ⟨-,-,-,hexp⟩
    have hexp : c.lockUntil<now := hexp
    have hnow : now ≤ s.clock := hp
    omega

lemma Leased.self (hleas : Leased s w p) (hsnd : Sound s) (hp : Stands s w p) (h : Effect w s p r) :
    Leased r.1 w r.2.1 := by
  cases h with
  | quiet hquiet =>
    cases hquiet with
    | @select c t ht hselects =>
      obtain ⟨-,htype,hpending⟩ := of_decide_eq_true hselects
      intro t' ht' hrunning htyp' l hl hlty
      -- the key of a type belongs to one task, so none of the type is running
      have hkey : t.activeKey=some c.type := by
        rw [hsnd.active t ht,hpending,htype]
        rfl
      have hkey' : t'.activeKey=some c.type := by
        rw [hsnd.active t' ht',hrunning,htyp']
        rfl
      rw [eq_of_activeKey ht' ht hkey' hkey,hpending] at hrunning
      cases hrunning
    | taken | stale => exact hleas
    | _ => trivial
  | acquire _ hphase' hlocks =>
    have hmem : ∀ l, l=_ → l∈_ := fun l hl => (hlocks l).mpr (.inl hl)
    rcases hphase' with rfl | ⟨old,rfl⟩ <;> exact fun _ => hmem _ rfl
  | mark taskID hphase =>
    rcases hphase with ⟨c,T,rfl,rfl⟩ | ⟨now,lock,locks,rfl,rfl,rfl⟩
    · exact hleas
    intro t' ht' hrunning hid
    obtain ⟨t,ht,rfl⟩ := mem_update.mp ht'
    split at hrunning
    · cases hrunning
    next hnot =>
    rw [if_neg hnot] at hid
    exact absurd (decide_eq_true ⟨hid,hrunning⟩) hnot
  | _ => trivial

lemma Locked.effect (hlock : Locked s) (hp : Stands s w p) (hleas : Leased s w p) (htim : Timely s p)
    (h : Effect w s p r) : Locked r.1 := by
  have hback := h.running_back
  intro t ht hrunning
  cases h with
  | quiet | dispatch => exact hlock t ht hrunning
  | create | update | finish =>
    obtain ⟨t₀,ht₀,hrunning,htype,hid,hlockedBy⟩ := hback nofun t ht hrunning
    rw [← htype,← hid,← hlockedBy]
    exact hlock t₀ ht₀ hrunning
  | mark _ hphase =>
    obtain ⟨t₀,ht₀,hrunning,htype,hid,hlockedBy⟩ := hback (not_starting_of_mark hphase) t ht hrunning
    rw [← htype,← hid,← hlockedBy]
    exact hlock t₀ ht₀ hrunning
  | acquire hphase _ hlocks hold =>
    have hne := not_running_of_acquire hlock hleas hphase hold ht hrunning
    obtain ⟨l,hl,htype,hnames⟩ := hlock t ht hrunning
    exact ⟨l,(hlocks l).mpr (.inr ⟨hl,htype ▸ hne⟩),htype,hnames⟩
  | @start c taskID =>
    rcases running_of_start hp ht hrunning with hold | ⟨htype,hid,hlockedBy⟩
    · exact hlock t hold hrunning
    · exact ⟨_,hleas htim,htype.symm,hid.symm,hlockedBy.symm⟩
  | release taskID hphase =>
    obtain ⟨l,hl,htype,hid,hlockedBy⟩ := hlock t ht hrunning
    refine ⟨l,mem_delete.mpr ⟨hl,decide_eq_false ?_⟩,htype,hid,hlockedBy⟩
    rintro ⟨hid',hrunn⟩
    have htask : t.taskID=taskID := hid.symm.trans hid'
    rcases hphase with ⟨rfl,-⟩ | ⟨rfl,-⟩
    · exact HasRow.apply hp.2 ht htask hrunning (hlockedBy.symm.trans hrunn)
    have hover := HasRow.apply hp.2 ht htask
    rw [hrunning] at hover
    cases hover
  | renew hlocks =>
    obtain ⟨l,hl,htype,hid,hlockedBy⟩ := hlock t ht hrunning
    refine ⟨_,(hlocks _).mpr ⟨l,hl,rfl⟩,?_⟩
    split <;> exact ⟨htype,hid,hlockedBy⟩
  | delete now lock rest =>
    obtain ⟨l,hl,htype,hid,hlockedBy⟩ := hlock t ht hrunning
    refine ⟨l,mem_delete.mpr ⟨hl,decide_eq_false ?_⟩,htype,hid,hlockedBy⟩
    rintro ⟨-,hid',-,hexp⟩
    have hfresh : now≤l.lockedUntil := hleas t ht hrunning (hid.symm.trans hid') l hl htype
    omega

variable {s t : Sys} {a : Act}
structure Recovering (s : Sys) : Prop where
  standing : Standing s
  locked : Locked s.shared
  leased : ∀ w, Leased s.shared w (s.phase w)
  holder : StartedByHolder s.log

lemma recovering_start : Recovering start := ⟨standing_start,nofun,fun _ => trivial,nofun⟩

lemma timely_of_prompt (hprom : Prompt s (w,a)) (hrun : a.move=.run) :
    Timely { s.shared with clock := a.now } (s.phase w) := by
  unfold Prompt at hprom
  rw [hrun] at hprom
  cases hp : s.phase w with
  | starting c taskID | renewing taskID now lockUntil =>
    rw [hp] at hprom
    exact hprom
  | _ => trivial

lemma Effect.holder {s : Shared} (h : Effect w s p r) (hleas : Leased s w p)
    (htim : Timely s p) : ∀ e∈r.2.2, ∀ taskID held, e=.started taskID held → held=true := by
  cases h with
  | start =>
    intro e he taskID held heq
    cases heq.symm.trans (mem_singleton.mp he)
    exact any_eq_true.mpr ⟨_,hleas htim,decide_eq_true ⟨rfl,rfl,rfl⟩⟩
  | mark taskID =>
    intro e he _ _ heq
    simp only [markSystemTaskLeaseExpired] at he
    split at he
    · cases heq.symm.trans (mem_singleton.mp he)
    · cases he
  | release _ hphase =>
    intro e he _ _ heq
    rcases hphase with ⟨-,rfl⟩ | ⟨-,rfl⟩
    · cases he
    · cases heq.symm.trans (mem_singleton.mp he)
  | finish =>
    intro e he _ _ heq
    rcases mem_cons.mp he with rfl | he
    · cases heq
    · cases heq.symm.trans (mem_singleton.mp he)
  | acquire | update =>
    intro e he _ _ heq
    cases heq.symm.trans (mem_singleton.mp he)
  | quiet | create | dispatch | renew | delete => exact nofun

lemma Recovering.step (h : Recovering s) (hprom : Prompt s (w,a)) (hstep : SystemTask.step s (w,a)=some t) :
    Recovering t := by
  have hstan := h.standing.step hstep
  obtain ⟨hclc,r,heff,rfl,hmove⟩ := step_effect hstep
  have hself := (h.standing.stands w).tick hclc
  have hleas := (h.leased w).tick hclc
  have hlock : Locked { s.shared with clock := a.now } := h.locked
  have hshar : Carried { s.shared with clock := a.now } r.1 ∧ Locked r.1 ∧
      ∀ e∈r.2.2, ∀ taskID held, e=.started taskID held → held=true := by
    rcases hmove with hrun | ⟨p',rfl⟩
    · have htim := timely_of_prompt hprom hrun
      exact ⟨heff.carried hself hlock hleas htim,hlock.effect hself hleas htim heff,heff.holder hleas htim⟩
    · exact ⟨fun t' ht' hrunning l' hl' _ => .inr ⟨t',ht',hrunning,rfl,rfl,l',hl',rfl,rfl⟩,hlock,nofun⟩
  obtain ⟨hcarr,hlck',hhold⟩ := hshar
  refine ⟨hstan,hlck',?_,?_⟩
  · refine Interleave.forall_phase_advance (fun v p => Leased s.shared v p ∧ Stands s.shared v p) (Leased r.1)
      (fun v => ⟨h.leased v,h.standing.stands v⟩) (hleas.self h.standing.sound.tick hself heff) ?_
    rintro v hv ⟨hv',hsta⟩
    exact (hv'.tick hclc).carry (hsta.tick hclc) hcarr (heff.evolves hself).clock
      fun c taskID hcla hls hl => heff.keeps hself hv hcla hls hl
  · intro e he taskID held heq
    rcases mem_append.mp he with hold | hnew
    · exact h.holder e hold taskID held heq
    obtain ⟨e',he',rfl⟩ := mem_map.mp hnew
    exact hhold e' he' taskID held heq

/-- Whatever the runners do, and however often statements fail or runners stop: if every task is started
before the lease of its claim runs out, each running task has a lock that names it, and each was started
by the holder of its type's lock. -/
theorem running_recoverable {as : List (Worker × Act)} (h : Runs SystemTask.step Prompt start as s) :
    Recoverable s.shared ∧ StartedByHolder s.log := by
  have hrec : Recovering s := h.invariant Recovering (fun _ _ _ hs hprom hstep => hs.step hprom hstep) recovering_start
  refine ⟨?_,hrec.holder⟩
  intro t ht hrunning
  obtain ⟨l,hl,-,hid,-⟩ := hrec.locked t ht hrunning
  exact ⟨l,hl,hid⟩

def createAndLock : List (Worker × Act) :=
  [(.loop "a",⟨1,.begin (.createSystemTask "log_cleanup" "task" "" "")⟩),(.loop "a",⟨1,.run⟩),
    (.loop "a",⟨1,.begin (.claimSystemTask 1 "log_cleanup" 61)⟩),(.loop "a",⟨1,.run⟩),(.loop "a",⟨1,.run⟩)]

def promptStart : List (Worker × Act) := createAndLock++[(.loop "a",⟨61,.run⟩)]

theorem promptly_started : ∃ s, exec step start promptStart=some s ∧ Recoverable s.shared ∧ StartedByHolder s.log ∧
    s.shared.tasks.rows.map Task.status=[.running] ∧ s.shared.locks.rows.map Lock.taskID=["task"] := by
  obtain ⟨s,hs,hruns,hend⟩ := checked_run step Prompt start promptStart (fun s =>
    s.shared.tasks.rows.map Task.status=[.running] ∧ s.shared.locks.rows.map Lock.taskID=["task"]) (by decide +kernel)
  obtain ⟨hrec,hhold⟩ := running_recoverable hruns
  exact ⟨s,hs,hrec,hhold,hend⟩

/-- The first runner stalls before it starts the task. A second one takes the expired lock over; then the
first starts the task, and the second finds nothing to start and releases the lock. -/
def stalledStart : List (Worker × Act) :=
  createAndLock++[(.loop "b",⟨70,.begin (.claimSystemTask 1 "log_cleanup" 130)⟩)]++List.replicate 4 (.loop "b",⟨70,.run⟩)++
    [(.loop "a",⟨71,.run⟩)]++List.replicate 2 (.loop "b",⟨71,.run⟩)

theorem stalled_task_unlocked : ∃ s, exec step start stalledStart=some s ∧
    s.shared.tasks.rows.map (fun t => (t.taskID,t.status,t.activeKey))=[("task",.running,some "log_cleanup")] ∧
    s.shared.locks.rows=[] ∧ (.loop "a",.started "task" false)∈s.log := exists_of_any (by decide +kernel)
end AronaApi.SystemTask
