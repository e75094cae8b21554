import AronaApi.SystemTask.Runner

/-! What one step of a runner does: to its own phase, to the rows of the tasks, and to the locks. -/
namespace AronaApi.SystemTask
open List KeyedTable

namespace TaskTable
variable {table : TaskTable} {a b t : Task}
lemma apart_symm (h : a.Apart b) : b.Apart a := by
  obtain ⟨hid,htaskID,hkey⟩ := h
  refine ⟨hid.symm,htaskID.symm,?_⟩
  rcases hkey with hnone | hne
  · by_cases hb : b.activeKey=none
    · exact .inl hb
    rw [hnone]
    exact .inr hb
  · exact .inr hne.symm

instance : Std.Symm Task.Apart := ⟨fun _ _ => apart_symm⟩

section
variable (ha : a∈table.rows)
include ha
lemma apart_of_ne (hb : b∈table.rows) (hne : a≠b) : a.Apart b :=
  table.distinct.forall ha hb hne

lemma eq_of_taskID (hb : b∈table.rows) (h : a.taskID=b.taskID) : a=b := by
  by_contra hne
  exact (apart_of_ne ha hb hne).2.1 h

lemma eq_of_id (hb : b∈table.rows) (h : a.id=b.id) : a=b := by
  by_contra hne
  exact (apart_of_ne ha hb hne).1 h

lemma eq_of_activeKey {key : String} (hb : b∈table.rows) (hka : a.activeKey=some key)
    (hkb : b.activeKey=some key) : a=b := by
  by_contra hne
  rcases (apart_of_ne ha hb hne).2.2 with hnone | hdiff
  · rw [hka] at hnone
    cases hnone
  · exact hdiff (hka.trans hkb.symm)
end

lemma insert_eq_some {tasks : TaskTable} (h : table.insert t=some tasks) :
    (∀ r∈table.rows, r.Apart t) ∧ tasks.rows=table.rows++[t] := by
  unfold insert at h
  split at h
  next hapr =>
    cases h
    exact ⟨hapr,rfl⟩
  · cases h

lemma mem_update {p : Task → Bool} {c : Change} :
    t∈(table.update p c).rows ↔ ∃ r∈table.rows, (if p r then c.apply r else r)=t := mem_map
end TaskTable

inductive Quiet (w : Worker) (s : Shared) : Phase → Phase → Prop
  | toIdle (p : Phase) : Quiet w s p .idle
  | create (type taskID payload state : String) : Quiet w s .idle (.creating type taskID payload state)
  | claim {runnerID : String} (hw : w=.loop runnerID) (id : ℕ) (type : String) (lockUntil : ℤ) :
      Quiet w s .idle (.selecting ⟨id,type,lockUntil,s.clock⟩)
  | update {taskID : String} (h : (w.runnerID,taskID)∈s.dispatched) (state : String) :
      Quiet w s .idle (.updating taskID s.clock state)
  | renew {taskID : String} (h : (w.runnerID,taskID)∈s.dispatched) (lockUntil : ℤ) :
      Quiet w s .idle (.renewing taskID s.clock lockUntil)
  | finish {taskID : String} (h : (w.runnerID,taskID)∈s.dispatched) (outcome : Outcome) (result errorMessage : String) :
      Quiet w s .idle (.finishing taskID s.clock outcome result errorMessage)
  | expire : Quiet w s .idle (.scanning s.clock)
  | select {c : Claim} {t : Task} (ht : t∈s.tasks.rows) (hselects : c.selects t=true) :
      Quiet w s (.selecting c) (.locking c t.taskID)
  | taken (c : Claim) (taskID : String) : Quiet w s (.locking c taskID) (.looking c taskID)
  | stale (c : Claim) (taskID expiredTaskID : String) : Quiet w s (.looking c taskID) (.stealing c taskID expiredTaskID)
  | unmarked (c : Claim) (taskID expiredTaskID : String) : Quiet w s (.marking c taskID expiredTaskID) (.releasing taskID)
  | unstarted (c : Claim) (taskID : String) : Quiet w s (.starting c taskID) (.releasing taskID)
  | scan (now : ℤ) (locks : List Lock) : Quiet w s (.scanning now) (.expiring now locks)

inductive Effect (w : Worker) (s : Shared) : Phase → Shared × Phase × List Event → Prop
  | quiet {p p' : Phase} (h : Quiet w s p p') : Effect w s p (s,p',[])
  | create {type taskID payload state : String} {t : Task} {tasks : TaskTable} (hinsert : s.tasks.insert t=some tasks)
      (hpending : t.status=.pending) (hkey : t.activeKey=some t.type) :
      Effect w s (.creating type taskID payload state) ({ s with tasks := tasks,nextId := s.nextId+1 },.idle,[])
  /-- the lock is inserted, or one that has run out is taken over -/
  | acquire {p p' : Phase} {c : Claim} {taskID : String} {locks : KeyedTable Lock Lock.type}
      (hp : p=.locking c taskID ∨ ∃ expiredTaskID, p=.stealing c taskID expiredTaskID)
      (hp' : p'=.starting c taskID ∨ ∃ expiredTaskID, p'=.marking c taskID expiredTaskID)
      (hlocks : ∀ l, l∈locks ↔ l=⟨c.type,taskID,w.runnerID,c.lockUntil,c.now⟩ ∨ l∈s.locks ∧ l.type≠c.type)
      (hold : ∀ l∈s.locks, l.type=c.type → l.lockedUntil<c.now ∧ ∃ expiredTaskID, p=.stealing c taskID expiredTaskID) :
      Effect w s p ({ s with locks := locks },p',[.acquired c.type taskID])
  | mark (taskID : String) {p p' : Phase}
      (hp : (∃ c T, p=.marking c T taskID ∧ p'=.starting c T) ∨
        ∃ now lock locks, p=.expiring now (lock::locks) ∧ p'=.deleting now lock locks ∧ lock.taskID=taskID) :
      Effect w s p ((markSystemTaskLeaseExpired s taskID).1,p',(markSystemTaskLeaseExpired s taskID).2)
  | start {c : Claim} {taskID : String} (hany : s.tasks.rows.any c.selects=true) :
      Effect w s (.starting c taskID) ({ s with tasks := s.tasks.update c.selects (.start w.runnerID c.now) },
        .reloading c taskID,
        [.started taskID (s.locks.rows.any fun l => l.type=c.type ∧ l.taskID=taskID ∧ l.lockedBy=w.runnerID)])
  | release {p : Phase} {events : List Event} (taskID : String)
      (hp : p=.releasing taskID ∧ events=[] ∨ p=.finished taskID ∧ events=[.finished taskID]) :
      Effect w s p (releaseSystemTaskLock s taskID w.runnerID,.idle,events)
  | dispatch (c : Claim) (taskID : String) :
      Effect w s (.reloading c taskID) ({ s with dispatched := (w.runnerID,taskID)::s.dispatched },.idle,[])
  | update {taskID state : String} {now : ℤ} (hany : s.tasks.rows.any (owns s w.runnerID taskID now)=true) :
      Effect w s (.updating taskID now state)
        ({ s with tasks := s.tasks.update (owns s w.runnerID taskID now) (.setState state now) },.idle,[.wrote taskID])
  | renew {taskID : String} {now lockUntil : ℤ} {locks : KeyedTable Lock Lock.type}
      (hlocks : ∀ l, l∈locks ↔ ∃ l₀∈s.locks, l = if l₀.taskID=taskID ∧ l₀.lockedBy=w.runnerID ∧ now≤l₀.lockedUntil then
          { l₀ with lockedUntil := lockUntil,updatedAt := now } else l₀) :
      Effect w s (.renewing taskID now lockUntil) ({ s with locks := locks },.idle,[])
  | finish {taskID result errorMessage : String} {now : ℤ} {outcome : Outcome}
      (hany : s.tasks.rows.any (owns s w.runnerID taskID now)=true) :
      Effect w s (.finishing taskID now outcome result errorMessage)
        ({ s with tasks := s.tasks.update (owns s w.runnerID taskID now) (.finish outcome result errorMessage now) },
          .finished taskID,[.wrote taskID,.ended taskID])
  | delete (now : ℤ) (lock : Lock) (rest : List Lock) :
      Effect w s (.deleting now lock rest)
        ({ s with locks := s.locks.delete fun l =>
            l.type=lock.type ∧ l.taskID=lock.taskID ∧ l.lockedBy=lock.lockedBy ∧ l.lockedUntil<now },
          .expiring now rest,[])

variable {w : Worker} {s : Shared} {p p' : Phase} {r : Shared × Phase × List Event}
lemma mem_steal {c : Claim} {taskID : String} (hany : s.locks.rows.any c.steals=true)
    (hkeys : ∀ l, (if c.steals l then ⟨l.type,taskID,w.runnerID,c.lockUntil,c.now⟩ else l : Lock).type=l.type) (l : Lock) :
    l∈s.locks.update (fun l => if c.steals l then ⟨l.type,taskID,w.runnerID,c.lockUntil,c.now⟩ else l) hkeys ↔
      l=⟨c.type,taskID,w.runnerID,c.lockUntil,c.now⟩ ∨ l∈s.locks ∧ l.type≠c.type := by
  obtain ⟨l₀,hl₀,hste⟩ := any_eq_true.mp hany
  have htyp : l₀.type=c.type := (of_decide_eq_true hste).1
  rw [mem_update]
  constructor
  · rintro ⟨l₁,hl₁,rfl⟩
    split
    next hstl =>
      left
      rw [(of_decide_eq_true hstl).1]
    next hnot =>
    refine .inr ⟨hl₁,fun htype => hnot ?_⟩
    rw [eq_of_key hl₁ hl₀ (htype.trans htyp.symm)]
    exact hste
  · rintro (rfl | ⟨hl,htype⟩)
    · refine ⟨l₀,hl₀,?_⟩
      rw [if_pos hste,htyp]
    · refine ⟨l,hl,if_neg fun hstl => htype (of_decide_eq_true hstl).1⟩

lemma effect_of_run (h : run w s p=some r) : Effect w s p r := by
  cases p with
  | idle => cases h
  | creating type taskID payload state =>
    simp only [run] at h
    split at h
    · cases h
      exact .quiet (.toIdle _)
    next hinsert =>
    cases h
    exact .create hinsert rfl rfl
  | selecting c =>
    simp only [run] at h
    split at h
    · cases h
      exact .quiet (.toIdle _)
    next hfind =>
    cases h
    exact .quiet (.select (List.mem_of_find?_eq_some hfind) (List.find?_some hfind))
  | locking c taskID =>
    simp only [run] at h
    split at h
    next locks hinsert =>
      cases h
      obtain ⟨hfresh,hrows⟩ := insert_eq_some hinsert
      refine .acquire (.inl rfl) (.inl rfl) (fun l => ?_) fun l hl htype => absurd htype (hfresh l hl)
      show l∈locks.rows ↔ _
      rw [hrows,mem_append,mem_singleton,or_comm]
      exact or_congr_right ⟨fun hl => ⟨hl,hfresh l hl⟩,And.left⟩
    · cases h
      exact .quiet (.taken c taskID)
  | looking c taskID =>
    simp only [run] at h
    split at h
    · cases h
      exact .quiet (.toIdle _)
    cases h
    split
    · exact .quiet (.toIdle _)
    · exact .quiet (.stale c taskID _)
  | stealing c taskID expiredTaskID =>
    simp only [run] at h
    split at h
    next hany =>
      cases h
      obtain ⟨l₀,hl₀,hste⟩ := any_eq_true.mp hany
      have hl₀' := of_decide_eq_true hste
      refine .acquire (.inr ⟨_,rfl⟩) ?_ (mem_steal hany _) fun l hl htype => ?_
      · split
        · exact .inr ⟨_,rfl⟩
        · exact .inl rfl
      · rw [eq_of_key hl hl₀ (htype.trans hl₀'.1.symm)]
        exact ⟨hl₀'.2,_,rfl⟩
    · cases h
      exact .quiet (.toIdle _)
  | marking c taskID expiredTaskID =>
    cases h
    exact .mark expiredTaskID (.inl ⟨c,taskID,rfl,rfl⟩)
  | starting c taskID =>
    simp only [run] at h
    split at h
    next hany =>
      cases h
      exact .start hany
    · cases h
      exact .quiet (.unstarted c taskID)
  | releasing taskID =>
    cases h
    exact .release taskID (.inl ⟨rfl,rfl⟩)
  | reloading c taskID =>
    simp only [run] at h
    split at h
    · cases h
      exact .dispatch c taskID
    · cases h
      exact .quiet (.toIdle _)
  | updating taskID now state =>
    simp only [run] at h
    split at h
    next hany =>
      cases h
      exact .update hany
    · cases h
      exact .quiet (.toIdle _)
  | renewing taskID now lockUntil =>
    cases h
    refine .renew fun l => ?_
    rw [mem_update]
    exact exists_congr fun l₀ => and_congr_right fun _ => eq_comm
  | finishing taskID now outcome result errorMessage =>
    simp only [run] at h
    split at h
    next hany =>
      cases h
      exact .finish hany
    · cases h
      exact .quiet (.toIdle _)
  | finished taskID =>
    cases h
    exact .release taskID (.inr ⟨rfl,rfl⟩)
  | scanning now =>
    cases h
    exact .quiet (.scan now _)
  | expiring now locks =>
    cases locks with
    | nil =>
      cases h
      exact .quiet (.toIdle _)
    | cons lock locks =>
      cases h
      exact .mark lock.taskID (.inr ⟨now,lock,locks,rfl,rfl,rfl⟩)
  | deleting now lock locks =>
    cases h
    exact .delete now lock locks

lemma quiet_of_fail (h : fail p=some p') : Quiet w s p p' := by
  cases p with
  | idle => cases h
  | locking c taskID =>
    cases h
    exact .taken c taskID
  | marking c taskID expiredTaskID =>
    cases h
    exact .unmarked c taskID expiredTaskID
  | starting c taskID =>
    cases h
    exact .unstarted c taskID
  | _ =>
    cases h
    exact .toIdle _

lemma quiet_of_begin {request : Request} (h : begin w s request=some p') : Quiet w s .idle p' := by
  cases request
  case createSystemTask =>
    cases h
    exact .create _ _ _ _
  case claimSystemTask id type lockUntil =>
    cases w with
    | loop runnerID =>
      cases h
      exact .claim rfl id type lockUntil
    | handler => cases h
  case expireStaleSystemTaskLocks =>
    cases h
    exact .expire
  all_goals
    simp only [begin,Option.ite_none_right_eq_some,Option.some.injEq] at h
    obtain ⟨hdisp,rfl⟩ := h
  case updateSystemTaskState => exact .update hdisp _
  case renewSystemTaskLock => exact .renew hdisp _
  case finishSystemTask => exact .finish hdisp _ _ _

lemma effect_of_next {a : Act} (h : next w s p a=some r) : s.clock≤a.now ∧
    ((∃ p', Quiet w { s with clock := a.now } p p' ∧ r=({ s with clock := a.now },p',[])) ∨
      a.move=.run ∧ Effect w { s with clock := a.now } p r) := by
  unfold next at h
  split at h
  · cases h
  next hclc =>
  refine ⟨Int.not_lt.mp hclc,?_⟩
  split at h
  · obtain ⟨p',hp',rfl⟩ := Option.map_eq_some_iff.mp h
    exact .inl ⟨p',quiet_of_begin hp',rfl⟩
  · cases h
  next hrun => exact .inr ⟨hrun,effect_of_run h⟩
  · obtain ⟨p',hp',rfl⟩ := Option.map_eq_some_iff.mp h
    exact .inl ⟨p',quiet_of_fail hp',rfl⟩
end AronaApi.SystemTask
