import AronaApi.SystemTask.Recovery

/-! One owner and one outcome for every task, in every run. Here lateness does no harm: an outcome is
written only under the lock, and a runner that has started a task never takes the lock for it again. -/
namespace AronaApi.SystemTask
open Schedule List SystemTask

abbrev Log := List (Worker × Event)

/-- `runnerID` has started the task, and no other runner has taken over the lock of the type since. -/
def Owned (runnerID taskID type : String) (log : Log) : Prop :=
  ∃ before held since, log=before++(.loop runnerID,.started taskID held)::since ∧
    ∀ e∈since, ∀ other, e.2=.acquired type other → e.1.runnerID=runnerID

def Event.starts (taskID : String) : Event → Bool
  | .started id _ => id=taskID
  | _ => false

def Event.ends (taskID : String) : Event → Bool
  | .ended id => id=taskID
  | _ => false

/-- The tasks of a state and what the runners have done so far: one active task for each type, each started
once and ended once, and written to only by the runner that has started it and still holds the lock. -/
structure OneOwner (s : Sys) : Prop where
  active : ∀ t∈s.shared.tasks.rows, t.activeKey=if t.status.isActive then some t.type else none
  single : ∀ t∈s.shared.tasks.rows, ∀ t'∈s.shared.tasks.rows, t.status.isActive=true → t'.status.isActive=true →
    t.type=t'.type → t=t'
  starts : ∀ taskID, (s.log.filter fun e => e.2.starts taskID).length≤1
  ends : ∀ taskID, (s.log.filter fun e => e.2.ends taskID).length≤1
  wrote : ∀ before w taskID since, s.log=before++(w,.wrote taskID)::since →
    HasRow s.shared taskID fun t => Owned w.runnerID taskID t.type before
  finished : ∀ w taskID, (w,Event.finished taskID)∈s.log → ∃ held, (.loop w.runnerID,.started taskID held)∈s.log

variable {log more : Log} {runnerID : String}
lemma Owned.append {taskID type : String} (h : Owned runnerID taskID type log)
    (hmore : ∀ e∈more, ∀ other, e.2=.acquired type other → e.1.runnerID=runnerID) :
    Owned runnerID taskID type (log++more) := by
  obtain ⟨before,held,since,rfl,hsnc⟩ := h
  exact ⟨before,held,since++more,by simp,forall_mem_append.mpr ⟨hsnc,hmore⟩⟩

lemma split_append {α : Type*} {log more before since : List α} {x : α} (h : log++more=before++x::since) :
    (∃ rest, log=before++x::rest) ∨ ∃ mid, before=log++mid ∧ more=mid++x::since := by
  rcases append_eq_append_iff.mp h with ⟨mid,hbef,hmore⟩ | ⟨mid,hlog,hrest⟩
  · exact .inr ⟨mid,hbef,hmore⟩
  cases mid with
  | nil => exact .inr ⟨[],by simpa using hlog.symm,hrest.symm⟩
  | cons y mid =>
    obtain ⟨rfl,-⟩ := List.cons.inj hrest
    exact .inl ⟨mid,hlog⟩

/-- Something that is logged at most once, and only where `Q` holds afterwards. -/
def Once (mark : Event → Bool) (Q : Prop) (log : Log) : Prop :=
  (log.filter fun e => mark e.2).length≤1 ∧ ((∃ e∈log, mark e.2=true) → Q)

lemma Once.append {mark : Event → Bool} {Q Q' : Prop} {w : Worker} {events : List Event} (h : Once mark Q log)
    (hQ : Q → Q') (heven : ∀ e∈events, mark e=true → ¬Q ∧ Q' ∧ (events.filter mark).length≤1) :
    Once mark Q' (log++events.map (Prod.mk w)) := by
  have hmap : ((events.map (Prod.mk w)).filter fun e => mark e.2)=(events.filter mark).map (Prod.mk w) := by
    rw [filter_map]
    rfl
  by_cases hnew : ∃ e∈events, mark e=true
  · obtain ⟨e,he,hmark⟩ := hnew
    obtain ⟨hnot,hQ',hleng⟩ := heven e he hmark
    have hold : (log.filter fun e => mark e.2)=[] :=
      filter_eq_nil_iff.mpr fun e he hmark => hnot (h.2 ⟨e,he,hmark⟩)
    refine ⟨?_,fun _ => hQ'⟩
    rw [filter_append,hold,hmap,nil_append,length_map]
    exact hleng
  · have hnone : events.filter mark=[] := filter_eq_nil_iff.mpr fun e he hmark => hnew ⟨e,he,hmark⟩
    constructor
    · rw [filter_append,hmap,hnone,map_nil,append_nil]
      exact h.1
    · rintro ⟨e,he,hmark⟩
      rcases mem_append.mp he with he | he
      · exact hQ (h.2 ⟨e,he,hmark⟩)
      obtain ⟨e',he',rfl⟩ := mem_map.mp he
      exact absurd ⟨e',he',hmark⟩ hnew

variable {w : Worker} {s : Shared} {p : Phase} {r : Shared × Phase × List Event}
structure Reported (w : Worker) (s : Shared) (r : Shared × Phase × List Event) : Prop where
  started : ∀ taskID held, Event.started taskID held∈r.2.2 → w=.loop w.runnerID ∧ r.2.2=[.started taskID held] ∧
    (HasRow s taskID fun t => t.status=.pending) ∧ HasRow r.1 taskID fun t => t.status≠.pending
  ended : ∀ taskID, Event.ended taskID∈r.2.2 → (r.2.2.filter (Event.ends taskID)).length≤1 ∧
    (HasRow s taskID fun t => t.status=.running) ∧ HasRow r.1 taskID fun t => t.status.isOver=true
  wrote : ∀ taskID, Event.wrote taskID∈r.2.2 → HasRow s taskID fun t =>
    t.status=.running ∧ t.lockedBy=w.runnerID ∧ ∃ l∈s.locks, l.taskID=t.taskID ∧ l.lockedBy=w.runnerID
  finished : ∀ taskID, Event.finished taskID∈r.2.2 → (w.runnerID,taskID)∈s.dispatched
  acquired : ∀ type taskID, Event.acquired type taskID∈r.2.2 → ∃ c, c.type=type ∧ Claiming s w c taskID ∧
    ∀ l∈r.1.locks, l.type=type → l.taskID=taskID ∧ l.lockedBy=w.runnerID

variable {taskID : String} {c : Claim}
lemma Effect.reloading (h : Effect w s p r) (hphase : r.2.1=.reloading c taskID) :
    ∃ held, Event.started taskID held∈r.2.2 := by
  cases h with
  | quiet hquiet => cases hquiet <;> cases hphase
  | acquire _ hphase' =>
    rcases hphase' with rfl | ⟨old,rfl⟩ <;> cases hphase
  | mark _ hphase' =>
    rcases hphase' with ⟨c',T,-,rfl⟩ | ⟨now,lock,locks,-,rfl,-⟩ <;> cases hphase
  | start =>
    cases hphase
    exact ⟨_,mem_singleton_self _⟩
  | create | release | dispatch | update | renew | finish | delete => cases hphase

lemma Effect.dispatched (h : Effect w s p r) {x : String × String} (hx : x∈r.1.dispatched) :
    x∈s.dispatched ∨ x.1=w.runnerID ∧ ∃ c, p=.reloading c x.2 := by
  cases h with
  | dispatch c taskID =>
    rcases mem_cons.mp hx with rfl | hx
    · exact .inr ⟨rfl,c,rfl⟩
    · exact .inl hx
  | quiet | create | acquire | mark | start | release | update | renew | finish | delete => exact .inl hx

lemma reported_nil (h : r.2.2=[]) : Reported w s r := by refine ⟨?_,?_,?_,?_,?_⟩ <;> rw [h] <;> exact nofun

variable {now : ℤ}
lemma hasRow_of_owns (hany : s.tasks.rows.any (owns s w.runnerID taskID now)=true) :
    HasRow s taskID fun t => owns s w.runnerID taskID now t=true := by
  obtain ⟨t,ht,howns⟩ := any_eq_true.mp hany
  exact ⟨t,ht,(of_decide_eq_true howns).1,howns⟩

lemma HasRow.imp {P Q : Task → Prop} (h : HasRow s taskID P) (hPQ : ∀ t, P t → Q t) : HasRow s taskID Q := by
  obtain ⟨t,ht,hid,hP⟩ := h
  exact ⟨t,ht,hid,hPQ t hP⟩

lemma HasRow.tick {P : Task → Prop} (h : HasRow s taskID P) : HasRow { s with clock := now } taskID P := h

lemma owned_row (hany : s.tasks.rows.any (owns s w.runnerID taskID now)=true) :
    HasRow s taskID fun t => t.status=.running ∧ t.lockedBy=w.runnerID ∧
      ∃ l∈s.locks, l.taskID=t.taskID ∧ l.lockedBy=w.runnerID := by
  refine (hasRow_of_owns hany).imp fun t howns => ?_
  obtain ⟨-,hrunning,hlockedBy,l,hl,hid,hrunn,-⟩ := of_decide_eq_true howns
  exact ⟨hrunning,hlockedBy,l,hl,hid,hrunn⟩

lemma Effect.reported (h : Effect w s p r) (hp : Stands s w p) : Reported w s r := by
  cases h with
  | quiet | create | dispatch | renew | delete => exact reported_nil rfl
  | @acquire _ _ c taskID locks hphase _ hlocks =>
    have hcla : Claiming s w c taskID := by rcases hphase with rfl | ⟨old,rfl⟩ <;> exact hp
    refine ⟨by simp,by simp,by simp,by simp,?_⟩
    intro type id hmem
    cases mem_singleton.mp hmem
    refine ⟨c,rfl,hcla,fun l hl htype => ?_⟩
    rcases (hlocks l).mp hl with rfl | ⟨-,hne⟩
    · exact ⟨rfl,rfl⟩
    · exact absurd htype hne
  | mark taskID =>
    by_cases hany : s.tasks.rows.any (isRunning taskID)=true
    · have heven : (markSystemTaskLeaseExpired s taskID).2=[.ended taskID] := if_pos hany
      obtain ⟨t,ht,hrunning⟩ := any_eq_true.mp hany
      have hrow : HasRow s taskID fun t => isRunning taskID t=true := ⟨t,ht,(of_decide_eq_true hrunning).1,hrunning⟩
      rw [heven]
      refine ⟨by simp,?_,by simp,by simp,by simp⟩
      intro id hid
      cases mem_singleton.mp hid
      exact ⟨length_filter_le _ _,hrow.imp fun t ht => (of_decide_eq_true ht).2,
        hrow.update (fun _ _ _ => rfl) fun t hnot ht => absurd ht hnot⟩
    · exact reported_nil (if_neg hany)
  | @start c taskID hany =>
    have hcla : Claiming s w c taskID := hp
    refine ⟨?_,by simp,by simp,by simp,by simp⟩
    intro id held hmem
    obtain ⟨rfl,rfl⟩ := Event.started.inj (mem_singleton.mp hmem)
    obtain ⟨t,ht,hid,hselects⟩ := hcla.selected hany
    exact ⟨hcla.isLoop,rfl,⟨t,ht,hid,(of_decide_eq_true hselects).2.2⟩,hasRow_start hcla hany⟩
  | release taskID hphase =>
    rcases hphase with ⟨rfl,rfl⟩ | ⟨rfl,rfl⟩
    · exact reported_nil rfl
    refine ⟨by simp,by simp,by simp,?_,by simp⟩
    intro id hid
    cases mem_singleton.mp hid
    exact hp.1
  | @update taskID state now hany =>
    refine ⟨by simp,by simp,?_,by simp,by simp⟩
    intro id hid
    cases mem_singleton.mp hid
    exact owned_row hany
  | @finish taskID result errorMessage now outcome hany =>
    refine ⟨by simp,?_,?_,by simp,by simp⟩
    · intro id hid
      have hid : id=taskID := by simpa using hid
      subst hid
      refine ⟨by simp [Event.ends],(owned_row hany).imp fun t ht => ht.1,?_⟩
      exact (hasRow_of_owns hany).update (fun _ _ _ => outcome.isOver_status) fun t hnot ht => absurd ht hnot
    · intro id hid
      have hid : id=taskID := by simpa using hid
      subst hid
      exact owned_row hany

lemma Effect.running_or_started (h : Effect w s p r) (hp : Stands s w p) {t' : Task} (ht' : t'∈r.1.tasks.rows)
    (hrunning : t'.status=.running) : (∃ t∈s.tasks.rows, t.status=.running ∧ t.type=t'.type ∧ t.taskID=t'.taskID ∧
      t.lockedBy=t'.lockedBy) ∨ w=.loop t'.lockedBy ∧ ∃ held, r.2.2=[.started t'.taskID held] := by
  have hback := h.running_back
  cases h with
  | quiet | acquire | release | dispatch | renew | delete => exact .inl ⟨t',ht',hrunning,rfl,rfl,rfl⟩
  | create | update | finish => exact .inl (hback nofun t' ht' hrunning)
  | mark _ hphase => exact .inl (hback (not_starting_of_mark hphase) t' ht' hrunning)
  | @start c taskID =>
    have hcla : Claiming s w c taskID := hp
    rcases running_of_start hcla ht' hrunning with hold | ⟨-,hid,hlockedBy⟩
    · exact .inl ⟨t',hold,hrunning,rfl,rfl,rfl⟩
    refine .inr ⟨?_,_,by rw [hid]⟩
    rw [hlockedBy]
    exact hcla.isLoop

/-- The runner that a task and its lock both name has started the task and kept the lock. -/
def Owning (s : Shared) (log : Log) : Prop :=
  ∀ t∈s.tasks.rows, t.status=.running → ∀ l∈s.locks, l.taskID=t.taskID → l.lockedBy=t.lockedBy →
    Owned t.lockedBy t.taskID t.type log

lemma Claiming.lockedBy_ne (h : Claiming s w c taskID) {t : Task} (ht : t∈s.tasks.rows)
    (hid : t.taskID=taskID) (hrunning : t.status=.running) : t.lockedBy≠w.runnerID :=
  (h.row.apply ht hid).2.2 hrunning

lemma Owning.effect (hsnd : Sound s) (hp : Stands s w p) (h : Effect w s p r) (hown : Owning s log) :
    Owning r.1 (log++r.2.2.map (Prod.mk w)) := by
  intro t' ht' hrn' l' hl' hlid hlockedBy
  rcases h.running_or_started hp ht' hrn' with ⟨t,ht,hrunning,htype,hid,hby⟩ | ⟨hloop,held,heven⟩
  · -- a lock of the task's type that was acquired in this step would be for a task the runner has started
    have hlty : l'.type=t'.type := ((hsnd.effect hp h).typed l' hl' |>.apply ht' hlid.symm).symm
    have howned : Owned t.lockedBy t.taskID t.type log := by
      rcases h.mem_locks hl' with ⟨l,hl,-,hllid,hlby⟩ | ⟨hlby,c,-,hphase⟩
      · exact hown t ht hrunning l hl (hllid.trans (hlid.trans hid.symm)) (hlby.trans (hlockedBy.trans hby.symm))
      have hcla : Claiming s w c l'.taskID := by rcases hphase with rfl | ⟨old,rfl⟩ <;> exact hp
      exact absurd (hby.trans (hlockedBy.symm.trans hlby)) (hcla.lockedBy_ne ht (hid.trans hlid.symm) hrunning)
    rw [hby,hid,htype] at howned
    refine howned.append fun e he other hacq => ?_
    obtain ⟨e',he',rfl⟩ := mem_map.mp he
    have hacq : e'=.acquired t'.type other := hacq
    rw [hacq] at he'
    obtain ⟨c,-,hcla,hlock⟩ := (h.reported hp).acquired _ _ he'
    obtain ⟨hoth,hlby⟩ := hlock l' hl' hlty
    exact absurd (hby.trans (hlockedBy.symm.trans hlby))
      (hcla.lockedBy_ne ht (hid.trans (hlid.symm.trans hoth)) hrunning)
  · refine ⟨log,held,[],?_,nofun⟩
    rw [heven,hloop]
    rfl

variable {s t : Sys} {a : Act}
def HasStarted (log : Log) (runnerID taskID : String) : Prop := ∃ held, (.loop runnerID,.started taskID held)∈log

variable {as : List (Worker × Act)} {e : Event}
lemma HasStarted.append (h : HasStarted log runnerID taskID) : HasStarted (log++more) runnerID taskID := by
  obtain ⟨held,hmem⟩ := h
  exact ⟨held,mem_append_left _ hmem⟩

structure Logged (s : Sys) : Prop where
  standing : Standing s
  started : ∀ taskID, Once (Event.starts taskID) (HasRow s.shared taskID fun t => t.status≠.pending) s.log
  ended : ∀ taskID, Once (Event.ends taskID) (HasRow s.shared taskID fun t => t.status.isOver=true) s.log
  owning : Owning s.shared s.log
  wrote : ∀ before w taskID since, s.log=before++(w,.wrote taskID)::since →
    HasRow s.shared taskID fun t => Owned w.runnerID taskID t.type before
  reloading : ∀ w c taskID, s.phase w=.reloading c taskID → HasStarted s.log w.runnerID taskID
  dispatched : ∀ x∈s.shared.dispatched, HasStarted s.log x.1 x.2
  finished : ∀ w taskID, (w,Event.finished taskID)∈s.log → HasStarted s.log w.runnerID taskID

lemma logged_start : Logged start where
  standing := standing_start
  started _ := ⟨Nat.zero_le _,by rintro ⟨_,⟨⟩,_⟩⟩
  ended _ := ⟨Nat.zero_le _,by rintro ⟨_,⟨⟩,_⟩⟩
  owning := nofun
  wrote before _ _ _ h := by cases before <;> cases h
  reloading := nofun
  dispatched := nofun
  finished := nofun

lemma eq_of_starts (h : e.starts taskID=true) : ∃ held, e=.started taskID held := by
  cases e with
  | started id held =>
    cases of_decide_eq_true h
    exact ⟨held,rfl⟩
  | _ => cases h

lemma eq_of_ends (h : e.ends taskID=true) : e=.ended taskID := by
  cases e with
  | ended id =>
    cases of_decide_eq_true h
    rfl
  | _ => cases h

lemma Logged.step (h : Logged s) (hstep : step s (w,a)=some t) : Logged t := by
  have hstan := h.standing.step hstep
  obtain ⟨hclc,r,heff,rfl,-⟩ := step_effect hstep
  have hself := (h.standing.stands w).tick hclc
  have hevol := heff.evolves hself
  have hrep := heff.reported hself
  refine ⟨hstan,?_,?_,h.owning.effect h.standing.sound.tick hself heff,?_,?_,?_,?_⟩
  · intro taskID
    refine (h.started taskID).append (fun hrow => hasRow_not_pending hrow.tick hevol) fun e he hmark => ?_
    obtain ⟨held,rfl⟩ := eq_of_starts hmark
    obtain ⟨-,heven,⟨t,ht,hid,hpending⟩,hstar⟩ := hrep.started taskID held he
    refine ⟨fun hrow => hrow.apply ht hid hpending,hstar,?_⟩
    rw [heven]
    exact length_filter_le _ _
  · intro taskID
    refine (h.ended taskID).append (fun hrow => hasRow_isOver hrow.tick hevol) fun e he hmark => ?_
    cases eq_of_ends hmark
    obtain ⟨hleng,⟨t,ht,hid,hrunning⟩,hover⟩ := hrep.ended taskID he
    refine ⟨fun hrow => ?_,hover,hleng⟩
    have hover := hrow.apply ht hid
    rw [hrunning] at hover
    cases hover
  · intro before v taskID since heq
    rcases split_append heq with ⟨rest,hlog⟩ | ⟨mid,rfl,hmore⟩
    · refine (h.wrote before v taskID rest hlog).tick.evolve hevol fun t t' _ hrow hown => ?_
      rw [hrow.keys.type_eq]
      exact hown
    have hby (e : Worker × Event) (he : e∈mid++(v,.wrote taskID)::since) : e.1=w ∧ e.2∈r.2.2 := by
      rw [← hmore] at he
      obtain ⟨e',he',rfl⟩ := mem_map.mp he
      exact ⟨rfl,he'⟩
    obtain ⟨rfl,hwrt⟩ : v=w ∧ Event.wrote taskID∈r.2.2 := hby (v,.wrote taskID) (by simp)
    obtain ⟨t,ht,rfl,hrunning,hlockedBy,l,hl,hlid,hlby⟩ := hrep.wrote taskID hwrt
    have hown := h.owning t ht hrunning l hl hlid (hlby.trans hlockedBy.symm)
    rw [hlockedBy] at hown
    have hrow : HasRow s.shared t.taskID fun t' => Owned v.runnerID t.taskID t'.type (s.log++mid) :=
      ⟨t,ht,rfl,hown.append fun e he _ _ => by rw [(hby e (mem_append_left _ he)).1]⟩
    refine hrow.tick.evolve hevol fun t₀ t' _ hrow hown => ?_
    rw [hrow.keys.type_eq]
    exact hown
  · intro v c taskID hphase
    by_cases hv : v=w
    · subst hv
      rw [Interleave.advance_phase_self] at hphase
      obtain ⟨held,hmem⟩ := heff.reloading hphase
      obtain ⟨hloop,-⟩ := hrep.started taskID held hmem
      refine ⟨held,mem_append_right _ (mem_map.mpr ⟨_,hmem,?_⟩)⟩
      rw [← hloop]
    · rw [Interleave.advance_phase_of_ne _ _ hv] at hphase
      exact (h.reloading v c taskID hphase).append
  · intro x hx
    rcases heff.dispatched hx with hold | ⟨hrunn,c,hphase⟩
    · exact (h.dispatched x hold).append
    rw [hrunn]
    exact (h.reloading w c x.2 hphase).append
  · intro v taskID hmem
    rcases mem_append.mp hmem with hold | hnew
    · exact (h.finished v taskID hold).append
    obtain ⟨e,he,heq⟩ := mem_map.mp hnew
    obtain ⟨rfl,rfl⟩ := Prod.mk.inj heq
    exact (h.dispatched _ (hrep.finished taskID he)).append

lemma Logged.oneOwner (h : Logged s) : OneOwner s where
  active := h.standing.sound.active
  single t ht t' ht' hactive hactive' htype := by
    have hkey := h.standing.sound.active t ht
    have hkey' := h.standing.sound.active t' ht'
    rw [if_pos hactive] at hkey
    rw [if_pos hactive',← htype] at hkey'
    exact TaskTable.eq_of_activeKey ht ht' hkey hkey'
  starts taskID := (h.started taskID).1
  ends taskID := (h.ended taskID).1
  wrote := h.wrote
  finished := h.finished

variable {status : Status}
section
variable (hover : status.isOver=true) (hlogg : Logged s) (hrow : HasRow s.shared taskID fun t => t.status=status)
include hover hlogg hrow
lemma hasRow_status_step (hstep : step s (w,a)=some t) : HasRow t.shared taskID fun t => t.status=status := by
  obtain ⟨hclc,r,heff,rfl,-⟩ := step_effect hstep
  refine hrow.tick.evolve (heff.evolves ((hlogg.standing.stands w).tick hclc)) fun t t' _ hstep hstatus => ?_
  rw [hstep.status_of_isOver (hstatus ▸ hover),hstatus]

lemma hasRow_status_run (h : Runs step (fun _ _ => True) s as t) : HasRow t.shared taskID fun t => t.status=status := by
  refine (h.invariant (fun s => Logged s ∧ HasRow s.shared taskID fun t => t.status=status) ?_ ⟨hlogg,hrow⟩).2
  rintro s ⟨w,a⟩ t ⟨hlogg,hrow⟩ - hstep
  exact ⟨hlogg.step hstep,hasRow_status_step hover hlogg hrow hstep⟩
end

lemma logged_of_exec (h : exec step start as=some s) : Logged s := by
  have hruns : Runs step (fun _ _ => True) start as s := runs_of_exec h fun _ _ _ => trivial
  exact hruns.invariant Logged (fun _ _ _ hs _ hstep => hs.step hstep) logged_start

/-- In every interleaving of any number of runners, tasks have one owner and one outcome; what is written to
a task is written by the runner that has started it while no other has taken over the lock of its type. -/
theorem one_owner_one_outcome {as bs : List (Worker × Act)} (h : exec step start as=some s)
    (hrest : exec step s bs=some t) : OneOwner s ∧ ∀ row∈s.shared.tasks.rows, row.status.isOver=true →
      ∃ row'∈t.shared.tasks.rows, row'.taskID=row.taskID ∧ row'.status=row.status := by
  have hlogg := logged_of_exec h
  refine ⟨hlogg.oneOwner,fun row hmem hover => ?_⟩
  have hruns : Runs step (fun _ _ => True) s bs t := runs_of_exec hrest fun _ _ _ => trivial
  exact hasRow_status_run hover hlogg ⟨row,hmem,rfl,rfl⟩ hruns

def startAndFinish : List (Worker × Act) :=
  promptStart++[(.loop "a",⟨61,.run⟩),(.handler "a" 0,⟨61,.begin (.finishSystemTask "task" .succeeded "" "")⟩),
    (.handler "a" 0,⟨61,.run⟩)]

/-- It stalls before it releases the lock. A second runner creates and claims the next task of the type and
takes the lock over; then the first finds no lock to release and reports success. -/
def lateReport : List (Worker × Act) :=
  startAndFinish++[(.loop "b",⟨70,.begin (.createSystemTask "log_cleanup" "next" "" "")⟩),(.loop "b",⟨70,.run⟩),
    (.loop "b",⟨70,.begin (.claimSystemTask 2 "log_cleanup" 130)⟩)]++List.replicate 4 (.loop "b",⟨70,.run⟩)++
    [(.handler "a" 0,⟨71,.run⟩)]

theorem finished_once : ∃ s, exec step start startAndFinish=some s ∧ OneOwner s ∧
    (∃ t, exec step s [(.handler "a" 0,⟨61,.run⟩)]=some t ∧ t.shared.tasks.rows.map Task.status=[.succeeded]) := by
  have hend : ((exec step start startAndFinish).bind fun s => (exec step s [(.handler "a" 0,⟨61,.run⟩)]).map fun t =>
      t.shared.tasks.rows.map Task.status)=some [.succeeded] := by decide +kernel
  obtain ⟨s,hs,hrest⟩ := Option.bind_eq_some_iff.mp hend
  obtain ⟨t,ht,hstatus⟩ := Option.map_eq_some_iff.mp hrest
  exact ⟨s,hs,(one_owner_one_outcome hs ht).1,t,ht,hstatus⟩

theorem lock_lost_before_report : ∃ s, exec step start lateReport=some s ∧ s.log =
    [(.loop "a",.acquired "log_cleanup" "task"),(.loop "a",.started "task" true),(.handler "a" 0,.wrote "task"),
      (.handler "a" 0,.ended "task"),(.loop "b",.acquired "log_cleanup" "next"),(.handler "a" 0,.finished "task")] :=
  exists_of_any (by decide +kernel)
end AronaApi.SystemTask
