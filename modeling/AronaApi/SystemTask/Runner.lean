import AronaApi.Lib.Interleave
import AronaApi.Lib.KeyedTable

/-! System tasks (`model/system_task.go`) and the runners that execute them. A task type is locked by a
lease in a table of its own, and no statement touches both tables. A runner is one loop that creates
tasks, expires leases and claims tasks, and any number of handlers for the tasks it has claimed. Each
step is one statement at one moment; it may fail, and then changes nothing. -/
namespace AronaApi.SystemTask
open List

inductive Status
  | pending
  | running
  | succeeded
  | failed
  deriving DecidableEq

structure Task where
  id : ℕ
  taskID : String
  type : String
  status : Status
  activeKey : Option String
  payload : String
  state : String
  result : String
  error : String
  lockedBy : String
  createdAt : ℤ
  updatedAt : ℤ
  deriving DecidableEq

def Task.Apart (a b : Task) : Prop :=
  a.id≠b.id ∧ a.taskID≠b.taskID ∧ (a.activeKey=none ∨ a.activeKey≠b.activeKey)

instance (a b : Task) : Decidable (a.Apart b) := inferInstanceAs (Decidable (_ ∧ _ ∧ _))

/-- `system_tasks`. -/
structure TaskTable where
  rows : List Task
  distinct : rows.Pairwise Task.Apart

/-- The columns an `UPDATE` sets; none of them is one that identifies the row. -/
structure Change where
  apply : Task → Task
  id_eq : ∀ t, (apply t).id=t.id
  taskID_eq : ∀ t, (apply t).taskID=t.taskID
  type_eq : ∀ t, (apply t).type=t.type
  activeKey_eq : ∀ t, (apply t).activeKey=t.activeKey ∨ (apply t).activeKey=none

namespace TaskTable

def insert (table : TaskTable) (t : Task) : Option TaskTable :=
  if h : ∀ r∈table.rows, r.Apart t then
    some ⟨table.rows++[t],pairwise_append.mpr
      ⟨table.distinct,pairwise_singleton _ _,fun r hr _ hx => mem_singleton.mp hx ▸ h r hr⟩⟩
  else none

/-- `UPDATE … WHERE p`. -/
def update (table : TaskTable) (p : Task → Bool) (c : Change) : TaskTable where
  rows := table.rows.map fun t => if p t then c.apply t else t
  distinct := by
    rw [pairwise_map]
    refine table.distinct.imp fun {a b} hab => ?_
    have hkey (t : Task) : (if p t then c.apply t else t).activeKey=t.activeKey ∨
        (if p t then c.apply t else t).activeKey=none := by
      split
      · exact c.activeKey_eq t
      · exact .inl rfl
    have hid (t : Task) : (if p t then c.apply t else t).id=t.id := by
      split
      · exact c.id_eq t
      · rfl
    have htaskID (t : Task) : (if p t then c.apply t else t).taskID=t.taskID := by
      split
      · exact c.taskID_eq t
      · rfl
    refine ⟨by rw [hid,hid]; exact hab.1,by rw [htaskID,htaskID]; exact hab.2.1,?_⟩
    rcases hkey a with ha | ha
    · rcases hkey b with hb | hb
      · rw [ha,hb]
        exact hab.2.2
      · rw [ha,hb]
        exact Decidable.or_iff_not_imp_left.mpr id
    · exact .inl ha
end TaskTable

/-- `system_task_locks`, one row for each type. -/
structure Lock where
  type : String
  taskID : String
  lockedBy : String
  lockedUntil : ℤ
  updatedAt : ℤ
  deriving DecidableEq

/-- The tables, the time, the next id, and the tasks whose handlers the runners have started. -/
structure Shared where
  clock : ℤ
  tasks : TaskTable
  locks : KeyedTable Lock Lock.type
  nextId : ℕ
  dispatched : List (String × String)

inductive Worker
  | loop (runnerID : String)
  | handler (runnerID : String) (n : ℕ)
  deriving DecidableEq

def Worker.runnerID : Worker → String
  | .loop runnerID | .handler runnerID _ => runnerID

inductive Outcome
  | succeeded
  | failed

def Outcome.status : Outcome → Status
  | .succeeded => .succeeded
  | .failed => .failed

inductive Request
  | createSystemTask (type taskID payload state : String)
  | claimSystemTask (id : ℕ) (type : String) (lockUntil : ℤ)
  | updateSystemTaskState (taskID state : String)
  | renewSystemTaskLock (taskID : String) (lockUntil : ℤ)
  | finishSystemTask (taskID : String) (outcome : Outcome) (result errorMessage : String)
  | expireStaleSystemTaskLocks

/-- The arguments of `ClaimSystemTask`, and the time it has read. -/
structure Claim where
  id : ℕ
  type : String
  lockUntil : ℤ
  now : ℤ

inductive Phase
  | idle
  | creating (type taskID payload state : String)
  | selecting (c : Claim)
  | locking (c : Claim) (taskID : String)
  | looking (c : Claim) (taskID : String)
  | stealing (c : Claim) (taskID expiredTaskID : String)
  | marking (c : Claim) (taskID expiredTaskID : String)
  | starting (c : Claim) (taskID : String)
  | releasing (taskID : String)
  | reloading (c : Claim) (taskID : String)
  | updating (taskID : String) (now : ℤ) (state : String)
  | renewing (taskID : String) (now lockUntil : ℤ)
  | finishing (taskID : String) (now : ℤ) (outcome : Outcome) (result errorMessage : String)
  | finished (taskID : String)
  | scanning (now : ℤ)
  | expiring (now : ℤ) (locks : List Lock)
  | deleting (now : ℤ) (lock : Lock) (locks : List Lock)

inductive Event
  /-- the lock of the type was inserted or taken over, for the task -/
  | acquired (type taskID : String)
  /-- the task went from pending to running; was the lock of its type the runner's? -/
  | started (taskID : String) (held : Bool)
  /-- the update of a state or an outcome took effect -/
  | wrote (taskID : String)
  /-- the task is over -/
  | ended (taskID : String)
  /-- `FinishSystemTask` reported success -/
  | finished (taskID : String)
  deriving DecidableEq

def Change.start (runnerID : String) (now : ℤ) : Change where
  apply t := { t with status := .running,lockedBy := runnerID,updatedAt := now }
  id_eq _ := rfl
  taskID_eq _ := rfl
  type_eq _ := rfl
  activeKey_eq _ := .inl rfl

def Change.setState (state : String) (now : ℤ) : Change where
  apply t := { t with state := state,updatedAt := now }
  id_eq _ := rfl
  taskID_eq _ := rfl
  type_eq _ := rfl
  activeKey_eq _ := .inl rfl

def Change.expire (now : ℤ) : Change where
  apply t := { t with status := .failed,activeKey := none,error := "task lease expired",updatedAt := now }
  id_eq _ := rfl
  taskID_eq _ := rfl
  type_eq _ := rfl
  activeKey_eq _ := .inr rfl

def Change.finish (outcome : Outcome) (result errorMessage : String) (now : ℤ) : Change where
  apply t := { t with status := outcome.status,activeKey := none,result := result,error := errorMessage,updatedAt := now }
  id_eq _ := rfl
  taskID_eq _ := rfl
  type_eq _ := rfl
  activeKey_eq _ := .inr rfl

section
variable (s : Shared)
/-- `status = 'running' AND locked_by = ? AND EXISTS (…)` of a task. -/
def owns (runnerID taskID : String) (now : ℤ) (t : Task) : Bool :=
  t.taskID=taskID ∧ t.status=.running ∧ t.lockedBy=runnerID ∧
    ∃ l∈s.locks.rows, l.taskID=t.taskID ∧ l.lockedBy=runnerID ∧ now≤l.lockedUntil

def isRunning (taskID : String) (t : Task) : Bool := t.taskID=taskID ∧ t.status=.running

def markSystemTaskLeaseExpired (taskID : String) : Shared × List Event :=
  ({ s with tasks := s.tasks.update (isRunning taskID) (.expire s.clock) },
    if s.tasks.rows.any (isRunning taskID) then [.ended taskID] else [])

def releaseSystemTaskLock (taskID lockedBy : String) : Shared :=
  { s with locks := s.locks.delete fun l => l.taskID=taskID ∧ l.lockedBy=lockedBy }

def Claim.selects (c : Claim) (t : Task) : Bool := t.id=c.id ∧ t.type=c.type ∧ t.status=.pending

def Claim.steals (c : Claim) (l : Lock) : Bool := l.type=c.type ∧ l.lockedUntil<c.now
end

/-- The first step of a call; a handler only works on tasks that its runner has claimed. -/
def begin (w : Worker) (s : Shared) : Request → Option Phase
  | .createSystemTask type taskID payload state => some (.creating type taskID payload state)
  | .claimSystemTask id type lockUntil =>
    match w with
    | .loop _ => some (.selecting ⟨id,type,lockUntil,s.clock⟩)
    | .handler _ _ => none
  | .updateSystemTaskState taskID state =>
    if (w.runnerID,taskID)∈s.dispatched then some (.updating taskID s.clock state) else none
  | .renewSystemTaskLock taskID lockUntil =>
    if (w.runnerID,taskID)∈s.dispatched then some (.renewing taskID s.clock lockUntil) else none
  | .finishSystemTask taskID outcome result errorMessage =>
    if (w.runnerID,taskID)∈s.dispatched then some (.finishing taskID s.clock outcome result errorMessage) else none
  | .expireStaleSystemTaskLocks => some (.scanning s.clock)

def run (w : Worker) (s : Shared) : Phase → Option (Shared × Phase × List Event)
  | .idle => none
  | .creating type taskID payload state =>
    match s.tasks.insert ⟨s.nextId,taskID,type,.pending,some type,payload,state,"","","",s.clock,s.clock⟩ with
    | none => some (s,.idle,[])
    | some tasks => some ({ s with tasks := tasks,nextId := s.nextId+1 },.idle,[])
  | .selecting c =>
    match s.tasks.rows.find? c.selects with
    | none => some (s,.idle,[])
    | some t => some (s,.locking c t.taskID,[])
  | .locking c taskID =>
    match s.locks.insert ⟨c.type,taskID,w.runnerID,c.lockUntil,c.now⟩ with
    | some locks => some ({ s with locks := locks },.starting c taskID,[.acquired c.type taskID])
    | none => some (s,.looking c taskID,[])
  | .looking c taskID =>
    match s.locks.rows.find? fun l => l.type=c.type with
    | none => some (s,.idle,[])
    | some l => some (s,if c.now≤l.lockedUntil then .idle else .stealing c taskID l.taskID,[])
  | .stealing c taskID expiredTaskID =>
    if s.locks.rows.any c.steals then
      some ({ s with
        locks := s.locks.update (fun l => if c.steals l then ⟨l.type,taskID,w.runnerID,c.lockUntil,c.now⟩ else l)
          fun l => by split <;> rfl },
        if expiredTaskID ≠ "" ∧ expiredTaskID≠taskID then .marking c taskID expiredTaskID else .starting c taskID,
        [.acquired c.type taskID])
    else some (s,.idle,[])
  | .marking c taskID expiredTaskID =>
    some ((markSystemTaskLeaseExpired s expiredTaskID).1,.starting c taskID,(markSystemTaskLeaseExpired s expiredTaskID).2)
  | .starting c taskID =>
    if s.tasks.rows.any c.selects then
      some ({ s with tasks := s.tasks.update c.selects (.start w.runnerID c.now) },.reloading c taskID,
        [.started taskID (s.locks.rows.any fun l => l.type=c.type ∧ l.taskID=taskID ∧ l.lockedBy=w.runnerID)])
    else some (s,.releasing taskID,[])
  | .releasing taskID => some (releaseSystemTaskLock s taskID w.runnerID,.idle,[])
  | .reloading c taskID =>
    if s.tasks.rows.any fun t => t.id=c.id then
      some ({ s with dispatched := (w.runnerID,taskID)::s.dispatched },.idle,[])
    else some (s,.idle,[])
  | .updating taskID now state =>
    if s.tasks.rows.any (owns s w.runnerID taskID now) then
      some ({ s with tasks := s.tasks.update (owns s w.runnerID taskID now) (.setState state now) },.idle,[.wrote taskID])
    else some (s,.idle,[])
  | .renewing taskID now lockUntil =>
    some ({ s with
      locks := s.locks.update (fun l =>
        if l.taskID=taskID ∧ l.lockedBy=w.runnerID ∧ now≤l.lockedUntil then
          { l with lockedUntil := lockUntil,updatedAt := now }
        else l) fun l => by split <;> rfl },.idle,[])
  | .finishing taskID now outcome result errorMessage =>
    if s.tasks.rows.any (owns s w.runnerID taskID now) then
      some ({ s with tasks := s.tasks.update (owns s w.runnerID taskID now) (.finish outcome result errorMessage now) },
        .finished taskID,[.wrote taskID,.ended taskID])
    else some (s,.idle,[])
  | .finished taskID => some (releaseSystemTaskLock s taskID w.runnerID,.idle,[.finished taskID])
  | .scanning now => some (s,.expiring now (s.locks.rows.filter fun l => l.lockedUntil<now),[])
  | .expiring _ [] => some (s,.idle,[])
  | .expiring now (lock::locks) =>
    some ((markSystemTaskLeaseExpired s lock.taskID).1,.deleting now lock locks,(markSystemTaskLeaseExpired s lock.taskID).2)
  | .deleting now lock locks =>
    some ({ s with
      locks := s.locks.delete fun l =>
        l.type=lock.type ∧ l.taskID=lock.taskID ∧ l.lockedBy=lock.lockedBy ∧ l.lockedUntil<now },.expiring now locks,[])

def fail : Phase → Option Phase
  | .idle => none
  | .locking c taskID => some (.looking c taskID)
  | .marking _ taskID _ | .starting _ taskID => some (.releasing taskID)
  | _ => some .idle

inductive Move
  | begin (r : Request)
  | run
  | fail

structure Act where
  now : ℤ
  move : Move

def next (w : Worker) (s : Shared) (p : Phase) (a : Act) : Option (Shared × Phase × List Event) :=
  if a.now<s.clock then none
  else match a.move,p with
    | .begin r,.idle => (begin w { s with clock := a.now } r).map fun p => ({ s with clock := a.now },p,[])
    | .begin _,_ => none
    | .run,p => run w { s with clock := a.now } p
    | .fail,p => (fail p).map fun p => ({ s with clock := a.now },p,[])

abbrev Sys := Interleave Worker Shared Phase Event

def step : Sys → Worker × Act → Option Sys := Interleave.step next

def start : Sys := Interleave.start ⟨0,⟨[],.nil⟩,.empty,1,[]⟩ .idle
end AronaApi.SystemTask
