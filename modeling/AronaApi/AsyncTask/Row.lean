import Mathlib.Data.Int.Notation
import Mathlib.Data.Nat.Notation

/-! Task rows (`model/task.go`) and the statements that write them. Columns that no modelled
worker decides on (creation time, action, properties, the request key, the token, the node name)
are left out. -/
namespace AronaApi.AsyncTask

/-- The status column is a string; the poller stores whatever the upstream sends. -/
inductive TaskStatus
  | notStart | submitted | queued | inProgress | failure | success | unknown
  | other (text : String)
  deriving DecidableEq

def TaskStatus.blank : TaskStatus := .other ""

def TaskStatus.Terminal (s : TaskStatus) : Prop := s=.failure ∨ s=.success

instance (s : TaskStatus) : Decidable s.Terminal := inferInstanceAs (Decidable (_ ∨ _))

inductive TaskPlatform
  | suno | midjourney | other (name : String)
  deriving DecidableEq

inductive BillingSource
  | wallet | subscription | unset
  deriving DecidableEq

structure TaskPrivateData where
  upstreamTaskID : String
  resultURL : String
  billingSource : BillingSource
  subscriptionId : ℕ

/-- `data` holds the JSON bytes as `Marshal` writes them. -/
structure Task where
  taskID : String
  platform : TaskPlatform
  userId : ℕ
  channelId : ℕ
  quota : ℤ
  status : TaskStatus
  failReason : String
  submitTime : ℤ
  startTime : ℤ
  finishTime : ℤ
  progress : String
  privateData : TaskPrivateData
  data : List Char

/-- `taskSnapshot`; two snapshots are `Equal` when all fields agree. -/
structure TaskSnapshot where
  status : TaskStatus
  progress : String
  startTime : ℤ
  finishTime : ℤ
  failReason : String
  resultURL : String
  data : List Char
  deriving DecidableEq

inductive Fund
  | wallet (userId : ℕ)
  | subscription (id : ℕ)
  deriving DecidableEq

namespace Task

def getUpstreamTaskID (t : Task) : String :=
  if t.privateData.upstreamTaskID ≠ "" then t.privateData.upstreamTaskID else t.taskID

def snapshot (t : Task) : TaskSnapshot :=
  ⟨t.status,t.progress,t.startTime,t.finishTime,t.failReason,t.privateData.resultURL,t.data⟩

/-- The account `taskAdjustFunding` writes to. -/
def fund (t : Task) : Fund :=
  if t.privateData.billingSource=.subscription ∧ 0<t.privateData.subscriptionId then
    .subscription t.privateData.subscriptionId
  else .wallet t.userId

def charge (t : Task) : Fund × ℤ := (t.fund,t.quota)

def legacyTaskCutoff : ℤ := 1740182400

def IsLegacy (t : Task) : Prop := 0<t.submitTime ∧ t.submitTime<legacyTaskCutoff

instance (t : Task) : Decidable t.IsLegacy := inferInstanceAs (Decidable (_ ∧ _))

/-- `WHERE progress != '100%' AND status NOT IN ('FAILURE','SUCCESS')`. -/
def Unfinished (t : Task) : Prop := t.progress ≠ "100%" ∧ ¬t.status.Terminal

instance (t : Task) : Decidable t.Unfinished := inferInstanceAs (Decidable (_ ∧ _))

/-- `GetTimedOutUnfinishedTasks` returns the row. -/
def TimedOut (t : Task) (cutoffUnix : ℤ) : Prop := t.Unfinished ∧ t.submitTime<cutoffUnix

instance (t : Task) (c : ℤ) : Decidable (t.TimedOut c) := inferInstanceAs (Decidable (_ ∧ _))

/-- `UPDATE tasks SET * WHERE id = ? AND status = fromStatus`: the row after it, and whether this
caller won. -/
def updateWithStatus (row task : Task) (fromStatus : TaskStatus) : Task × Bool :=
  if row.status=fromStatus then (task,true) else (row,false)

/-- `TaskBulkUpdateByID` has no guard on the status. -/
def taskBulkUpdateByID (row : Task) (failReason : Option String) : Task :=
  { row with
    status := .failure
    progress := "100%"
    failReason := failReason.getD row.failReason }

/-- `InitTask`. -/
def initTask (platform : TaskPlatform) (taskID : String) (userId channelId : ℕ) (now : ℤ) : Task where
  taskID := taskID
  platform := platform
  userId := userId
  channelId := channelId
  quota := 0
  status := .notStart
  failReason := ""
  submitTime := now
  startTime := 0
  finishTime := 0
  progress := "0%"
  privateData := ⟨"","",.unset,0⟩
  data := []

/-- The row `RelayTask` inserts after a successful submission. -/
def submit (t : Task) (upstreamTaskID : String) (billingSource : BillingSource) (subscriptionId : ℕ)
    (quota : ℤ) (data : List Char) : Task :=
  { t with
    privateData := { t.privateData with
      upstreamTaskID := upstreamTaskID
      billingSource := billingSource
      subscriptionId := subscriptionId }
    quota := quota
    data := data }

lemma updateWithStatus_cases (row task : Task) (fromStatus : TaskStatus) :
    (row.status=fromStatus ∧ row.updateWithStatus task fromStatus=(task,true)) ∨
      row.updateWithStatus task fromStatus=(row,false) := by
  unfold updateWithStatus
  by_cases h : row.status=fromStatus
  · exact .inl ⟨h,if_pos h⟩
  · exact .inr (if_neg h)
end Task
end AronaApi.AsyncTask
