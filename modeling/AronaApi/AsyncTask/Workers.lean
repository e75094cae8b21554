import AronaApi.AsyncTask.Row
import AronaApi.Lib.Interleave

/-! The writers of one task row: the timeout sweep, the video poller, the Suno poller, the two
unguarded bulk updates (`service/task_polling.go`) and a user's realtime fetch
(`relay/relay_task.go`). Every query and every `UPDATE` is an atomic step of its own; between two
steps of a worker any other worker may run, on any node. -/
namespace AronaApi.AsyncTask

structure Config where
  taskTimeoutMinutes : ℤ
  serverAddress : String

def buildProxyURL (cfg : Config) (taskID : String) : String :=
  cfg.serverAddress ++ "/v1/videos/" ++ taskID ++ "/content"

/-- The row `sweepTimedOutTasks` writes for a timed-out task. -/
def timeOut (cfg : Config) (task : Task) (now : ℤ) : Task :=
  let minutes := cfg.taskTimeoutMinutes
  { task with
    status := .failure
    progress := "100%"
    finishTime := now
    failReason := if task.IsLegacy then "任务超时（旧系统遗留任务，不进行退款，请联系管理员）"
      else s!"任务超时（{minutes}分钟）" }

/-- `relaycommon.TaskInfo`, as parsed from the upstream's answer. -/
structure TaskInfo where
  status : TaskStatus
  reason : String
  url : String
  progress : String

def failTaskInfo (reason : String) : TaskInfo := ⟨.failure,reason,"",""⟩

inductive ErrorBody
  | notJson | rateLimited | openAIError | unrecognized

/-- `unavailable` covers every failure of `FetchTask`, `ReadAll` and `ParseTaskResult`; `data` is
the redacted body. -/
inductive VideoAnswer
  | unavailable
  | body (result : TaskInfo) (error : ErrorBody) (data : List Char)

/-- An empty status is read as an error message; a 429 leaves the task for the next pass. -/
def resolveStatus (r : TaskInfo) (e : ErrorBody) : Option TaskInfo :=
  if r.status=.blank then
    match e with
    | .notJson => some r
    | .rateLimited => none
    | .openAIError => some (failTaskInfo "upstream returned error")
    | .unrecognized => some (failTaskInfo "upstream returned unrecognized message")
  else some r

def resultURL (cfg : Config) (task : Task) (url : String) : String :=
  if url.startsWith "data:" then buildProxyURL cfg task.taskID
  else if url ≠ "" then url
  else buildProxyURL cfg task.taskID

/-- The status switch of `updateVideoSingleTask`: the task to store, `shouldRefund` and
`shouldSettle`; `none` is the unknown-status error. -/
def applyTaskResult (cfg : Config) (task : Task) (r : TaskInfo) (now : ℤ) :
    Option (Task × Bool × Bool) :=
  let task : Task := { task with status := r.status }
  let withProgress (t : Task) : Task := if r.progress ≠ "" then { t with progress := r.progress } else t
  match r.status with
  | .submitted => some (withProgress { task with progress := "10%" },false,false)
  | .queued => some (withProgress { task with progress := "20%" },false,false)
  | .inProgress => some (withProgress { task with
      progress := "30%"
      startTime := if task.startTime=0 then now else task.startTime },false,false)
  | .success => some (withProgress { task with
      progress := "100%"
      finishTime := if task.finishTime=0 then now else task.finishTime
      privateData := { task.privateData with resultURL := resultURL cfg task r.url } },false,true)
  | .failure => some ({ task with
      progress := "100%"
      finishTime := if task.finishTime=0 then now else task.finishTime
      failReason := r.reason },decide (task.quota≠0),false)
  | _ => none

/-- The write of `updateVideoSingleTask`: the row after it with whether the `UPDATE` matched it, and
the billing flags that survive. -/
def storeVideoTask (row snap task : Task) (shouldRefund shouldSettle error : Bool) :
    (Task × Bool) × Bool × Bool :=
  if task.status.Terminal ∧ snap.status≠task.status then
    if error then ((row,false),false,false)
    else
      let res := row.updateWithStatus task snap.status
      (res,res.2 && shouldRefund,res.2 && shouldSettle)
  else if snap.snapshot≠task.snapshot then
    if error then ((row,false),shouldRefund,shouldSettle)
    else (row.updateWithStatus task snap.status,shouldRefund,shouldSettle)
  else ((row,false),shouldRefund,shouldSettle)

structure SunoDataResponse where
  status : TaskStatus
  failReason : String
  submitTime : ℤ
  startTime : ℤ
  finishTime : ℤ
  data : List Char

def taskNeedsUpdate (old : Task) (new : SunoDataResponse) : Bool :=
  decide (old.submitTime≠new.submitTime) || decide (old.startTime≠new.startTime) ||
  decide (old.finishTime≠new.finishTime) || decide (old.status≠new.status) ||
  decide (old.failReason≠new.failReason) ||
  (decide old.status.Terminal && decide (old.progress ≠ "100%")) ||
  decide (old.data.mergeSort (· ≤ ·)≠new.data.mergeSort (· ≤ ·))

/-- The task after its Suno answer was copied into it, and whether it is refunded. -/
def applySunoResponse (task : Task) (r : SunoDataResponse) : Task × Bool :=
  let status := if r.status≠.blank then r.status else task.status
  let failed := decide (r.failReason ≠ "") || decide (status=.failure)
  ({ task with
     status := status
     failReason := if r.failReason ≠ "" then r.failReason else task.failReason
     submitTime := if r.submitTime≠0 then r.submitTime else task.submitTime
     startTime := if r.startTime≠0 then r.startTime else task.startTime
     finishTime := if r.finishTime≠0 then r.finishTime else task.finishTime
     progress := if failed || decide (r.status=.success) then "100%" else task.progress
     data := r.data },failed)

/-- What `tryRealtimeFetch` copies from the upstream's answer. -/
def applyFetched (cfg : Config) (task : Task) (r : TaskInfo) : Task :=
  let status := if r.status≠.blank then r.status else task.status
  { task with
    status := status
    progress := if r.progress ≠ "" then r.progress else task.progress
    privateData := { task.privateData with
      resultURL := if r.url.startsWith "data:" then task.privateData.resultURL
        else if r.url ≠ "" then r.url
        else if status=.success then buildProxyURL cfg task.taskID
        else task.privateData.resultURL } }

inductive Phase
  | idle
  | sweeping (task : Task)
  | polled (task : Task)
  | videoStore (snap task : Task) (shouldRefund shouldSettle : Bool)
  | sunoItems (task : Task) (rest : List SunoDataResponse)
  | sunoRefund (task : Task) (rest : List SunoDataResponse)
  | sunoSave (task : Task) (rest : List SunoDataResponse) (refunded : Bool)
  | fetching (task : Task)
  | fetchStore (snap task : Task)
  | settling (task : Task) (thenRefund : Bool)
  | refunding (task : Task)
  | done

/-- One atomic step. `error` is a failed statement; `fundingOk` is the outcome of the write to the
funding source inside the billing call. -/
inductive Act
  | loadTimedOut (now : ℤ)
  | loadUnfinished
  | loadForFetch
  | nullUpstream (error : Bool)
  | channelMissing (error : Bool)
  | answer (a : VideoAnswer) (now : ℤ)
  | sunoAnswer (items : List SunoDataResponse)
  | sunoNext
  | store (now : ℤ) (error : Bool)
  | bill (fundingOk : Bool)

/-- What the log records: an `UPDATE` that reached the row, with the status before and after it,
and the two billing calls; a refund says what went back to which account, if anything. -/
inductive Event
  | wrote (old new : TaskStatus)
  | refunded (returned : Option (Fund × ℤ))
  | settled
  deriving DecidableEq

/-- `RefundTaskQuota` returns at once on a zero quota and gives up when the funding write fails. -/
def refundTaskQuota (task : Task) (fundingOk : Bool) : Event :=
  .refunded (if task.quota≠0 ∧ fundingOk then some task.charge else none)

/-- The event of an `UPDATE`, if it matched the row. -/
def written (row : Task) (res : Task × Bool) : List Event := if res.2 then [.wrote row.status res.1.status] else []

def channelMissingReason (task : Task) : String :=
  let channelId := task.channelId
  if task.platform=.suno then s!"获取渠道信息失败，请联系管理员，渠道ID：{channelId}"
  else s!"Failed to get channel info, channel ID: {channelId}"

def billingPhase (task : Task) (shouldRefund shouldSettle : Bool) : Phase :=
  if shouldSettle then .settling task shouldRefund
  else if shouldRefund then .refunding task
  else .done

def next (cfg : Config) (row : Task) : Phase → Act → Option (Task × Phase × List Event)
  -- sweepTimedOutTasks
  | .idle,.loadTimedOut now =>
    if 0<cfg.taskTimeoutMinutes ∧ row.TimedOut (now-cfg.taskTimeoutMinutes*60) then some (row,.sweeping row,[])
    else none
  | .sweeping task,.store now error =>
    let task' := timeOut cfg task now
    if error then some (row,.done,[])
    else
      let res := row.updateWithStatus task' task.status
      some (res.1,if res.2 ∧ ¬task.IsLegacy ∧ task.quota≠0 then .refunding task' else .done,written row res)
  -- RunTaskPollingOnce
  | .idle,.loadUnfinished => if row.Unfinished then some (row,.polled row,[]) else none
  | .polled task,.nullUpstream error =>
    if task.getUpstreamTaskID = "" then
      if error then some (row,.done,[])
      else
        let row' := row.taskBulkUpdateByID none
        some (row',.done,written row (row',true))
    else none
  | .polled task,.channelMissing error =>
    if task.getUpstreamTaskID ≠ "" ∧ task.platform≠.midjourney then
      if error then some (row,.done,[])
      else
        let row' := row.taskBulkUpdateByID (some (channelMissingReason task))
        some (row',.done,written row (row',true))
    else none
  -- updateVideoSingleTask
  | .polled task,.answer a now =>
    if task.getUpstreamTaskID ≠ "" ∧ task.platform≠.suno ∧ task.platform≠.midjourney then
      match a with
      | .unavailable => some (row,.done,[])
      | .body r e data =>
        match (resolveStatus r e).bind fun r => applyTaskResult cfg { task with data := data } r now with
        | none => some (row,.done,[])
        | some (task',shouldRefund,shouldSettle) => some (row,.videoStore task task' shouldRefund shouldSettle,[])
    else none
  | .videoStore snap task shouldRefund shouldSettle,.store _ error =>
    let res := storeVideoTask row snap task shouldRefund shouldSettle error
    some (res.1.1,billingPhase task res.2.1 res.2.2,written row res.1)
  -- updateSunoTasks
  | .polled task,.sunoAnswer items =>
    if task.getUpstreamTaskID ≠ "" ∧ task.platform=.suno then some (row,.sunoItems task items,[])
    else none
  | .sunoItems task (r::rest),.sunoNext =>
    if taskNeedsUpdate task r then
      let res := applySunoResponse task r
      some (row,if res.2 then .sunoRefund res.1 rest else .sunoSave res.1 rest false,[])
    else some (row,.sunoItems task rest,[])
  | .sunoRefund task rest,.bill fundingOk => some (row,.sunoSave task rest true,[refundTaskQuota task fundingOk])
  | .sunoSave task rest _,.store _ error =>
    if error then some (row,.sunoItems task rest,[])
    else some (task,.sunoItems task rest,written row (task,true))
  -- tryRealtimeFetch
  | .idle,.loadForFetch => some (row,.fetching row,[])
  | .fetching task,.answer a _ =>
    match a with
    | .unavailable => some (row,.done,[])
    | .body r _ _ =>
      let task' := applyFetched cfg task r
      if task.snapshot≠task'.snapshot then some (row,.fetchStore task task',[])
      else some (row,.done,[])
  | .fetchStore snap task,.store _ error =>
    if error then some (row,.done,[])
    else
      let res := row.updateWithStatus task snap.status
      some (res.1,.done,written row res)
  -- the billing calls
  | .settling task thenRefund,.bill _ => some (row,if thenRefund then .refunding task else .done,[.settled])
  | .refunding task,.bill fundingOk => some (row,.done,[refundTaskQuota task fundingOk])
  | _,_ => none

abbrev Sys (W : Type*) := Interleave W Task Phase Event

def step {W : Type*} [DecidableEq W] (cfg : Config) : Sys W → W × Act → Option (Sys W) :=
  Interleave.step fun _ => next cfg

def init (W : Type*) (row : Task) : Sys W := Interleave.start row .idle
end AronaApi.AsyncTask
