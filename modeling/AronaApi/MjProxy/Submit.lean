import AronaApi.Lib.Table
import Mathlib

/-! Submission of a Midjourney task (`relay/mjproxy_handler.go`): the row that is stored and what is charged
for it.

One polling pass over the unfinished Midjourney tasks (`controller/midjourney.go`). -/
namespace AronaApi.MjProxy

/-- A row of `midjourneys`. -/
structure Midjourney where
  id : ℕ
  code : ℤ
  userId : ℕ
  action : String
  mjId : String
  prompt : String
  promptEn : String
  state : String
  submitTime : ℤ
  startTime : ℤ
  finishTime : ℤ
  imageUrl : String
  videoUrl : String
  videoUrls : String
  status : String
  progress : String
  failReason : String
  channelId : ℕ
  quota : ℤ

inductive Account
  | user (id : ℕ)
  | subscription (id : ℕ)
  | token (id : ℕ)
  deriving DecidableEq

/-- A charge for a row or a refund of one. A charge is without a row if the row could not be stored. -/
structure Movement where
  row : Option ℕ
  account : Account
  refund : Bool
  amount : ℤ
  deriving DecidableEq

structure MjDB where
  rows : List Midjourney
  nextId : ℕ
  log : List Movement

def MjDB.empty : MjDB := ⟨[],1,[]⟩

inductive BillingSource
  | wallet
  | subscription (id : ℕ)

/-- The parts of the relay info that `PostConsumeQuota` reads, and which of its updates fail. -/
structure Payer where
  userId : ℕ
  tokenId : ℕ
  isPlayground : Bool
  source : BillingSource
  fundingFails : Bool
  tokenFails : Bool

/-- `PostConsumeQuota`: what is taken, the funding source before the token. -/
def postConsumeQuota (payer : Payer) (quota : ℤ) : List (Account × ℤ) :=
  let funded : Option Account := match payer.source with
    | .wallet => some (.user payer.userId)
    | .subscription id => if id=0 then none else some (.subscription id)
  match funded with
  | none => []
  | some account =>
    if payer.fundingFails then []
    else if payer.isPlayground ∨ payer.tokenFails then [(account,quota)]
    else [(account,quota),(.token payer.tokenId,quota)]

inductive RelayMode
  | action
  | imagine
  | describe
  | edits
  | shorten
  | blend
  | upload
  | video
  | change
  | simpleChange
  | modal
  deriving DecidableEq

structure MidjourneyRequest where
  prompt : String
  taskId : String
  action : String
  content : String
  index : ℤ

/-- The upstream's answer; `properties` are the image and the status, if both are there. -/
structure MidjourneyResponse where
  statusCode : ℤ
  code : ℤ
  description : String
  result : String
  properties : Option (String × String)

/-- What a submission meets. `plusRequest` is the result of `CoverPlusActionToNormalAction`, `simpleChange` the
task and action of `ConvertSimpleChangeParams`, `channelEnabled` the status of the channels that exist. -/
structure SubmitEnv where
  relayMode : RelayMode
  request : MidjourneyRequest
  plusRequest : Except String MidjourneyRequest
  simpleChange : Option (String × String)
  mjActionCheckSuccessEnabled : Bool
  channelEnabled : ℕ → Option Bool
  channelId : ℕ
  payer : Payer
  price : Except String ℤ
  userQuota : Except String ℤ
  response : Except String MidjourneyResponse
  insertFails : Bool
  now : ℤ

variable (e : SubmitEnv) (db : MjDB)
def originOf (mode : RelayMode) (r : MidjourneyRequest) : Except String (String × MidjourneyRequest) :=
  match mode with
  | .change =>
    if r.action = "" then .error "action_is_required"
    else if r.index=0 then .error "index_is_required"
    else .ok (r.taskId,r)
  | .simpleChange =>
    if r.content = "" then .error "content_is_required"
    else match e.simpleChange with
      | none => .error "content_parse_failed"
      | some (taskId,action) => .ok (taskId,{ r with action := action })
  | .modal => .ok (r.taskId,{ r with action := "MODAL" })
  | .video => .ok (r.taskId,{ r with action := "VIDEO" })
  | _ => .ok ("",r)

def followOrigin (mode : RelayMode) (r : MidjourneyRequest) : Except String (MidjourneyRequest × ℕ) :=
  match originOf e mode r with
  | .error err => .error err
  | .ok (mjId,r) =>
    match db.rows.find? fun row => decide (row.userId=e.payer.userId ∧ row.mjId=mjId) with
    | none => .error "task_not_found"
    | some origin =>
      if e.mjActionCheckSuccessEnabled=true ∧ origin.status ≠ "SUCCESS" ∧ mode≠.modal then
        .error "task_status_not_success"
      else match e.channelEnabled origin.channelId with
        | none => .error "get_channel_info_failed"
        | some false => .error "该任务所属渠道已被禁用"
        | some true => .ok ({ r with prompt := origin.prompt },origin.channelId)

def resolveRequest : Except String (MidjourneyRequest × ℕ) :=
  let plus : Except String (RelayMode × MidjourneyRequest) := match e.relayMode with
    | .action => e.plusRequest.map fun r => (.change,r)
    | .video => .ok (.video,{ e.request with action := "VIDEO" })
    | mode => .ok (mode,e.request)
  match plus with
  | .error err => .error err
  | .ok (mode,r) =>
    match mode with
    | .imagine => if r.prompt = "" then .error "prompt_is_required" else .ok ({ r with action := "IMAGINE" },e.channelId)
    | .describe => .ok ({ r with action := "DESCRIBE" },e.channelId)
    | .edits => .ok ({ r with action := "EDITS" },e.channelId)
    | .shorten => .ok ({ r with action := "SHORTEN" },e.channelId)
    | .blend => .ok ({ r with action := "BLEND" },e.channelId)
    | .upload => .ok ({ r with action := "UPLOAD" },e.channelId)
    | mode => if r.taskId ≠ "" then followOrigin e db mode r else .ok (r,e.channelId)

def isFreeAction (action : String) : Bool := decide (action = "INPAINT" ∨ action = "CUSTOM_ZOOM")

/-- `consumeQuota` at the end of the submission, together with the status code. -/
def consumes (action : String) (resp : MidjourneyResponse) : Bool :=
  !isFreeAction action && decide (resp.code=1 ∨ resp.code=21 ∨ resp.code=22) && decide (resp.statusCode=200)

def newRow (r : MidjourneyRequest) (channelId : ℕ) (quota : ℤ) (resp : MidjourneyResponse) : Midjourney :=
  { id := db.nextId
    code := resp.code
    userId := e.payer.userId
    action := r.action
    mjId := resp.result
    prompt := r.prompt
    promptEn := ""
    state := ""
    submitTime := e.now
    startTime := 0
    finishTime := 0
    imageUrl := ""
    videoUrl := ""
    videoUrls := ""
    status := ""
    progress := "0%"
    failReason := if resp.code=1 ∨ resp.code=21 ∨ resp.code=22 then "" else resp.description
    channelId := channelId
    quota := quota }

def adoptExisting (existing : Option (String × String)) (row : Midjourney) : Midjourney :=
  match existing with
  | none => row
  | some (imageUrl,status) =>
    if status = "SUCCESS" then
      { row with
        imageUrl := imageUrl
        status := status
        progress := "100%"
        startTime := e.now
        finishTime := e.now }
    else { row with imageUrl := imageUrl, status := status }

def submittedRow (r : MidjourneyRequest) (channelId : ℕ) (quota : ℤ) (resp : MidjourneyResponse) : Midjourney :=
  let existing := if resp.code=21 then resp.properties else none
  let row := adoptExisting e existing (newRow e db r channelId quota resp)
  let code := if existing.map (·.2)=some "SUCCESS" then 1 else resp.code
  if code=1 ∧ r.action = "UPLOAD" then { row with progress := "100%", status := "SUCCESS" } else row

def chargeFor (action : String) (quota : ℤ) (resp : MidjourneyResponse) (row : Option ℕ) : List Movement :=
  if consumes action resp then (postConsumeQuota e.payer quota).map fun taken => ⟨row,taken.1,false,taken.2⟩ else []

/-- `RelayMidjourneySubmit` with the description of its error. -/
def relayMidjourneySubmit : MjDB × Option String :=
  match resolveRequest e db with
  | .error err => (db,some err)
  | .ok (r,channelId) =>
    match e.price with
    | .error err => (db,some err)
    | .ok quota =>
      match e.userQuota with
      | .error err => (db,some err)
      | .ok userQuota =>
        if isFreeAction r.action=false ∧ userQuota-quota<0 then (db,some "quota_not_enough")
        else match e.response with
          | .error err => (db,some err)
          | .ok resp =>
            if e.insertFails then
              ({ db with log := db.log++chargeFor e r.action quota resp none },some "insert_midjourney_task_failed")
            else
              ({ rows := db.rows++[submittedRow e db r channelId quota resp]
                 nextId := db.nextId+1
                 log := db.log++chargeFor e r.action quota resp (some db.nextId) },none)

/-- A task as the upstream lists it; `videoUrls` is absent if the list is empty. -/
structure MidjourneyDto where
  mjId : String
  promptEn : String
  state : String
  submitTime : ℤ
  startTime : ℤ
  finishTime : ℤ
  imageUrl : String
  videoUrl : String
  videoUrls : Option String
  status : String
  progress : String
  failReason : String

structure Item where
  dto : MidjourneyDto
  updateFails : Bool
  refundFails : Bool

inductive Reply
  | missing (updateFails : Bool)
  | silent
  | items (items : List Item)

/-- A pass: the order in which it visits the channels, until it is cancelled, and what they give. -/
structure Pass where
  now : ℤ
  nullUpdateFails : Bool
  order : List ℕ
  reply : ℕ → Reply

def checkMjTaskNeedUpdate (old : Midjourney) (new : MidjourneyDto) : Bool :=
  decide (old.code≠1) || decide (old.progress≠new.progress) || decide (old.promptEn≠new.promptEn) ||
    decide (old.state≠new.state) || decide (old.submitTime≠new.submitTime) ||
    decide (old.startTime≠new.startTime) || decide (old.finishTime≠new.finishTime) ||
    decide (old.imageUrl≠new.imageUrl) || decide (old.status≠new.status) ||
    decide (old.failReason≠new.failReason) || decide (old.progress ≠ "100%" ∧ new.failReason ≠ "") ||
    decide (old.videoUrl≠new.videoUrl) || decide (old.videoUrls≠new.videoUrls.getD "")

def withTimeout (now : ℤ) (task : Midjourney) (dto : MidjourneyDto) : MidjourneyDto :=
  if 3600000<now-task.submitTime ∧ task.progress ≠ "100%" then
    { dto with failReason := "上游任务超时（超过1小时）", status := "FAILURE" }
  else dto

def applyDto (task : Midjourney) (dto : MidjourneyDto) : Midjourney :=
  { task with
    code := 1
    progress := dto.progress
    promptEn := dto.promptEn
    state := dto.state
    submitTime := dto.submitTime
    startTime := dto.startTime
    finishTime := dto.finishTime
    imageUrl := dto.imageUrl
    status := dto.status
    failReason := dto.failReason
    videoUrl := dto.videoUrl
    videoUrls := dto.videoUrls.getD "" }

def hasFailed (dto : MidjourneyDto) : Bool :=
  decide ((dto.progress ≠ "100%" ∧ dto.failReason ≠ "") ∨ (dto.progress = "100%" ∧ dto.status = "FAILURE"))

/-- `UpdateWithStatus`: `none` if the row has left the status. -/
def updateWithStatus (fromStatus : String) (task : Midjourney) (rows : List Midjourney) : Option (List Midjourney) :=
  match Table.lookup Midjourney.id task.id rows with
  | none => none
  | some row => if row.status=fromStatus then some (Table.replace Midjourney.id task rows) else none

structure PassState where
  db : MjDB
  taskM : String → Option Midjourney

def refundFor (task : Midjourney) (item : Item) : List Movement :=
  if task.quota≠0 ∧ item.refundFails=false ∧ 0≤task.quota then
    [⟨some task.id,.user task.userId,true,task.quota⟩]
  else []

def handleItem (now : ℤ) (st : PassState) (item : Item) : PassState :=
  match st.taskM item.dto.mjId with
  | none => st
  | some task =>
    let dto := withTimeout now task item.dto
    if checkMjTaskNeedUpdate task dto=false then st
    else
      let failed := hasFailed dto
      let new := applyDto task dto
      let new := if failed then { new with progress := "100%" } else new
      let taskM := Function.update st.taskM item.dto.mjId (some new)
      if item.updateFails then { st with taskM := taskM }
      else match updateWithStatus task.status new st.db.rows with
        | none => { st with taskM := taskM }
        | some rows =>
          { db := { st.db with rows := rows, log := st.db.log++if failed then refundFor new item else [] }
            taskM := taskM }

def failRows (p : Midjourney → Bool) (reason : Option String) (db : MjDB) : MjDB :=
  { db with rows := db.rows.map fun row => if p row then
      { row with status := "FAILURE", progress := "100%", failReason := reason.getD row.failReason } else row }

def visitChannel (now : ℤ) (channelId : ℕ) (taskIds : List String) (reply : Reply) (st : PassState) : PassState :=
  match reply with
  | .missing updateFails =>
    if updateFails then st
    else
      let reason := "获取渠道信息失败，请联系管理员，渠道ID：" ++ toString channelId
      { st with db := failRows (fun row => decide (row.mjId∈taskIds)) (some reason) st.db }
  | .silent => st
  | .items items => items.foldl (handleItem now) st

/-- `GetAllUnFinishTasks`. -/
def MjDB.unfinished (db : MjDB) : List Midjourney := db.rows.filter fun row => decide (row.progress ≠ "100%")

def MjDB.live (db : MjDB) : List Midjourney := db.unfinished.filter fun row => decide (row.mjId ≠ "")

def MjDB.taskM (db : MjDB) (mjId : String) : Option Midjourney :=
  (db.live.filter fun row => decide (row.mjId=mjId)).getLast?

def MjDB.taskIds (db : MjDB) (channelId : ℕ) : List String :=
  (db.live.filter fun row => decide (row.channelId=channelId)).map (·.mjId)

def Pass.visits (p : Pass) (db : MjDB) : List ℕ := p.order.dedup.filter fun c => decide (db.taskIds c≠[])

def runMidjourneyTaskUpdateOnce (p : Pass) (db : MjDB) : MjDB :=
  let nullTaskIds := (db.unfinished.filter fun row => decide (row.mjId = "")).map (·.id)
  let nulled := if p.nullUpdateFails then db else failRows (fun row => decide (row.id∈nullTaskIds)) none db
  ((p.visits db).foldl (fun st c => visitChannel p.now c (db.taskIds c) (p.reply c) st) ⟨nulled,db.taskM⟩).db

inductive Action
  | submit (e : SubmitEnv)
  | poll (p : Pass)

def step (db : MjDB) : Action → Option MjDB
  | .submit e => some (relayMidjourneySubmit e db).1
  | .poll p => some (runMidjourneyTaskUpdateOnce p db)
end AronaApi.MjProxy
