import AronaApi.Lib.GoStd
import AronaApi.Lib.Table

/-! Subscription plans and the times computed from them (`model/subscription.go`). Columns that only
pricing and display use are left out.

Subscription rows, pre-consume records and the functions that change them, each as one serialised
transaction (`model/subscription.go`). A transaction that ends in an error leaves the store as it was. -/
namespace AronaApi.Subscription
open GoStd

inductive DurationUnit
  | year | month | day | hour | custom
  | other (text : String)
  deriving DecidableEq

/-- `totalAmount` is an `int64` column; 0 stands for no limit. -/
structure SubscriptionPlan where
  id : ℕ
  durationUnit : DurationUnit
  durationValue : ℤ
  customSeconds : ℤ := 0
  enabled : Bool := true
  allowWalletOverflow : Option Bool := none
  maxPurchasePerUser : ℤ := 0
  upgradeGroup : String := ""
  downgradeGroup : String := ""
  totalAmount : ℤ
  quotaResetPeriod : String := ""
  quotaResetCustomSeconds : ℤ := 0
  totalAmount_lt : totalAmount<2^63

lemma zero_lt_cap : (0:ℤ)<2^63 := by decide
lemma thousand_lt_cap : (1000:ℤ)<2^63 := by decide

inductive ResetPeriod
  | never | daily | weekly | monthly | custom
  deriving DecidableEq

def normalizeResetPeriod (period : String) : ResetPeriod :=
  match trimSpace period with
  | "daily" => .daily
  | "weekly" => .weekly
  | "monthly" => .monthly
  | "custom" => .custom
  | _ => .never

/-- The end of a subscription that starts at `start`; dates and durations are `int64`s. -/
def calcPlanEndTime (loc : Location) (start : ℤ) (plan : SubscriptionPlan) : Except String ℤ :=
  if plan.durationValue≤0 ∧ plan.durationUnit≠.custom then .error "duration_value must be > 0"
  else match plan.durationUnit with
    | .year => .ok (wrap64 (dateInstant loc (addMonths loc start plan.durationValue 0)))
    | .month => .ok (wrap64 (dateInstant loc (addMonths loc start 0 plan.durationValue)))
    | .day => .ok (addDuration start (wrap64 (plan.durationValue*24*hourNanos)))
    | .hour => .ok (addDuration start (wrap64 (plan.durationValue*hourNanos)))
    | .custom =>
      if plan.customSeconds≤0 then .error "custom_seconds must be > 0"
      else .ok (addDuration start (wrap64 (plan.customSeconds*secondNanos)))
    | .other text => .error ("invalid duration_unit: " ++ text)

/-- Local midnight of the day of `t`. -/
def startOfDay (loc : Location) (t : ℤ) : ℤ :=
  let (y,m,d) := localDate loc t
  date loc y m d 0

/-- The next reset after `base`, or 0 for none before the end. -/
def calcNextResetTime (loc : Location) (base : ℤ) (plan : SubscriptionPlan) (endUnix : ℤ) : ℤ :=
  let bounded (next : ℤ) : ℤ := if 0<endUnix ∧ endUnix<next then 0 else next
  match normalizeResetPeriod plan.quotaResetPeriod with
  | .never => 0
  | .daily => bounded (addDate loc (startOfDay loc base) 0 0 1)
  | .weekly =>
    let day := if weekday loc base=0 then 7 else weekday loc base
    bounded (addDate loc (startOfDay loc base) 0 0 (8-day))
  | .monthly =>
    let (y,m,_) := localDate loc base
    bounded (addDate loc (date loc y m 1 0) 0 1 0)
  | .custom =>
    if plan.quotaResetCustomSeconds≤0 then 0
    else bounded (addDuration base (wrap64 (plan.quotaResetCustomSeconds*secondNanos)))

inductive SubStatus
  | active | expired | cancelled
  deriving DecidableEq

structure UserSubscription where
  id : ℕ
  userId : ℕ
  planId : ℕ
  amountTotal : ℤ
  amountUsed : ℤ
  startTime : ℤ
  endTime : ℤ
  status : SubStatus
  source : String
  lastResetTime : ℤ := 0
  nextResetTime : ℤ := 0
  upgradeGroup : String := ""
  prevUserGroup : String := ""
  downgradeGroup : String := ""
  allowWalletOverflow : Bool := true

inductive RecordStatus
  | consumed | refunded
  deriving DecidableEq

/-- `SubscriptionPreConsumeRecord`; the request id is unique. -/
structure PreConsumeRecord where
  requestId : String
  userId : ℕ
  userSubscriptionId : ℕ
  preConsumed : ℤ
  status : RecordStatus
  deriving DecidableEq

/-- The three tables; `nextId` is the subscriptions' sequence. -/
structure SubDB where
  subs : List UserSubscription
  records : List PreConsumeRecord
  nextId : ℕ

abbrev Plans := ℕ → Option SubscriptionPlan

inductive SubError
  | invalidUserId | invalidUser | requestIdEmpty | amountNotPositive | alreadyRefunded | noActiveSubscription
  | invalidPlan | invalidPlanId | recordNotFound | invalidSubscriptionId | purchaseLimit
  | insufficient (need : ℤ)
  | exceedsTotal (used total : ℤ)
  | plan (message : String)

def SubError.message : SubError → String
  | .invalidUserId => "invalid userId"
  | .invalidUser => "invalid user id"
  | .requestIdEmpty => "requestId is empty"
  | .amountNotPositive => "amount must be > 0"
  | .alreadyRefunded => "subscription pre-consume already refunded"
  | .noActiveSubscription => "no active subscription"
  | .invalidPlan => "invalid plan"
  | .invalidPlanId => "invalid plan id"
  | .recordNotFound => "record not found"
  | .invalidSubscriptionId => "invalid userSubscriptionId"
  | .purchaseLimit => "已达到该套餐购买上限"
  | .insufficient need => s!"subscription quota insufficient, need={need}"
  | .exceedsTotal used total => s!"subscription used exceeds total, used={used} total={total}"
  | .plan message => message

namespace SubDB

def find (db : SubDB) (id : ℕ) : Option UserSubscription := Table.lookup (·.id) id db.subs

/-- `Save` of a loaded row. -/
def save (db : SubDB) (sub : UserSubscription) : SubDB := { db with subs := Table.replace (·.id) sub db.subs }

def findRecord (db : SubDB) (requestId : String) : Option PreConsumeRecord :=
  Table.lookup (·.requestId) requestId db.records

def saveRecord (db : SubDB) (r : PreConsumeRecord) : SubDB :=
  { db with records := Table.replace (·.requestId) r db.records }
end SubDB

def getSubscriptionPlanById (plans : Plans) (id : ℕ) : Except SubError SubscriptionPlan :=
  if id=0 then .error .invalidPlanId
  else match plans id with
    | none => .error .recordNotFound
    | some plan => .ok plan

/-- The row `CreateUserSubscriptionFromPlanTx` inserts, with the group the user moves to if any.
`currentGroup` is the user's group and `count` the number of subscriptions to the plan. -/
def newUserSubscription (loc : Location) (now : ℤ) (id userId : ℕ) (plan : SubscriptionPlan)
    (source currentGroup : String) (count : ℕ) : Except SubError (UserSubscription × Option String) :=
  if plan.id=0 then .error .invalidPlan
  else if userId=0 then .error .invalidUser
  else if 0<plan.maxPurchasePerUser ∧ plan.maxPurchasePerUser ≤ count then .error .purchaseLimit
  else match calcPlanEndTime loc now plan with
    | .error message => .error (.plan message)
    | .ok endUnix =>
      let nextReset := calcNextResetTime loc now plan endUnix
      let upgradeGroup := trimSpace plan.upgradeGroup
      let moves := upgradeGroup ≠ "" ∧ currentGroup≠upgradeGroup
      .ok ({ id := id
             userId := userId
             planId := plan.id
             amountTotal := plan.totalAmount
             amountUsed := 0
             startTime := now
             endTime := endUnix
             status := .active
             source := source
             lastResetTime := if 0<nextReset then now else 0
             nextResetTime := nextReset
             upgradeGroup := upgradeGroup
             prevUserGroup := if moves then currentGroup else ""
             downgradeGroup := trimSpace plan.downgradeGroup
             allowWalletOverflow := plan.allowWalletOverflow.getD true },
           if moves then some upgradeGroup else none)

def createUserSubscriptionFromPlan (loc : Location) (db : SubDB) (now : ℤ) (userId : ℕ)
    (plan : SubscriptionPlan) (source currentGroup : String) : Except SubError SubDB :=
  let count := (db.subs.filter fun s => s.userId=userId ∧ s.planId=plan.id).length
  (newUserSubscription loc now db.nextId userId plan source currentGroup count).map fun r =>
    { db with subs := db.subs++[r.1], nextId := db.nextId+1 }

/-- The loop over the missed resets; `none` when it does not end within the fuel. -/
def resetLoop (loc : Location) (plan : SubscriptionPlan) (endTime now : ℤ) :
    ℕ → ℤ → ℤ → Bool → Option (ℤ × ℤ × Bool)
  | 0,_,_,_ => none
  | fuel+1,base,next,advanced =>
    if 0<next ∧ next≤now then resetLoop loc plan endTime now fuel next (calcNextResetTime loc next plan endTime) true
    else some (base,next,advanced)

/-- `maybeResetUserSubscriptionWithPlanTx`: the row as it is afterwards. -/
def maybeReset (loc : Location) (fuel : ℕ) (sub : UserSubscription) (plan : SubscriptionPlan)
    (now : ℤ) : Option UserSubscription :=
  if 0<sub.nextResetTime ∧ now<sub.nextResetTime then some sub
  else if normalizeResetPeriod plan.quotaResetPeriod=.never then some sub
  else
    let base := if sub.lastResetTime≤0 then sub.startTime else sub.lastResetTime
    (resetLoop loc plan sub.endTime now fuel base (calcNextResetTime loc base plan sub.endTime) false).map
      fun (base,next,advanced) =>
        if advanced then { sub with amountUsed := 0, lastResetTime := base, nextResetTime := next }
        else if sub.nextResetTime=0 ∧ 0<next then { sub with nextResetTime := next, lastResetTime := base }
        else sub

structure PreConsumeResult where
  userSubscriptionId : ℕ
  preConsumed : ℤ
  amountTotal : ℤ
  amountUsedBefore : ℤ
  amountUsedAfter : ℤ

def UserSubscription.Fits (sub : UserSubscription) (amount : ℤ) : Prop :=
  ¬(0<sub.amountTotal ∧ wrap64 (sub.amountTotal-sub.amountUsed)<amount)

instance (sub : UserSubscription) (amount : ℤ) : Decidable (sub.Fits amount) := inferInstanceAs (Decidable (¬_))

def UserSubscription.charge (sub : UserSubscription) (amount : ℤ) : UserSubscription :=
  { sub with amountUsed := wrap64 (sub.amountUsed+amount) }

/-- The loop over the candidates. Resets of rows that turn out too small stay in the transaction. -/
def preConsumeLoop (loc : Location) (plans : Plans) (fuel : ℕ) (requestId : String) (userId : ℕ)
    (amount now : ℤ) : List UserSubscription → SubDB → Option (Except SubError (PreConsumeResult × SubDB))
  | [],_ => some (.error (.insufficient amount))
  | candidate::rest,db =>
    match getSubscriptionPlanById plans candidate.planId with
    | .error e => some (.error e)
    | .ok plan => (maybeReset loc fuel candidate plan now).bind fun sub =>
      let db := db.save sub
      if sub.Fits amount then
        let charged := sub.charge amount
        let record : PreConsumeRecord := ⟨requestId,userId,sub.id,amount,.consumed⟩
        let db := { db with records := db.records++[record] }
        some (.ok (⟨sub.id,amount,sub.amountTotal,sub.amountUsed,charged.amountUsed⟩,db.save charged))
      else preConsumeLoop loc plans fuel requestId userId amount now rest db

/-- `status = 'active' AND end_time > now`, in the order `end_time asc, id asc`. -/
def SubDB.candidates (db : SubDB) (userId : ℕ) (now : ℤ) : List UserSubscription :=
  (db.subs.filter fun s => s.userId=userId ∧ s.status=.active ∧ now<s.endTime).mergeSort
    fun a b => decide (a.endTime<b.endTime) || (decide (a.endTime=b.endTime) && decide (a.id≤b.id))

/-- The transaction of `PreConsumeUserSubscription`. -/
def preConsumeTx (loc : Location) (plans : Plans) (fuel : ℕ) (db : SubDB) (requestId : String)
    (userId : ℕ) (amount now : ℤ) : Option (Except SubError (PreConsumeResult × SubDB)) :=
  match db.findRecord requestId with
  | some existing =>
    if existing.status=.refunded then some (.error .alreadyRefunded)
    else match db.find existing.userSubscriptionId with
      | none => some (.error .recordNotFound)
      | some sub => some (.ok (⟨sub.id,existing.preConsumed,sub.amountTotal,sub.amountUsed,sub.amountUsed⟩,db))
  | none =>
    match db.candidates userId now with
    | [] => some (.error .noActiveSubscription)
    | candidates => preConsumeLoop loc plans fuel requestId userId amount now candidates db

/-- `PreConsumeUserSubscription`: the result and the store after it. -/
def preConsumeUserSubscription (loc : Location) (plans : Plans) (fuel : ℕ) (db : SubDB)
    (requestId : String) (userId : ℕ) (amount now : ℤ) : Option (Except SubError PreConsumeResult × SubDB) :=
  if userId=0 then some (.error .invalidUserId,db)
  else if trimSpace requestId = "" then some (.error .requestIdEmpty,db)
  else if amount≤0 then some (.error .amountNotPositive,db)
  else (preConsumeTx loc plans fuel db requestId userId amount now).map fun r =>
    match r with
    | .error e => (.error e,db)
    | .ok (result,db') => (.ok result,db')

def UserSubscription.newUsed (sub : UserSubscription) (delta : ℤ) : ℤ :=
  let sum := wrap64 (sub.amountUsed+delta)
  if sum<0 then 0 else sum

/-- `PostConsumeUserSubscriptionDelta`. -/
def postConsumeUserSubscriptionDelta (db : SubDB) (id : ℕ) (delta : ℤ) : Except SubError SubDB :=
  if id=0 then .error .invalidSubscriptionId
  else if delta=0 then .ok db
  else match db.find id with
    | none => .error .recordNotFound
    | some sub =>
      let newUsed := sub.newUsed delta
      if 0<sub.amountTotal ∧ sub.amountTotal<newUsed then .error (.exceedsTotal newUsed sub.amountTotal)
      else .ok (db.save { sub with amountUsed := newUsed })

/-- `RefundSubscriptionPreConsume`, when no statement fails. -/
def refundSubscriptionPreConsume (db : SubDB) (requestId : String) : Except SubError SubDB :=
  if trimSpace requestId = "" then .error .requestIdEmpty
  else match db.findRecord requestId with
    | none => .error .recordNotFound
    | some record =>
      if record.status=.refunded then .ok db
      else if record.preConsumed≤0 then .ok (db.saveRecord { record with status := .refunded })
      else (postConsumeUserSubscriptionDelta db record.userSubscriptionId (wrap64 (-record.preConsumed))).map
        fun db => db.saveRecord { record with status := .refunded }

/-- `SubscriptionFunding`: what a request has pre-consumed from a subscription, and the row as the
pre-consume left it. The model name and the plan's title, for the log, are left out. -/
structure SubscriptionFunding where
  requestId : String
  userId : ℕ
  amount : ℤ
  subscriptionId : ℕ
  preConsumed : ℤ
  amountTotal : ℤ
  amountUsedAfter : ℤ

/-- One subscription of `ResetDueSubscriptions`: an unreadable plan skips it, and the row is read
again inside its transaction. -/
def resetDueOne (loc : Location) (plans : Plans) (fuel : ℕ) (now : ℤ) (db : SubDB)
    (sub : UserSubscription) : Option SubDB :=
  match getSubscriptionPlanById plans sub.planId with
  | .error _ => some db
  | .ok plan =>
    match db.find sub.id with
    | none => some db
    | some locked =>
      if 0<locked.nextResetTime ∧ locked.nextResetTime≤now then (maybeReset loc fuel locked plan now).map db.save
      else some db

/-- The rows a sweep takes up: those whose next reset has come, the earliest first. -/
def SubDB.due (db : SubDB) (limit now : ℤ) : List UserSubscription :=
  ((db.subs.filter fun s => 0<s.nextResetTime ∧ s.nextResetTime≤now ∧ s.status=.active).mergeSort
    fun a b => decide (a.nextResetTime≤b.nextResetTime)).take (if limit≤0 then 200 else limit.toNat)

def resetDueSubscriptions (loc : Location) (plans : Plans) (fuel : ℕ) (db : SubDB) (limit : ℤ)
    (now : ℤ) : Option SubDB :=
  (db.due limit now).foldlM (resetDueOne loc plans fuel now) db
end AronaApi.Subscription
