import AronaApi.Recharge.Order
import AronaApi.Redeem.Model

/-! The four ways to a subscription (`PurchaseSubscriptionWithBalance`, `CompleteSubscriptionOrder`,
`AdminBindSubscription` and `Redeem`), for one user and one plan. Each call is a transaction whose SQL
statements are single steps: a statement is chosen by what the transaction sees (`stmt`) and then
carried out on the store (`perform`). A `SELECT` locks nothing: `gorm:query_option` is ignored. -/
namespace AronaApi.Purchase
open GoStd Subscription
open Recharge (TopUpStatus PaymentProvider)
open Redeem (Redemption)

structure Market where
  loc : Location
  userId : ℕ
  plan : SubscriptionPlan
  priceAmount : ℚ
  allowBalancePay : Option Bool
  quotaPerUnit : ℚ

/-- `calcSubscriptionBalanceQuota`. -/
def Market.balanceQuota (m : Market) : Except String ℤ :=
  if m.priceAmount≤0 then .ok 0
  else if m.quotaPerUnit≤0 then .error "额度单位配置错误"
  else .ok (wrap64 (m.priceAmount*m.quotaPerUnit).ceil)

structure SubscriptionOrder where
  userId : ℕ
  planId : ℕ
  money : ℚ
  paymentMethod : String
  paymentProvider : PaymentProvider
  status : TopUpStatus
  createTime : ℤ
  completeTime : ℤ
  providerPayload : String

structure TopUp where
  userId : ℕ
  amount : ℤ
  money : ℚ
  paymentMethod : String
  createTime : ℤ
  completeTime : ℤ
  status : TopUpStatus

/-- An empty provider, as `none`, skips the check of it. -/
inductive Call
  | purchase
  | complete (tradeNo providerPayload : String) (expectedPaymentProvider : Option PaymentProvider)
      (actualPaymentMethod : String)
  | bind
  | redeem (key : String)

inductive Key
  | user
  | order (tradeNo : String)
  | topUp (tradeNo : String)
  | code (key : String)
  deriving DecidableEq

abbrev Row : Key → Type
  | .user => Option User
  | .order _ => Option SubscriptionOrder
  | .topUp _ => Option TopUp
  | .code _ => Option Redemption

inductive Job
  | purchase (requiredQuota : ℤ)
  | complete (tradeNo : String) (order : SubscriptionOrder)
  | bind
  | redeem (r : Redemption)

def Job.source : Job → String
  | .purchase _ => "balance"
  | .complete _ _ => "order"
  | .bind => "admin"
  | .redeem _ => "redemption"

inductive Phase
  | idle
  | balance (requiredQuota : ℤ)
  | charging (requiredQuota : ℤ)
  | claiming (r : Redemption) (now : ℤ)
  | claimed (r : Redemption)
  | granting (r : Redemption)
  | counting (job : Job)
  | counted (job : Job) (count : ℕ)
  | readingGroup (job : Job) (count : ℕ) (dbNow : ℤ)
  | movingGroup (job : Job) (sub : UserSubscription) (group : String)
  | inserting (job : Job) (sub : UserSubscription)
  | inserted (job : Job) (sub : UserSubscription)
  | found (tradeNo : String) (order : SubscriptionOrder) (sub : UserSubscription) (topUp : Option TopUp)
  | saving (tradeNo : String) (order : SubscriptionOrder) (sub : UserSubscription)
  | committing (job : Job) (tradeNo : Option String) (sub : Option UserSubscription)
  | done (error : Option String)

inductive Op
  /-- leave the transaction; its writes are undone -/
  | leave (error : Option String)
  | goto (p : Phase)
  /-- lock a row, waiting for it, and replace it -/
  | write (k : Key) (row : Row k) (p : Phase)
  /-- insert a subscription under the next id -/
  | insert (p : ℕ → Phase)
  | commit (job : Job) (tradeNo : Option String) (sub : Option UserSubscription)

section
variable (m : Market)
/-- `CreateUserSubscriptionFromPlanTx` begins: it counts only for a plan with a limit. -/
def create (job : Job) : Phase := if 0 < m.plan.maxPurchasePerUser then .counting job else .counted job 0

def checkPlan : Op :=
  if m.userId=0 ∨ m.plan.id=0 then .leave (some "invalid userId or planId")
  else if m.plan.enabled=false then .leave (some "套餐未启用")
  else if m.priceAmount<0 then .leave (some "套餐价格不能为负数")
  else if m.allowBalancePay=some false then .leave (some "该套餐不允许使用余额兑换")
  else match m.balanceQuota with
    | .error e => .leave (some e)
    | .ok requiredQuota => .goto (.balance requiredQuota)

/-- The checks of `CompleteSubscriptionOrder` on the order it has read; an order of another user or
plan is not looked at here. -/
def checkOrder (tradeNo : String) (expected : Option PaymentProvider) : Option SubscriptionOrder → Option Op
  | none => some (.leave (some "subscription order not found"))
  | some order =>
    if ∃ p∈expected, order.paymentProvider≠p then some (.leave (some "payment method mismatch"))
    else if order.status=.success then some (.leave none)
    else if order.status≠.pending then some (.leave (some "subscription order status invalid"))
    else if order.userId=m.userId ∧ order.planId=m.plan.id then some (.goto (create m (.complete tradeNo order)))
    else none

/-- The checks of `Redeem` on the code it has read. -/
def checkCode (now : ℤ) : Option Redemption → Op
  | none => .leave (some "无效的兑换码")
  | some r =>
    if r.status≠.enabled then .leave (some "该兑换码已被使用")
    else if r.expiredTime≠0 ∧ r.expiredTime<now then .leave (some "该兑换码已过期")
    else .goto (.claiming r now)

/-- The conditional `UPDATE` of the code, by whether a row matched. -/
def claimCode (key : String) (r : Redemption) (now : ℤ) : Option Redemption → Op
  | none => .leave (some "该兑换码已被使用")
  | some current =>
    if current.claimable now then .write (.code key) (some (current.claim now m.userId)) (.claimed r)
    else .leave (some "该兑换码已被使用")

/-- The branch on the code's type; a code for another plan is not looked at here. -/
def dispatch (r : Redemption) : Option Op :=
  match r.normalizedType with
  | .quota => some (if r.quota≤0 then .leave (some "兑换码额度无效") else .goto (.granting r))
  | .subscription =>
    if r.planId≠m.plan.id then none
    else some (if m.plan.enabled=false then .leave (some "兑换码关联的订阅套餐已禁用")
      else .goto (create m (.redeem r)))
  | _ => some (.leave (some "兑换码类型无效"))

def prepare (job : Job) (count : ℕ) (dbNow : ℤ) : Op :=
  match newUserSubscription m.loc dbNow 0 m.userId m.plan job.source "" count with
  | .error e => .leave (some e.message)
  | .ok (sub,_) => .goto (if trimSpace m.plan.upgradeGroup = "" then .inserting job sub else .readingGroup job count dbNow)

def chooseGroup (job : Job) (count : ℕ) (dbNow : ℤ) (user : Option User) : Op :=
  let currentGroup := (user.map fun u => u.group).getD ""
  match newUserSubscription m.loc dbNow 0 m.userId m.plan job.source currentGroup count with
  | .error e => .leave (some e.message)
  | .ok (sub,none) => .goto (.inserting job sub)
  | .ok (sub,some group) => .goto (.movingGroup job sub group)

/-- An `UPDATE` of the user's row. -/
def updateUser (f : User → User) (p : Phase) : Option User → Op
  | none => .goto p
  | some u => .write .user (some (f u)) p

def balanceOrder (requiredQuota now : ℤ) : SubscriptionOrder where
  userId := m.userId
  planId := m.plan.id
  money := m.priceAmount
  paymentMethod := "balance"
  paymentProvider := .balance
  status := .success
  createTime := now
  completeTime := now
  providerPayload := "charged_quota="++toString requiredQuota

/-- `upsertSubscriptionTopUpTx`, after its `SELECT`. -/
def upsertTopUp (tradeNo : String) (order : SubscriptionOrder) (now : ℤ) (p : Phase) (current : Option TopUp) :
    Option TopUp → Op
  | none =>
    -- the trade number is unique
    if current.isSome then .leave (some "UNIQUE constraint failed: top_ups.trade_no")
    else .write (.topUp tradeNo)
      (some ⟨order.userId,0,order.money,order.paymentMethod,order.createTime,now,.success⟩) p
  | some topUp =>
    if topUp.paymentMethod ≠ "" ∧ topUp.paymentMethod≠order.paymentMethod then
      .leave (some "payment method mismatch")
    else .write (.topUp tradeNo)
      (some { topUp with
        money := order.money
        paymentMethod := order.paymentMethod
        createTime := if topUp.createTime=0 then order.createTime else topUp.createTime
        completeTime := now
        status := .success }) p

def SubscriptionOrder.complete (order : SubscriptionOrder) (now : ℤ) (payload method : String) : SubscriptionOrder :=
  { order with
    status := .success
    completeTime := now
    providerPayload := if payload = "" then order.providerPayload else payload
    paymentMethod := if method = "" then order.paymentMethod else method }

/-- The next statement of a call: `view` is what its transaction sees, `count` the number of
subscriptions there are, `now` and `fresh` the time and the trade number the call comes up with. -/
def stmt (call : Call) (view : (k : Key) → Row k) (count : ℕ) (now : ℤ) (fresh : String) : Phase → Option Op
  | .idle =>
    match call with
    | .purchase => some (checkPlan m)
    | .complete tradeNo _ expected _ =>
      if tradeNo = "" then some (.leave (some "tradeNo is empty")) else checkOrder m tradeNo expected (view (.order tradeNo))
    | .bind =>
      some (if m.userId=0 ∨ m.plan.id=0 then .leave (some "invalid userId or planId") else .goto (create m .bind))
    | .redeem key =>
      some (if key = "" then .leave (some "未提供兑换码")
        else if m.userId=0 then .leave (some "无效的 user id") else checkCode now (view (.code key)))
  | .balance requiredQuota =>
    some (match view .user with
      | none => .leave (some "record not found")
      | some user =>
        if 0 < requiredQuota ∧ user.quota < requiredQuota then .leave (some "余额不足")
        else .goto (if 0 < requiredQuota then .charging requiredQuota else create m (.purchase requiredQuota)))
  | .charging requiredQuota =>
    some (updateUser (User.addQuota (-requiredQuota)) (create m (.purchase requiredQuota)) (view .user))
  | .claiming r now =>
    match call with
    | .redeem key => some (claimCode m key r now (view (.code key)))
    | _ => none
  | .claimed r => dispatch m r
  | .granting r => some (updateUser (User.addQuota r.quota) (.committing (.redeem r) none none) (view .user))
  | .counting job => some (.goto (.counted job count))
  | .counted job count => some (prepare m job count now)
  | .readingGroup job count dbNow => some (chooseGroup m job count dbNow (view .user))
  | .movingGroup job sub group =>
    some (updateUser (fun u => { u with group := group }) (.inserting job sub) (view .user))
  | .inserting job sub =>
    some (.insert fun id =>
      match job with
      | .purchase _ | .complete _ _ => .inserted job { sub with id := id }
      | .bind | .redeem _ => .committing job none (some { sub with id := id }))
  | .inserted (.purchase requiredQuota) sub =>
    some (if Option.isSome (view (.order fresh)) then .leave (some "UNIQUE constraint failed: subscription_orders.trade_no")
      else .write (.order fresh) (some (balanceOrder m requiredQuota now))
        (.committing (.purchase requiredQuota) (some fresh) (some sub)))
  | .inserted (.complete tradeNo order) sub => some (.goto (.found tradeNo order sub (view (.topUp tradeNo))))
  | .found tradeNo order sub topUp =>
    some (upsertTopUp tradeNo order now (.saving tradeNo order sub) (view (.topUp tradeNo)) topUp)
  | .saving tradeNo order sub =>
    match call with
    | .complete _ payload _ method =>
      some (.write (.order tradeNo) (some (order.complete now payload method))
        (.committing (.complete tradeNo order) (some tradeNo) (some sub)))
    | _ => none
  | .committing job tradeNo sub => some (.commit job tradeNo sub)
  | .inserted _ _ | .done _ => none
end

inductive Event
  /-- a subscription was created, for the order with this trade number if there is one -/
  | created (tradeNo : Option String)
  /-- a purchase left this much in the wallet it charged -/
  | charged (quota : ℤ)
  deriving DecidableEq

structure Shared (W : Type*) where
  db : RowStore W Key Row
  subs : List UserSubscription
  nextId : ℕ

variable {W : Type*} [DecidableEq W]
def chargeEvents : Option User → Job → List Event
  | some user,.purchase requiredQuota => if 0 < requiredQuota then [.charged user.quota] else []
  | _,_ => []

/-- What a commit is reported as; `user` is the user's row as the transaction leaves it. -/
def commitEvents (user : Option User) (job : Job) (tradeNo : Option String) (sub : Option UserSubscription) :
    List Event :=
  (sub.toList.map fun _ => .created tradeNo)++chargeEvents user job

def perform (w : W) (s : Shared W) : Op → Option (Shared W × Phase × List Event)
  | .leave error => some ({ s with db := s.db.abort w },.done error,[])
  | .goto p => some (s,p,[])
  | .write k row p => if s.db.Free w k then some ({ s with db := s.db.write w k row },p,[]) else none
  | .insert p => some ({ s with nextId := s.nextId+1 },p s.nextId,[])
  | .commit job tradeNo sub =>
    some ({ s with db := s.db.commit w,subs := s.subs++sub.toList },.done none,
      commitEvents (s.db.view w .user) job tradeNo sub)

def Shared.count (m : Market) (s : Shared W) : ℕ :=
  (s.subs.filter fun sub => sub.userId=m.userId ∧ sub.planId=m.plan.id).length

inductive Act
  | run (now : ℤ) (fresh : String)
  | fail (message : String)

def Phase.isOver : Phase → Bool
  | .done _ => true
  | _ => false

def next (m : Market) (call : W → Call) (w : W) (s : Shared W) (p : Phase) :
    Act → Option (Shared W × Phase × List Event)
  | .run now fresh => (stmt m (call w) (s.db.view w) (s.count m) now fresh p).bind (perform w s)
  | .fail message => if p.isOver then none else perform w s (.leave (some message))

abbrev Sys (W : Type*) := Interleave W (Shared W) Phase Event

def step (m : Market) (call : W → Call) : Sys W → W × Act → Option (Sys W) := Interleave.step fun w => next m call w

def start (rows : (k : Key) → Row k) (subs : List UserSubscription) (nextId : ℕ) : Sys W :=
  Interleave.start ⟨RowStore.quiet rows,subs,nextId⟩ .idle
end AronaApi.Purchase
