import AronaApi.Lib.Interleave
import AronaApi.Lib.RowStore
import AronaApi.Subscription.Store
import AronaApi.User.Row

/-! `Redeem` (`model/redemption.go`): any number of calls for one code, each a transaction whose SQL
statements are single steps. The first `SELECT` locks nothing; the conditional `UPDATE` decides. -/
namespace AronaApi.Redeem
open GoStd Subscription

inductive CodeStatus
  | enabled | disabled | used
  deriving DecidableEq

inductive RedemptionType
  | unset | quota | subscription | other (text : String)
  deriving DecidableEq

structure Redemption where
  key : String
  status : CodeStatus
  quota : ℤ
  type : RedemptionType
  planId : ℕ
  redeemedTime : ℤ
  usedUserId : ℕ
  expiredTime : ℤ

namespace Redemption

def normalizedType (r : Redemption) : RedemptionType := if r.type=.unset then .quota else r.type

/-- `status = enabled AND (expired_time = 0 OR expired_time >= now)`. -/
def claimable (now : ℤ) (r : Redemption) : Bool :=
  decide (r.status=.enabled) && (decide (r.expiredTime=0) || decide (now ≤ r.expiredTime))

def claim (now : ℤ) (userId : ℕ) (r : Redemption) : Redemption :=
  { r with status := .used, redeemedTime := now, usedUserId := userId }
end Redemption

/-- The plan's title, for display, is left out. -/
structure RedemptionResult where
  type : RedemptionType
  quota : ℤ
  planId : ℕ
  subscriptionId : ℕ
  deriving DecidableEq

/-- A failed transaction is reported as `ErrRedeemFailed`; its message goes to the log. -/
inductive RedeemError
  | invalid (message : String)
  | failed (message : String)

structure Call where
  key : String
  userId : ℕ

inductive Key
  | code
  | user (id : ℕ)
  deriving DecidableEq

abbrev Row : Key → Type
  | .code => Redemption
  | .user _ => Option User

/-- The rows that are updated, the committed subscriptions, and their sequence, which a rollback
does not turn back. -/
structure Shared (W : Type*) where
  db : RowStore W Key Row
  subs : List UserSubscription
  nextId : ℕ

inductive Phase
  | idle
  | selected (r : Redemption) (now : ℤ)
  | granting (r : Redemption)
  | planning (r : Redemption)
  | counting (r : Redemption) (plan : SubscriptionPlan)
  | counted (r : Redemption) (plan : SubscriptionPlan) (count : ℕ)
  | readingGroup (r : Redemption) (plan : SubscriptionPlan) (count : ℕ) (dbNow : ℤ)
  | movingGroup (r : Redemption) (sub : UserSubscription) (group : String)
  | inserting (r : Redemption) (sub : UserSubscription)
  | granted (r : Redemption) (sub : Option UserSubscription)
  | done (result : Except RedeemError RedemptionResult)

inductive Act
  | select (fails : Bool) (now : ℤ)
  | claim (error : Option String)
  | grantQuota (error : Option String)
  | readPlan (plan : Option SubscriptionPlan)
  | count (error : Option String)
  | timestamp (dbNow : ℤ)
  | readGroup (error : Option String)
  | moveGroup (error : Option String)
  | insert (error : Option String)
  | commit (error : Option String)

inductive Event
  | redeemed (result : RedemptionResult)
  deriving DecidableEq

def result (r : Redemption) : Option UserSubscription → RedemptionResult
  | none => ⟨.quota,r.quota,0,0⟩
  | some sub => ⟨.subscription,0,r.planId,sub.id⟩

section
variable {W : Type*} [DecidableEq W] (loc : Location) (call : W → Call) (w : W) (s : Shared W)
def fail (message : String) : Shared W × Phase × List Event :=
  ({ s with db := s.db.abort w },.done (.error (.failed message)),[])

/-- The checks after the `SELECT`. -/
def examine (fails : Bool) (now : ℤ) : Shared W × Phase × List Event :=
  let r : Redemption := s.db.view w .code
  if fails ∨ r.key≠(call w).key then fail w s "无效的兑换码"
  else if r.status≠.enabled then fail w s "该兑换码已被使用"
  else if r.expiredTime≠0 ∧ r.expiredTime<now then fail w s "该兑换码已过期"
  else (s,.selected r now,[])

def dispatch (r : Redemption) : Shared W × Phase × List Event :=
  match r.normalizedType with
  | .quota => if r.quota≤0 then fail w s "兑换码额度无效" else (s,.granting r,[])
  | .subscription => if r.planId=0 then fail w s "兑换码关联的订阅套餐不存在" else (s,.planning r,[])
  | _ => fail w s "兑换码类型无效"

/-- The checks and times of `CreateUserSubscriptionFromPlanTx` before it looks at the user's group. -/
def prepare (r : Redemption) (plan : SubscriptionPlan) (count : ℕ) (dbNow : ℤ) :
    Shared W × Phase × List Event :=
  match newUserSubscription loc dbNow 0 (call w).userId plan "redemption" "" count with
  | .error e => fail w s e.message
  | .ok (sub,_) =>
    if trimSpace plan.upgradeGroup = "" then (s,.inserting r sub,[])
    else (s,.readingGroup r plan count dbNow,[])

def chooseGroup (r : Redemption) (plan : SubscriptionPlan) (count : ℕ) (dbNow : ℤ) :
    Shared W × Phase × List Event :=
  let user : Option User := s.db.view w (.user (call w).userId)
  let currentGroup := (user.map fun u => u.group).getD ""
  match newUserSubscription loc dbNow 0 (call w).userId plan "redemption" currentGroup count with
  | .error e => fail w s e.message
  | .ok (sub,none) => (s,.inserting r sub,[])
  | .ok (sub,some group) => (s,.movingGroup r sub group,[])

/-- An `UPDATE` of the caller's row, after which the call is at phase `p`. -/
def updateUser (f : User → User) (p : Phase) : Option (Shared W × Phase × List Event) :=
  (s.db.updateWhere w (.user (call w).userId) Option.isSome (Option.map f)).map fun r =>
    ({ s with db := r.1 },p,[])

def next : Phase → Act → Option (Shared W × Phase × List Event)
  | .idle,.select fails now =>
    if (call w).key = "" then some (s,.done (.error (.invalid "未提供兑换码")),[])
    else if (call w).userId=0 then some (s,.done (.error (.invalid "无效的 user id")),[])
    else some (examine call w s fails now)
  | .selected r now,.claim none =>
    (s.db.updateWhere w .code (Redemption.claimable now) (Redemption.claim now (call w).userId)).map
      fun (db,rowsAffected) =>
        if rowsAffected≠1 then fail w { s with db := db } "该兑换码已被使用"
        else dispatch w { s with db := db } r
  | .granting r,.grantQuota none => updateUser call w s (User.addQuota r.quota) (.granted r none)
  | .planning _,.readPlan none => some (fail w s "兑换码关联的订阅套餐不存在")
  | .planning r,.readPlan (some plan) =>
    if plan.id≠r.planId then none
    else if plan.enabled=false then some (fail w s "兑换码关联的订阅套餐已禁用")
    else if 0<plan.maxPurchasePerUser then some (s,.counting r plan,[])
    else some (s,.counted r plan 0,[])
  | .counting r plan,.count none =>
    some (s,.counted r plan
      (s.subs.filter fun sub => sub.userId=(call w).userId ∧ sub.planId=plan.id).length,[])
  | .counted r plan count,.timestamp dbNow => some (prepare loc call w s r plan count dbNow)
  | .readingGroup r plan count dbNow,.readGroup none => some (chooseGroup loc call w s r plan count dbNow)
  | .movingGroup r sub group,.moveGroup none =>
    updateUser call w s (fun u => { u with group := group }) (.inserting r sub)
  | .inserting r sub,.insert none =>
    some ({ s with nextId := s.nextId+1 },.granted r (some { sub with id := s.nextId }),[])
  | .granted r sub,.commit none =>
    some ({ s with db := s.db.commit w, subs := s.subs++sub.toList },.done (.ok (result r sub)),
      [.redeemed (result r sub)])
  | .selected _ _,.claim (some error) | .granting _,.grantQuota (some error)
  | .counting _ _,.count (some error) | .readingGroup _ _ _ _,.readGroup (some error)
  | .movingGroup _ _ _,.moveGroup (some error) | .inserting _ _,.insert (some error)
  | .granted _ _,.commit (some error) => some (fail w s error)
  | _,_ => none
end

abbrev Sys (W : Type*) := Interleave W (Shared W) Phase Event

def step {W : Type*} [DecidableEq W] (loc : Location) (call : W → Call) :
    Sys W → W × Act → Option (Sys W) :=
  Interleave.step fun w => next loc call w

structure Scene {W : Type*} (call : W → Call) where
  code : Redemption
  users : ℕ → Option User
  subs : List UserSubscription
  nextId : ℕ
  caller : W → User
  users_caller : ∀ w, users (call w).userId=some (caller w)

namespace Scene
variable {W : Type*} {call : W → Call}
def rows (sc : Scene call) : (k : Key) → Row k
  | .code => sc.code
  | .user id => sc.users id

def init (sc : Scene call) : Sys W :=
  Interleave.start ⟨RowStore.quiet sc.rows,sc.subs,sc.nextId⟩ .idle
end Scene
end AronaApi.Redeem
