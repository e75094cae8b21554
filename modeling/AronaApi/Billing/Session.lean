import AronaApi.AsyncTask.Row
import AronaApi.Subscription.Store
import Mathlib.Data.Rat.Floor

/-! The billing session of one request (`service/billing_session.go`, `service/funding_source.go`): it
pre-consumes from a wallet or a subscription and from the token, may reserve more, and ends with a
settlement or a refund.

`NewBillingSession`: which source pays for a request. The user's preference decides which one is
tried first and whether the other one may stand in. -/
namespace AronaApi.Billing
open GoStd Subscription
open AsyncTask (BillingSource)

/-- What one request can touch: the user's quota, the token's remaining quota, and the subscriptions.
The two quotas include what a batch still holds for them. -/
structure World where
  wallet : ℤ
  token : ℤ
  db : SubDB

/-- What is read and what fails during one call. `rollbackFails` is about writes that take an earlier
one back, `selectFails` says that what fails is the `SELECT` of the subscriptions that may pay. -/
structure Env where
  fundingFails : Bool
  tokenRead : Option ℤ
  tokenFails : Bool
  rollbackFails : Bool
  selectFails : Bool

structure Config where
  quotaPerUnit : ℚ
  formatQuota : ℤ → String

/-- `GetTrustQuota`. -/
def Config.trustQuota (cfg : Config) : ℤ := (10*cfg.quotaPerUnit).num.tdiv (10*cfg.quotaPerUnit).den

inductive ErrorCode
  | insufficientUserQuota | queryDataError | preConsumeTokenQuotaFailed | updateDataError
  deriving DecidableEq

structure ApiError where
  code : ErrorCode
  message : String

section
variable (fails : Bool) (quota : ℤ) (w : World)
def databaseError : String := "database error"

def changeQuota (w' : World) : Except String World :=
  if quota<0 then .error "quota 不能为负数！" else if fails then .error databaseError else .ok w'

def increaseUserQuota : Except String World := changeQuota fails quota { w with wallet := w.wallet+quota }
def decreaseUserQuota : Except String World := changeQuota fails quota { w with wallet := w.wallet-quota }
def increaseTokenQuota : Except String World := changeQuota fails quota { w with token := w.token+quota }
def decreaseTokenQuota : Except String World := changeQuota fails quota { w with token := w.token-quota }

/-- `PostConsumeUserSubscriptionDelta`. -/
def postConsumeDelta (id : ℕ) (delta : ℤ) : Except String World :=
  if fails then .error databaseError
  else match postConsumeUserSubscriptionDelta w.db id delta with
    | .error e => .error e.message
    | .ok db => .ok { w with db := db }
end

/-- The fields of `RelayInfo` that billing reads or writes; `tokenQuota` is from the request context. -/
structure RelayInfo where
  userId : ℕ
  requestId : String
  isPlayground : Bool := false
  tokenUnlimited : Bool := false
  tokenQuota : ℤ := 0
  forcePreConsume : Bool := false
  billingPreference : String := ""
  userQuota : ℤ := 0
  finalPreConsumedQuota : ℤ := 0
  billingSource : BillingSource := .unset
  subscriptionId : ℕ := 0
  subscriptionPreConsumed : ℤ := 0
  subscriptionPostDelta : ℤ := 0
  subscriptionAmountTotal : ℤ := 0
  subscriptionAmountUsedAfterPreConsume : ℤ := 0

def preConsumeTokenQuota (cfg : Config) (info : RelayInfo) (env : Env) (quota : ℤ) (w : World) :
    Except String World :=
  if quota<0 then .error "quota 不能为负数！"
  else if info.isPlayground then .ok w
  else match env.tokenRead with
    | none => .error databaseError
    | some remain =>
      if info.tokenUnlimited=false ∧ remain<quota then
        .error ("token quota is not enough, token remain quota: " ++ cfg.formatQuota remain ++
          ", need quota: " ++ cfg.formatQuota quota)
      else decreaseTokenQuota env.tokenFails quota w

/-- `WalletFunding` keeps what was taken from the wallet. -/
inductive FundingSource
  | wallet (consumed : ℤ)
  | subscription (f : SubscriptionFunding)

def FundingSource.source : FundingSource → BillingSource
  | .wallet _ => .wallet
  | .subscription _ => .subscription

structure PlanEnv where
  loc : Location
  plans : Plans
  fuel : ℕ
  now : ℤ

namespace FundingSource

def preConsume (env : Env) (penv : PlanEnv) (amount : ℤ) (w : World) :
    FundingSource → Option (Except String (FundingSource × World))
  | .wallet consumed =>
    if amount≤0 then some (.ok (.wallet consumed,w))
    else some ((decreaseUserQuota env.fundingFails amount w).map fun w => (.wallet amount,w))
  | .subscription f =>
    -- the argument is ignored, the amount fixed at construction counts
    if env.fundingFails then
      some (.error (if env.selectFails ∧ (w.db.findRecord f.requestId).isNone then SubError.noActiveSubscription.message
        else databaseError))
    else (preConsumeUserSubscription penv.loc penv.plans penv.fuel w.db f.requestId f.userId f.amount
      penv.now).map fun r =>
        match r with
        | (.error e,_) => .error e.message
        | (.ok res,db) =>
          .ok (.subscription { f with
            subscriptionId := res.userSubscriptionId
            preConsumed := res.preConsumed
            amountTotal := res.amountTotal
            amountUsedAfter := res.amountUsedAfter },{ w with db := db })

def settle (fails : Bool) (delta : ℤ) (w : World) : FundingSource → Except String World
  | .wallet _ =>
    if delta=0 then .ok w
    else if 0<delta then decreaseUserQuota fails delta w
    else increaseUserQuota fails (-delta) w
  | .subscription f => if delta=0 then .ok w else postConsumeDelta fails w f.subscriptionId delta

def refund (fails : Bool) (w : World) : FundingSource → Except String World
  | .wallet consumed => if consumed≤0 then .ok w else increaseUserQuota fails consumed w
  | .subscription f =>
    if f.preConsumed≤0 then .ok w
    else if fails then .error databaseError
    else match refundSubscriptionPreConsume w.db f.requestId with
      | .error e => .error e.message
      | .ok db => .ok { w with db := db }
end FundingSource

structure BillingSession where
  relayInfo : RelayInfo
  funding : FundingSource
  preConsumedQuota : ℤ
  tokenConsumed : ℤ
  extraReserved : ℤ
  trusted : Bool
  fundingSettled : Bool
  settled : Bool
  refunded : Bool

namespace BillingSession

/-- `&BillingSession{relayInfo, funding}`. -/
def fresh (info : RelayInfo) (funding : FundingSource) : BillingSession := ⟨info,funding,0,0,0,false,false,false,false⟩

def shouldTrust (cfg : Config) (s : BillingSession) : Bool :=
  if s.relayInfo.forcePreConsume then false
  else if cfg.trustQuota≤0 then false
  else if s.relayInfo.tokenUnlimited=false ∧ s.relayInfo.tokenQuota ≤ cfg.trustQuota then false
  else match s.funding with
    | .wallet _ => decide (cfg.trustQuota<s.relayInfo.userQuota)
    | .subscription _ => false

def syncRelayInfo (s : BillingSession) : BillingSession :=
  let info := { s.relayInfo with
    finalPreConsumedQuota := s.preConsumedQuota
    billingSource := s.funding.source }
  match s.funding with
  | .wallet _ => { s with relayInfo := { info with subscriptionId := 0, subscriptionPreConsumed := 0 } }
  | .subscription f => { s with relayInfo := { info with
      subscriptionId := f.subscriptionId
      subscriptionPreConsumed := f.preConsumed+s.extraReserved
      subscriptionPostDelta := 0
      subscriptionAmountTotal := f.amountTotal
      subscriptionAmountUsedAfterPreConsume := f.amountUsedAfter+s.extraReserved } }

def fundingError (message : String) : ApiError :=
  if contains message "no active subscription" || contains message "subscription quota insufficient" then
    ⟨.insufficientUserQuota,"订阅额度不足或未配置订阅: " ++ message⟩
  else ⟨.updateDataError,message⟩

/-- The token first, then the funding source; a failure of the second takes the first back. -/
def preConsume (cfg : Config) (env : Env) (penv : PlanEnv) (quota : ℤ) (s : BillingSession) (w : World) :
    Option (Except ApiError BillingSession × World) :=
  let trusted := s.shouldTrust cfg
  let effectiveQuota := if trusted then 0 else quota
  match if 0<effectiveQuota then preConsumeTokenQuota cfg s.relayInfo env effectiveQuota w else .ok w with
  | .error message => some (.error ⟨.preConsumeTokenQuotaFailed,message⟩,w)
  | .ok w₁ =>
    let tokenConsumed := if 0<effectiveQuota then effectiveQuota else s.tokenConsumed
    (s.funding.preConsume env penv effectiveQuota w₁).map fun r =>
      match r with
      | .error message =>
        let w₂ := if 0<tokenConsumed ∧ s.relayInfo.isPlayground=false then
          (increaseTokenQuota env.rollbackFails tokenConsumed w₁).toOption.getD w₁ else w₁
        (.error (fundingError message),w₂)
      | .ok (funding,w₂) =>
        (.ok (syncRelayInfo { s with
          funding := funding
          trusted := trusted
          tokenConsumed := tokenConsumed
          preConsumedQuota := effectiveQuota }),w₂)

def settleToken (env : Env) (delta : ℤ) (s : BillingSession) (w : World) : Except String World :=
  if s.relayInfo.isPlayground then .ok w
  else if 0<delta then decreaseTokenQuota env.tokenFails delta w
  else increaseTokenQuota env.tokenFails (-delta) w

/-- The session once its funding source is settled; the log learns of a subscription's delta. -/
def close (delta : ℤ) (s : BillingSession) : BillingSession :=
  { s with
    fundingSettled := true
    settled := true
    relayInfo := match s.funding with
      | .wallet _ => s.relayInfo
      | .subscription _ => { s.relayInfo with
          subscriptionPostDelta := s.relayInfo.subscriptionPostDelta+delta } }

/-- `Settle`: the funding source, then the token. An error of the second step is only reported. -/
def settle (env : Env) (actualQuota : ℤ) (s : BillingSession) (w : World) :
    Except String Unit × BillingSession × World :=
  if s.settled then (.ok (),s,w)
  else
    let delta := actualQuota-s.preConsumedQuota
    if delta=0 then (.ok (),{ s with settled := true },w)
    else match if s.fundingSettled then .ok w else s.funding.settle env.fundingFails delta w with
      | .error e => (.error e,s,w)
      | .ok w₁ =>
        match s.settleToken env delta w₁ with
        | .error e => (.error e,s.close delta,w₁)
        | .ok w₂ => (.ok (),s.close delta,w₂)

def needsRefund (s : BillingSession) : Bool :=
  if s.settled || s.refunded || s.fundingSettled then false
  else if 0<s.tokenConsumed then true
  else match s.funding with
    | .wallet _ => false
    | .subscription f => decide (0<f.preConsumed)

def orLog (w : World) (r : Except String World) : World := r.toOption.getD w

/-- The funding source's part of a refund; what a subscription gave after the pre-consume is returned
on its own. -/
def refundFunding (env : Env) (s : BillingSession) (w : World) : World :=
  let w₁ := orLog w (s.funding.refund env.rollbackFails w)
  match s.funding with
  | .wallet _ => w₁
  | .subscription _ =>
    if 0<s.extraReserved ∧ 0<s.relayInfo.subscriptionId then
      orLog w₁ (postConsumeDelta env.rollbackFails w₁ s.relayInfo.subscriptionId (-s.extraReserved))
    else w₁

/-- `Refund`, with the writes it starts in the background. -/
def refund (env : Env) (s : BillingSession) (w : World) : BillingSession × World :=
  if s.settled || s.refunded || !s.needsRefund then (s,w)
  else
    let w₁ := s.refundFunding env w
    let w₂ := if 0<s.tokenConsumed ∧ s.relayInfo.isPlayground=false then
      orLog w₁ (increaseTokenQuota env.rollbackFails s.tokenConsumed w₁) else w₁
    ({ s with refunded := true },w₂)

def reserveFunding (env : Env) (delta : ℤ) (s : BillingSession) (w : World) :
    Except ApiError (FundingSource × World) :=
  match s.funding with
  | .wallet consumed =>
    match decreaseUserQuota env.fundingFails delta w with
    | .error e => .error ⟨.updateDataError,e⟩
    | .ok w => .ok (.wallet (consumed+delta),w)
  | .subscription f =>
    match postConsumeDelta env.fundingFails w f.subscriptionId delta with
    | .error e => .error ⟨.insufficientUserQuota,"订阅额度不足或未配置订阅: " ++ e⟩
    | .ok w => .ok (.subscription f,w)

def rollbackFundingReserve (env : Env) (delta : ℤ) (w : World) : FundingSource → FundingSource × World
  | .wallet consumed =>
    match increaseUserQuota env.rollbackFails delta w with
    | .error _ => (.wallet consumed,w)
    | .ok w => (.wallet (consumed-delta),w)
  | .subscription f => (.subscription f,orLog w (postConsumeDelta env.rollbackFails w f.subscriptionId (-delta)))

def reserveToken (cfg : Config) (env : Env) (delta : ℤ) (s : BillingSession) (w : World) :
    Except ApiError World :=
  if delta≤0 ∨ s.relayInfo.isPlayground then .ok w
  else match preConsumeTokenQuota cfg s.relayInfo env delta w with
    | .error e => .error ⟨.preConsumeTokenQuotaFailed,e⟩
    | .ok w => .ok w

/-- `Reserve`: raise the pre-consumed quota to the target, from both sources or from none. -/
def reserve (cfg : Config) (env : Env) (targetQuota : ℤ) (s : BillingSession) (w : World) :
    Except ApiError Unit × BillingSession × World :=
  if s.settled ∨ s.refunded ∨ s.trusted ∨ targetQuota ≤ s.preConsumedQuota then (.ok (),s,w)
  else
    let delta := targetQuota-s.preConsumedQuota
    match s.reserveFunding env delta w with
    | .error e => (.error e,s,w)
    | .ok (funding,w₁) =>
      match s.reserveToken cfg env delta w₁ with
      | .error e =>
        let r := rollbackFundingReserve env delta w₁ funding
        (.error e,{ s with funding := r.1 },r.2)
      | .ok w₂ =>
        (.ok (),syncRelayInfo { s with
          funding := funding
          preConsumedQuota := s.preConsumedQuota+delta
          tokenConsumed := s.tokenConsumed+delta
          extraReserved := s.extraReserved+delta },w₂)
end BillingSession

open BillingSession

/-- What the factory reads and what fails. The two attempts may meet different failures; `checkNow` is
the time of the checks on the user's subscriptions. -/
structure OpenEnv where
  userQuota : Option ℤ
  wallet : Env
  subscription : Env
  plan : PlanEnv
  checkNow : ℤ
  hasSubFails : Bool
  overflowFails : Bool

inductive Preference
  | subscriptionOnly | walletOnly | walletFirst | subscriptionFirst

/-- `NormalizeBillingPreference`. -/
def normalizeBillingPreference (pref : String) : Preference :=
  match trimSpace pref with
  | "subscription_only" => .subscriptionOnly
  | "wallet_only" => .walletOnly
  | "wallet_first" => .walletFirst
  | _ => .subscriptionFirst

def hasActiveUserSubscription (db : SubDB) (userId : ℕ) (now : ℤ) : Bool := !(db.candidates userId now).isEmpty

def allowWalletOverflow (db : SubDB) (userId : ℕ) (now : ℤ) : Bool :=
  (db.candidates userId now).all fun sub => sub.allowWalletOverflow

variable (cfg : Config) (env : OpenEnv) (info : RelayInfo) (preConsumedQuota : ℤ) (w : World)
def tryWallet : Option (Except ApiError BillingSession × World) :=
  match env.userQuota with
  | none => some (.error ⟨.queryDataError,databaseError⟩,w)
  | some userQuota =>
    if userQuota≤0 then some (.error ⟨.insufficientUserQuota,"用户额度不足, 剩余额度: " ++ cfg.formatQuota userQuota⟩,w)
    else if userQuota-preConsumedQuota<0 then
      some (.error ⟨.insufficientUserQuota,"预扣费额度失败, 用户剩余额度: " ++ cfg.formatQuota userQuota ++
        ", 需要预扣费额度: " ++ cfg.formatQuota preConsumedQuota⟩,w)
    else (fresh { info with userQuota := userQuota } (.wallet 0)).preConsume cfg env.wallet
      env.plan preConsumedQuota w

def trySubscription : Option (Except ApiError BillingSession × World) :=
  let subConsume := if preConsumedQuota≤0 then 1 else preConsumedQuota
  (fresh info (.subscription ⟨info.requestId,info.userId,subConsume,0,0,0,0⟩)).preConsume cfg
    env.subscription env.plan subConsume w

def orElseIfInsufficient (first : Option (Except ApiError BillingSession × World))
    (second : ApiError → World → Option (Except ApiError BillingSession × World)) :
    Option (Except ApiError BillingSession × World) :=
  first.bind fun r =>
    match r with
    | (.error e,w) => if e.code=.insufficientUserQuota then second e w else some (.error e,w)
    | (.ok s,w) => some (.ok s,w)

def newBillingSession : Option (Except ApiError BillingSession × World) :=
  match normalizeBillingPreference info.billingPreference with
  | .subscriptionOnly => trySubscription cfg env info preConsumedQuota w
  | .walletOnly => tryWallet cfg env info preConsumedQuota w
  | .walletFirst =>
    orElseIfInsufficient (tryWallet cfg env info preConsumedQuota w) fun _ w =>
      trySubscription cfg env info preConsumedQuota w
  | .subscriptionFirst =>
    if info.userId=0 then some (.error ⟨.queryDataError,"invalid userId"⟩,w)
    else if env.hasSubFails then some (.error ⟨.queryDataError,databaseError⟩,w)
    else if hasActiveUserSubscription w.db info.userId env.checkNow=false then tryWallet cfg env info preConsumedQuota w
    else orElseIfInsufficient (trySubscription cfg env info preConsumedQuota w) fun e w =>
      if env.overflowFails then some (.error ⟨.queryDataError,databaseError⟩,w)
      else if allowWalletOverflow w.db info.userId env.checkNow then tryWallet cfg env info preConsumedQuota w
      else some (.error e,w)
end AronaApi.Billing
