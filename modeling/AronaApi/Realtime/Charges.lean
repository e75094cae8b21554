import AronaApi.Billing.Session
import AronaApi.Lib.Decimal
import AronaApi.Billing.Opening

/-! Realtime sessions: the websocket handler (`relay/channel/openai/relay_realtime.go`), the charge for
each turn and the settlement at the end (`service/quota.go`). Ratios are the decimals of the source.

What a realtime session costs its user: every turn is charged when it ends, and the settlement at
the end charges the sum of all turns again. -/
namespace AronaApi.Realtime
open Billing Decimal

structure InputTokenDetails where
  cachedTokens : ℤ
  textTokens : ℤ
  audioTokens : ℤ

structure OutputTokenDetails where
  textTokens : ℤ
  audioTokens : ℤ

structure RealtimeUsage where
  totalTokens : ℤ
  inputTokens : ℤ
  outputTokens : ℤ
  inputTokenDetails : InputTokenDetails
  outputTokenDetails : OutputTokenDetails

namespace RealtimeUsage

/-- `&dto.RealtimeUsage{}`. -/
instance : Zero RealtimeUsage := ⟨⟨0,0,0,⟨0,0,0⟩,⟨0,0⟩⟩⟩

def add (u v : RealtimeUsage) : RealtimeUsage where
  totalTokens := u.totalTokens+v.totalTokens
  inputTokens := u.inputTokens+v.inputTokens
  outputTokens := u.outputTokens+v.outputTokens
  inputTokenDetails :=
    { cachedTokens := u.inputTokenDetails.cachedTokens+v.inputTokenDetails.cachedTokens
      textTokens := u.inputTokenDetails.textTokens+v.inputTokenDetails.textTokens
      audioTokens := u.inputTokenDetails.audioTokens+v.inputTokenDetails.audioTokens }
  outputTokenDetails :=
    { textTokens := u.outputTokenDetails.textTokens+v.outputTokenDetails.textTokens
      audioTokens := u.outputTokenDetails.audioTokens+v.outputTokenDetails.audioTokens }

instance : Add RealtimeUsage := ⟨add⟩

def ofInput (text audio : ℤ) : RealtimeUsage := ⟨text+audio,text+audio,0,⟨0,text,audio⟩,⟨0,0⟩⟩
def ofOutput (text audio : ℤ) : RealtimeUsage := ⟨text+audio,0,text+audio,⟨0,0,0⟩,⟨text,audio⟩⟩
end RealtimeUsage

/-- The lookups of `ratio_setting`; a model or a group that is not configured has its default. -/
structure RatioSetting where
  completionRatio : String → ℚ
  audioRatio : String → ℚ
  audioCompletionRatio : String → ℚ
  modelRatio : String → ℚ
  groupRatio : String → ℚ
  groupGroupRatio : String → String → Option ℚ

structure QuotaInfo where
  inputDetails : InputTokenDetails
  outputDetails : OutputTokenDetails
  modelName : String
  usePrice : Bool
  modelPrice : ℚ
  modelRatio : ℚ
  groupRatio : ℚ

def calculateAudioQuota (quotaPerUnit : ℚ) (setting : RatioSetting) (info : QuotaInfo) : ℤ :=
  if info.usePrice then intPart (info.modelPrice*quotaPerUnit*info.groupRatio)
  else
    let completionRatio := setting.completionRatio info.modelName
    let audioRatio := setting.audioRatio info.modelName
    let audioCompletionRatio := setting.audioCompletionRatio info.modelName
    let ratio := info.groupRatio*info.modelRatio
    let quota := (info.inputDetails.textTokens+info.outputDetails.textTokens*completionRatio+
      info.inputDetails.audioTokens*audioRatio+
      info.outputDetails.audioTokens*audioRatio*audioCompletionRatio)*ratio
    roundHalfAway (if ratio≠0 ∧ quota≤0 then 1 else quota)

structure PriceData where
  modelRatio : ℚ
  groupRatio : ℚ
  usePrice : Bool

/-- The fields of `RelayInfo` that price a realtime session. `usePrice` is the field of the request
itself, which nothing in the source sets. -/
structure PriceInfo where
  originModelName : String
  upstreamModelName : String
  userGroup : String
  usingGroup : String
  usePrice : Bool
  priceData : PriceData

structure TokenRead where
  unlimitedQuota : Bool
  remainQuota : ℤ

structure WssEnv where
  setting : RatioSetting
  autoGroup : Option String
  userQuota : Option ℤ
  token : Option TokenRead
  writes : Env

/-- One connection: the billing session and its world, and the three usages of the handler. -/
structure Connection where
  billing : BillingSession
  world : World
  info : PriceInfo
  usage : RealtimeUsage
  localUsage : RealtimeUsage
  sumUsage : RealtimeUsage

def Connection.start (s : BillingSession) (w : World) (info : PriceInfo) : Connection := ⟨s,w,info,0,0,0⟩

/-- The funding source's part of `PostConsumeQuota`. -/
def consumeFunding (env : Env) (quota : ℤ) (info : RelayInfo) (w : World) : Except String (RelayInfo × World) :=
  if info.billingSource=.subscription then
    if info.subscriptionId=0 then .error "subscription id is missing"
    else if quota=0 then .ok (info,w)
    else (postConsumeDelta env.fundingFails w info.subscriptionId quota).map fun w =>
      ({ info with subscriptionPostDelta := info.subscriptionPostDelta+quota },w)
  else if 0<quota then (decreaseUserQuota env.fundingFails quota w).map fun w => (info,w)
  else (increaseUserQuota env.fundingFails (-quota) w).map fun w => (info,w)

/-- The token's part of `PostConsumeQuota`. -/
def consumeToken (env : Env) (quota : ℤ) (info : RelayInfo) (w : World) : Except String World :=
  if info.isPlayground then .ok w
  else if 0<quota then decreaseTokenQuota env.tokenFails quota w
  else increaseTokenQuota env.tokenFails (-quota) w

/-- `PostConsumeQuota` without a notification: it charges behind the back of the billing session. -/
def postConsumeQuota (env : Env) (quota : ℤ) (r : Connection) : Except String Unit × Connection :=
  match consumeFunding env quota r.billing.relayInfo r.world with
  | .error e => (.error e,r)
  | .ok (info,w₁) =>
    let r₁ : Connection := { r with billing := { r.billing with relayInfo := info }, world := w₁ }
    match consumeToken env quota info w₁ with
    | .error e => (.error e,r₁)
    | .ok w₂ => (.ok (),{ r₁ with world := w₂ })

/-- The group that pays: a group picked automatically replaces the one of the request for good. -/
def PriceInfo.regroup (info : PriceInfo) (env : WssEnv) : PriceInfo :=
  { info with usingGroup := env.autoGroup.getD info.usingGroup }

/-- What `PreWssConsumeQuota` prices a usage with: the settings of the moment. -/
def turnInfo (env : WssEnv) (info : PriceInfo) (usage : RealtimeUsage) : QuotaInfo where
  inputDetails := usage.inputTokenDetails
  outputDetails := usage.outputTokenDetails
  modelName := info.originModelName
  usePrice := info.usePrice
  modelPrice := 0
  modelRatio := env.setting.modelRatio info.originModelName
  groupRatio := (env.setting.groupGroupRatio info.userGroup (info.regroup env).usingGroup).getD
    (env.setting.groupRatio (info.regroup env).usingGroup)

def preWssConsumeQuota (cfg : Config) (env : WssEnv) (usage : RealtimeUsage) (r : Connection) :
    Except String Unit × Connection :=
  if r.info.usePrice then (.ok (),r)
  else match env.userQuota, env.token with
    | none, _ => (.error databaseError,r)
    | some _, none => (.error databaseError,r)
    | some userQuota, some token =>
      let r₁ := { r with info := r.info.regroup env }
      let quota := calculateAudioQuota cfg.quotaPerUnit env.setting (turnInfo env r.info usage)
      if userQuota<quota then
        (.error ("user quota is not enough, user quota: " ++ cfg.formatQuota userQuota ++ ", need quota: " ++
          cfg.formatQuota quota),r₁)
      else if token.unlimitedQuota=false ∧ token.remainQuota<quota then
        (.error ("token quota is not enough, token remain quota: " ++ cfg.formatQuota token.remainQuota ++
          ", need quota: " ++ cfg.formatQuota quota),r₁)
      else postConsumeQuota env.writes quota r₁

def preConsumeUsage (cfg : Config) (env : WssEnv) (usage : RealtimeUsage) (r : Connection) :
    Except String Unit × Connection :=
  preWssConsumeQuota cfg env usage { r with sumUsage := r.sumUsage+usage }

/-- What the two readers receive. The counts are those of `CountTokenRealtime`. -/
inductive Event
  | clientMessage (textToken audioToken : ℤ)
  | responseDone (env : WssEnv) (usage : RealtimeUsage)
  | responseDoneWithoutUsage (env : WssEnv) (textToken audioToken : ℤ)
  | sessionUpdated
  | targetMessage (textToken audioToken : ℤ)

def handle (cfg : Config) (r : Connection) : Event → Except String Unit × Connection
  | .clientMessage text audio => (.ok (),{ r with localUsage := r.localUsage+.ofInput text audio })
  | .responseDone env usage =>
    match preConsumeUsage cfg env (r.usage+usage) { r with usage := r.usage+usage } with
    | (.error e,r₁) => (.error ("error consume usage: " ++ e),r₁)
    | (.ok (),r₁) => (.ok (),{ r₁ with usage := 0, localUsage := 0 })
  | .responseDoneWithoutUsage env text audio =>
    let localUsage := r.localUsage+.ofInput text audio
    match preConsumeUsage cfg env localUsage { r with localUsage := localUsage } with
    | (.error e,r₁) => (.error ("error consume usage: " ++ e),r₁)
    | (.ok (),r₁) => (.ok (),{ r₁ with localUsage := 0 })
  | .sessionUpdated => (.ok (),r)
  | .targetMessage text audio => (.ok (),{ r with localUsage := r.localUsage+.ofOutput text audio })

def handleAll (cfg : Config) : List Event → Connection → Except String Unit × Connection
  | [],r => (.ok (),r)
  | e::es,r =>
    match handle cfg r e with
    | (.error m,r₁) => (.error m,r₁)
    | (.ok (),r₁) => handleAll cfg es r₁

def chargeRest (cfg : Config) (env : WssEnv) (usage : RealtimeUsage) (r : Connection) :
    Except String Unit × Connection :=
  if usage.totalTokens≠0 then preConsumeUsage cfg env usage r else (.ok (),r)

/-- The three results are those of the event loop and of the two charges after it, whose errors the
source drops. -/
structure Results where
  events : Except String Unit
  usage : Except String Unit
  localUsage : Except String Unit
  deriving DecidableEq

def Results.succeeded : Results := ⟨.ok (),.ok (),.ok ()⟩

/-- `OpenaiRealtimeHandler`, however the connection ends. -/
def openaiRealtimeHandler (cfg : Config) (events : List Event) (usageEnv localEnv : WssEnv) (r : Connection) :
    Results × Connection :=
  let (res,r₁) := handleAll cfg events r
  let (resUsage,r₂) := chargeRest cfg usageEnv r₁.usage r₁
  let (resLocal,r₃) := chargeRest cfg localEnv r₂.localUsage r₂
  (⟨res,resUsage,resLocal⟩,r₃)

/-- The quota of `PostWssConsumeQuota`: with the ratios of the request, and without the price of the
model, which it does not pass on. `tiered` is the answer of `TryTieredSettle`. -/
def postWssQuota (cfg : Config) (setting : RatioSetting) (tiered : Option ℤ) (info : PriceInfo)
    (usage : RealtimeUsage) : ℤ :=
  if usage.totalTokens=0 then 0
  else tiered.getD (calculateAudioQuota cfg.quotaPerUnit setting
    { inputDetails := usage.inputTokenDetails
      outputDetails := usage.outputTokenDetails
      modelName := info.upstreamModelName
      usePrice := info.priceData.usePrice
      modelPrice := 0
      modelRatio := info.priceData.modelRatio
      groupRatio := info.priceData.groupRatio })

/-- `PostWssConsumeQuota`, which settles the billing session of the request. -/
def postWssConsumeQuota (cfg : Config) (setting : RatioSetting) (tiered : Option ℤ) (env : Env) (r : Connection) :
    Except String Unit × Connection :=
  let out := r.billing.settle env (postWssQuota cfg setting tiered r.info r.sumUsage) r.world
  (out.1,{ r with billing := out.2.1, world := out.2.2 })

open GoStd Subscription List UserSubscription

namespace RealtimeUsage

lemma add_def (u v : RealtimeUsage) : u+v=add u v := rfl

lemma zero_def : (0 : RealtimeUsage)=⟨0,0,0,⟨0,0,0⟩,⟨0,0⟩⟩ := rfl

/-- Usages add up field by field. -/
instance : AddMonoid RealtimeUsage where
  add_assoc u v x := by simp only [add_def,add,Int.add_assoc]
  zero_add u := by simp only [add_def,add,zero_def,Int.zero_add]
  add_zero u := by simp only [add_def,add,zero_def,Int.add_zero]
  nsmul := nsmulRec
end RealtimeUsage

structure Turn where
  usage : RealtimeUsage
  completionRatio : ℚ
  audioRatio : ℚ
  audioCompletionRatio : ℚ
  ratio : ℚ

namespace Turn

def of (env : WssEnv) (info : PriceInfo) (usage : RealtimeUsage) : Turn where
  usage := usage
  completionRatio := env.setting.completionRatio info.originModelName
  audioRatio := env.setting.audioRatio info.originModelName
  audioCompletionRatio := env.setting.audioCompletionRatio info.originModelName
  ratio := (turnInfo env info usage).groupRatio*(turnInfo env info usage).modelRatio

def cost (t : Turn) : ℚ :=
  (t.usage.inputTokenDetails.textTokens+t.usage.outputTokenDetails.textTokens*t.completionRatio+
    t.usage.inputTokenDetails.audioTokens*t.audioRatio+
    t.usage.outputTokenDetails.audioTokens*t.audioRatio*t.audioCompletionRatio)*t.ratio

/-- The cost in whole units: nothing for a free model, else at least 1 for a turn without tokens. -/
def worth (t : Turn) : ℤ :=
  if t.ratio=0 then 0 else if t.cost≤0 then 1 else (t.cost+1/2).floor
end Turn

lemma quota_eq_worth (quotaPerUnit : ℚ) (env : WssEnv) {info : PriceInfo} (usage : RealtimeUsage)
    (h : info.usePrice=false) :
    calculateAudioQuota quotaPerUnit env.setting (turnInfo env info usage)=(Turn.of env info usage).worth := by
  have hinfo : (turnInfo env info usage).usePrice=false := h
  rw [calculateAudioQuota,if_neg (by simp [hinfo])]
  generalize ht : Turn.of env info usage=t
  have hqt : roundHalfAway (if t.ratio≠0 ∧ t.cost≤0 then 1 else t.cost)=t.worth := by
    unfold Turn.worth
    by_cases hfree : t.ratio=0
    · simp [hfree,Turn.cost]
    by_cases hcost : t.cost≤0
    · simp [hfree,hcost]
    have hpos : 0≤t.cost := by linarith
    simp [hfree,hcost,roundHalfAway,hpos]
  rw [← hqt,← ht]
  rfl

lemma calculateAudioQuota_nonneg (quotaPerUnit : ℚ) (setting : RatioSetting) {info : QuotaInfo}
    (h : info.modelPrice=0) : 0 ≤ calculateAudioQuota quotaPerUnit setting info := by
  unfold calculateAudioQuota
  split
  · simp [h]
  apply roundHalfAway_nonneg
  split
  · norm_num
  next hcost =>
  rw [not_and_or,not_not] at hcost
  rcases hcost with hrt | hcost
  · simp [hrt]
  · exact (not_le.mp hcost).le

lemma postWssQuota_nonneg (cfg : Config) (setting : RatioSetting) (info : PriceInfo) (usage : RealtimeUsage) :
    0≤postWssQuota cfg setting none info usage := by
  unfold postWssQuota
  split
  · exact Int.le_refl 0
  · exact calculateAudioQuota_nonneg _ _ rfl

lemma worth_nonneg (t : Turn) : 0≤t.worth := by
  unfold Turn.worth
  split
  · exact Int.le_refl 0
  split
  · decide
  next hcost =>
  rw [Rat.le_floor_iff]
  push_cast
  linarith

/-- What is charged for a stream of events: the usage of each turn, and what was counted locally where
the upstream sent none or the connection ended. -/
def turns : PriceInfo → RealtimeUsage → List Event → WssEnv → List Turn
  | info,rest,[],closing => if rest.totalTokens≠0 then [.of closing info rest] else []
  | info,rest,.clientMessage text audio::es,closing => turns info (rest+.ofInput text audio) es closing
  | info,_,.responseDone env usage::es,closing => .of env info usage::turns (info.regroup env) 0 es closing
  | info,rest,.responseDoneWithoutUsage env text audio::es,closing =>
    .of env info (rest+.ofInput text audio)::turns (info.regroup env) 0 es closing
  | info,rest,.sessionUpdated::es,closing => turns info rest es closing
  | info,rest,.targetMessage text audio::es,closing => turns info (rest+.ofOutput text audio) es closing

def charges (ts : List Turn) : ℤ := (ts.map Turn.worth).sum
def summed (ts : List Turn) : RealtimeUsage := (ts.map Turn.usage).sum

lemma charges_cons (t : Turn) (ts : List Turn) : charges (t::ts)=t.worth+charges ts := by
  rw [charges,map_cons,sum_cons,← charges]

lemma summed_cons (t : Turn) (ts : List Turn) : summed (t::ts)=t.usage+summed ts := by
  rw [summed,map_cons,sum_cons,← summed]

lemma charges_nonneg (ts : List Turn) : 0 ≤ charges ts := by
  induction ts with
  | nil => exact Int.le_refl 0
  | cons t ts ih =>
    have ht := worth_nonneg t
    rw [charges_cons]
    omega

/-- The accounts of an open billing session from which `total` was charged behind its back. A
subscription's counter is exact if it was not negative before and does not overflow. -/
def Due (w₀ : World) (s : BillingSession) (total : ℤ) (w : World) : Prop :=
  match s.funding with
  | .wallet _ => w₀.wallet-w.wallet=s.preConsumedQuota+total
  | .subscription f => ∃ sub, w.db.find f.subscriptionId=some sub ∧
      (0≤base f → base f+s.preConsumedQuota+total<2^63 → sub.amountUsed=base f+s.preConsumedQuota+total)

def Linked (s : BillingSession) (info : RelayInfo) : Prop :=
  match s.funding with
  | .wallet _ => info.billingSource=.wallet
  | .subscription f => info.billingSource=.subscription ∧ info.subscriptionId=f.subscriptionId

variable {w₀ w w' : World} {s : BillingSession} {total quota : ℤ} {info info' : RelayInfo} {env : Env}
lemma due_of_opened (h : Opened w₀ s w) : Due w₀ s 0 w ∧ Linked s s.relayInfo := by
  have hb := h.backed
  unfold Backed at hb
  unfold Due Linked
  cases hf : s.funding with
  | wallet consumed =>
    simp only [hf] at hb ⊢
    exact ⟨by omega,hb.1⟩
  | subscription f =>
    simp only [hf] at hb ⊢
    obtain ⟨hsour,-,hid,hsub⟩ := hb
    obtain ⟨sub,hfind,hcoun⟩ := hsub.row
    have hnonn := h.nonneg
    refine ⟨⟨sub,hfind,fun hbase hlt => ?_⟩,hsour,hid⟩
    rw [hcoun.used,wrap64_of_bounds (by omega) (by omega)]
    omega

lemma consumeFunding_due (hpre : 0 ≤ s.preConsumedQuota) (htl : 0≤total) (hqt : 0≤quota) (hdue : Due w₀ s total w)
    (hlink : Linked s info) (h : consumeFunding env quota info w=.ok (info',w')) :
    Due w₀ s (total+quota) w' ∧ Linked s info' := by
  unfold Due Linked at *
  unfold consumeFunding at h
  cases hf : s.funding with
  | wallet consumed =>
    simp only [hf] at hdue hlink ⊢
    rw [if_neg (by simp [hlink])] at h
    split at h
    all_goals
      obtain ⟨w₁,hw,heq⟩ := map_eq_ok h
      cases heq
      obtain ⟨-,-,rfl⟩ := changeQuota_eq_ok.mp hw
      exact ⟨by simp only; omega,hlink⟩
  | subscription f =>
    simp only [hf] at hdue hlink ⊢
    obtain ⟨hsour,hid⟩ := hlink
    obtain ⟨sub,hfind,hused⟩ := hdue
    rw [if_pos hsour] at h
    split at h
    · cases h
    split at h
    next hzero =>
      cases h
      exact ⟨⟨sub,hfind,by simpa [hzero] using hused⟩,hsour,hid⟩
    next hne =>
    obtain ⟨w₁,hw,heq⟩ := map_eq_ok h
    cases heq
    obtain ⟨-,db,hpost,rfl⟩ := postConsumeDelta_eq_ok.mp hw
    rw [hid] at hpost
    rcases postConsume_cases hpost with ⟨h0,-⟩ | ⟨sub',hfnd',rfl,-⟩
    · exact absurd h0 hne
    cases hfind.symm.trans hfnd'
    refine ⟨⟨_,SubDB.find_save_self hfind _ rfl,fun hbase hlt => ?_⟩,hsour,hid⟩
    have hused := hused hbase (by omega)
    simp only [newUsed]
    rw [wrap64_of_bounds (by omega) (by omega),if_neg (by omega)]
    omega

lemma consumeToken_due (hdue : Due w₀ s total w) (h : consumeToken env quota info w=.ok w') : Due w₀ s total w' := by
  have htkn : ∃ t, w'={ w with token := t } := by
    unfold consumeToken at h
    split at h
    · cases h
      exact ⟨w.token,rfl⟩
    split at h
    all_goals
      obtain ⟨-,-,rfl⟩ := changeQuota_eq_ok.mp h
      exact ⟨_,rfl⟩
  obtain ⟨t,rfl⟩ := htkn
  exact hdue

/-- The billing session and the world of a connection whose turns so far were charged `total`. -/
structure Charged (w₀ : World) (s : BillingSession) (total : ℤ) (billing : BillingSession) (w : World) : Prop where
  session : ∃ info, billing={ s with relayInfo := info } ∧ Linked s info
  nonneg : 0≤total
  due : Due w₀ s total w

structure Unsettled (s : BillingSession) : Prop where
  settled : s.settled=false
  fundingSettled : s.fundingSettled=false
  pre_nonneg : 0 ≤ s.preConsumedQuota

variable {cfg : Config} {env : WssEnv} {usage : RealtimeUsage} {r r' : Connection}
lemma postConsumeQuota_charged {env : Env} (h : postConsumeQuota env quota r=(.ok (),r'))
    (hs : Unsettled s) (hqt : 0≤quota) (hr : Charged w₀ s total r.billing r.world) :
    Charged w₀ s (total+quota) r'.billing r'.world ∧ ∃ billing w, r'={ r with billing := billing, world := w } := by
  obtain ⟨info,hbill,hlink⟩ := hr.session
  have hnonn := hr.nonneg
  unfold postConsumeQuota at h
  split at h
  · cases h
  next info' w₁ hfund =>
  simp only at h
  rw [hbill] at hfund
  obtain ⟨hdue,hlnk'⟩ := consumeFunding_due hs.pre_nonneg hnonn hqt hr.due hlink hfund
  split at h
  · cases h
  next w₂ htkn =>
  cases h
  refine ⟨⟨⟨info',?_,hlnk'⟩,by omega,consumeToken_due hdue htkn⟩,_,_,rfl⟩
  simp only [hbill]

lemma preConsumeUsage_charged (h : preConsumeUsage cfg env usage r=(.ok (),r')) (hs : Unsettled s)
    (hprc : r.info.usePrice=false) (hr : Charged w₀ s total r.billing r.world) :
    Charged w₀ s (total+(Turn.of env r.info usage).worth) r'.billing r'.world ∧ ∃ billing w, r'={ r with
        billing := billing
        world := w
        info := r.info.regroup env
        sumUsage := r.sumUsage+usage } := by
  unfold preConsumeUsage preWssConsumeQuota at h
  rw [if_neg (by simp [hprc])] at h
  split at h
  · cases h
  · cases h
  next =>
    simp only [quota_eq_worth cfg.quotaPerUnit env usage hprc] at h
    split at h
    · cases h
    split at h
    · cases h
    exact postConsumeQuota_charged h hs (worth_nonneg _) hr

/-- What was charged and summed up, with what the remaining events will add, is what the whole stream
amounts to. -/
structure Tracks (w₀ : World) (s : BillingSession) (price : PriceInfo) (closing : WssEnv) (ts : List Turn)
    (es : List Event) (r : Connection) : Prop where
  charged : ∃ total, Charged w₀ s total r.billing r.world ∧
    total+charges (turns r.info r.localUsage es closing)=charges ts
  sum : r.sumUsage+summed (turns r.info r.localUsage es closing)=summed ts
  cleared : r.usage=0
  ratios : r.info.usePrice=false
  upstream : r.info.upstreamModelName=price.upstreamModelName
  priceData : r.info.priceData=price.priceData

variable {price : PriceInfo} {closing usageEnv : WssEnv} {ts : List Turn} {es : List Event}
lemma Tracks.handle {e : Event} (hs : Unsettled s) (hr : Tracks w₀ s price closing ts (e::es) r)
    (h : handle cfg r e=(.ok (),r')) : Tracks w₀ s price closing ts es r' := by
  obtain ⟨⟨total,hchar,htl⟩,hsum,hcle,hprc,hup,hdata⟩ := hr
  cases e with
  | clientMessage text audio | sessionUpdated | targetMessage text audio =>
    cases h
    exact ⟨⟨total,hchar,htl⟩,hsum,hcle,hprc,hup,hdata⟩
  | responseDone env usage =>
    rw [turns,charges_cons] at htl
    rw [turns,summed_cons,← add_assoc] at hsum
    simp only [Realtime.handle,hcle,zero_add] at h
    split at h
    · cases h
    next r₁ hpre =>
    cases h
    obtain ⟨hchr',billing,w,rfl⟩ := preConsumeUsage_charged hpre hs hprc hchar
    exact ⟨⟨_,hchr',(Int.add_assoc _ _ _).trans htl⟩,hsum,rfl,hprc,hup,hdata⟩
  | responseDoneWithoutUsage env text audio =>
    rw [turns,charges_cons] at htl
    rw [turns,summed_cons,← add_assoc] at hsum
    simp only [Realtime.handle] at h
    split at h
    · cases h
    next r₁ hpre =>
    cases h
    obtain ⟨hchr',billing,w,rfl⟩ := preConsumeUsage_charged hpre hs hprc hchar
    exact ⟨⟨_,hchr',(Int.add_assoc _ _ _).trans htl⟩,hsum,hcle,hprc,hup,hdata⟩

lemma Tracks.handleAll (hs : Unsettled s) (hr : Tracks w₀ s price closing ts es r)
    (h : handleAll cfg es r=(.ok (),r')) : Tracks w₀ s price closing ts [] r' := by
  induction es generalizing r with
  | nil =>
    cases h
    exact hr
  | cons e es ih =>
    simp only [Realtime.handleAll] at h
    split at h
    · cases h
    next r₁ hhand => exact ih (hr.handle hs hhand) h

structure Served (w₀ : World) (s : BillingSession) (price : PriceInfo) (ts : List Turn) (r : Connection) : Prop where
  charged : Charged w₀ s (charges ts) r.billing r.world
  sum : r.sumUsage=summed ts
  upstream : r.info.upstreamModelName=price.upstreamModelName
  priceData : r.info.priceData=price.priceData

lemma Tracks.chargeRest (hs : Unsettled s) (hr : Tracks w₀ s price closing ts [] r)
    (h : chargeRest cfg closing r.localUsage r=(.ok (),r')) : Served w₀ s price ts r' := by
  obtain ⟨⟨total,hchar,htl⟩,hsum,-,hprc,hup,hdata⟩ := hr
  rw [Realtime.chargeRest] at h
  rw [turns] at htl hsum
  split at h
  next hrest =>
    rw [if_pos hrest,charges_cons] at htl
    rw [if_pos hrest,summed_cons,← add_assoc] at hsum
    obtain ⟨hchr',billing,w,rfl⟩ := preConsumeUsage_charged h hs hprc hchar
    refine ⟨?_,(add_zero _).symm.trans hsum,hup,hdata⟩
    rw [← htl,← Int.add_assoc]
    exact (Int.add_zero _).symm ▸ hchr'
  next hrest =>
  rw [if_neg hrest] at htl hsum
  cases h
  refine ⟨?_,(add_zero _).symm.trans hsum,hup,hdata⟩
  rw [← htl]
  exact (Int.add_zero _).symm ▸ hchar

lemma handler_served (hs : Unsettled s) (hr : Tracks w₀ s price closing ts es r)
    (h : openaiRealtimeHandler cfg es usageEnv closing r=(.succeeded,r')) : Served w₀ s price ts r' := by
  unfold openaiRealtimeHandler at h
  rcases hall : handleAll cfg es r with ⟨res,r₁⟩
  rcases hlocal : chargeRest cfg closing r₁.localUsage r₁ with ⟨resLocal,r₃⟩
  have hnone : ∀ u : RealtimeUsage, u=0 → chargeRest cfg usageEnv u r₁=(.ok (),r₁) := by
    rintro u rfl
    rfl
  simp only [hall] at h
  cases res with
  | error e =>
    have heven := congrArg (fun out => out.1.events) h
    cases heven
  | ok =>
    have hr₁ := hr.handleAll hs hall
    rw [hnone _ hr₁.cleared] at h
    simp only [hlocal] at h
    obtain ⟨hres,rfl⟩ := Prod.mk.inj h
    obtain ⟨-,-,rfl⟩ := Results.mk.inj hres
    exact hr₁.chargeRest hs hlocal

variable {env : Env}
lemma settle_eq_ok (hs : s.settled=false) (hs' : s.fundingSettled=false) (h : (s.settle env quota w).1=.ok ()) :
    ∃ w₁ token, s.funding.settle env.fundingFails (quota-s.preConsumedQuota) w=.ok w₁ ∧
      (s.settle env quota w).2.2={ w₁ with token := token } := by
  unfold BillingSession.settle at h ⊢
  rw [if_neg (by simp [hs])] at h ⊢
  simp only [hs',Bool.false_eq_true,if_false] at h ⊢
  split at h
  next hzero =>
    refine ⟨w,w.token,?_,by rw [if_pos hzero]⟩
    rw [hzero]
    cases s.funding <;> rfl
  next hdlt =>
  rw [if_neg hdlt]
  split at h
  · cases h
  next w₁ hfund =>
  split at h
  · cases h
  next w₂ htkn =>
    exact ⟨w₁,_,hfund,settleToken_eq_ok htkn⟩

/-- No charge is lost to a clamp: the subscription's counter was not negative and does not overflow. -/
def CounterFits (s : BillingSession) (total quota : ℤ) : Prop :=
  match s.funding with
  | .wallet _ => True
  | .subscription f => 0≤base f ∧ base f+total+max s.preConsumedQuota quota<2^63

lemma taken_of_settle (hs : Unsettled s) (hdue : Due w₀ s total w) (htl : 0≤total) (hqt : 0≤quota)
    (hfits : CounterFits s total quota) {fails : Bool}
    (h : s.funding.settle fails (quota-s.preConsumedQuota) w=.ok w') : fundingTaken w₀ s.funding w'=quota+total := by
  have hpre := hs.pre_nonneg
  unfold Due at hdue
  unfold CounterFits at hfits
  unfold FundingSource.settle at h
  cases hf : s.funding with
  | wallet consumed =>
    simp only [hf] at hdue h
    unfold fundingTaken
    simp only
    split at h
    · cases h
      omega
    split at h
    all_goals
      obtain ⟨-,-,rfl⟩ := changeQuota_eq_ok.mp h
      simp only
      omega
  | subscription f =>
    simp only [hf] at hdue h hfits
    obtain ⟨hbase,hfits⟩ := hfits
    obtain ⟨sub,hfind,hused⟩ := hdue
    have hused := hused hbase (by omega)
    split at h
    next hzero =>
      cases h
      refine fundingTaken_of_find w₀ hfind ?_ (by omega) (by omega)
      rw [wrap64_of_bounds (by omega) (by omega)]
      omega
    next hdlt =>
    obtain ⟨-,db,hpost,rfl⟩ := postConsumeDelta_eq_ok.mp h
    rcases postConsume_cases hpost with ⟨h0,-⟩ | ⟨sub',hfnd',rfl,-⟩
    · exact absurd h0 hdlt
    cases hfind.symm.trans hfnd'
    refine fundingTaken_of_find w₀ (SubDB.find_save_self hfind _ rfl) ?_ (by omega) (by omega)
    simp only [newUsed]
    rw [wrap64_of_bounds (by omega) (by omega),wrap64_of_bounds (by omega) (by omega),if_neg (by omega)]
    omega

lemma unsettled_of_opened (h : Opened w₀ s w) : Unsettled s :=
  ⟨h.settled,h.fundingSettled,h.nonneg⟩

lemma realtime_taken (hopen : Opened w₀ s w) (hprc : price.usePrice=false) {events : List Event} {localEnv : WssEnv}
    (hsrv : openaiRealtimeHandler cfg events usageEnv localEnv (.start s w price)=(.succeeded,r))
    {setting : RatioSetting} (hsett : postWssConsumeQuota cfg setting none env r=(.ok (),r'))
    (hfits : CounterFits s (charges (turns price 0 events localEnv))
      (postWssQuota cfg setting none price (summed (turns price 0 events localEnv)))) :
    fundingTaken w₀ s.funding r'.world = postWssQuota cfg setting none price (summed (turns price 0 events localEnv))+
        charges (turns price 0 events localEnv) := by
  have hs := unsettled_of_opened hopen
  obtain ⟨hdue,hlink⟩ := due_of_opened hopen
  have hstr : Tracks w₀ s price localEnv (turns price 0 events localEnv) events (.start s w price) :=
    ⟨⟨0,⟨⟨s.relayInfo,rfl,hlink⟩,Int.le_refl 0,hdue⟩,Int.zero_add _⟩,zero_add _,rfl,hprc,rfl,rfl⟩
  obtain ⟨hchar,hsum,hup,hdata⟩ := handler_served hs hstr hsrv
  obtain ⟨info,hbill,-⟩ := hchar.session
  have hqt : postWssQuota cfg setting none r.info r.sumUsage =
      postWssQuota cfg setting none price (summed (turns price 0 events localEnv)) := by simp only [postWssQuota,hsum,hup,hdata]
  rw [postWssConsumeQuota,hqt,hbill] at hsett
  obtain ⟨hok,rfl⟩ := Prod.mk.inj hsett
  obtain ⟨w₁,token,hfund,hw⟩ := settle_eq_ok (s := { s with relayInfo := info }) hs.settled hs.fundingSettled hok
  simp only [hw]
  rw [(fundingTaken_token w₀ s.funding w₁ token).1]
  exact taken_of_settle hs hchar.due hchar.nonneg (postWssQuota_nonneg _ _ _ _) hfits hfund

def walletInfo : RelayInfo where
  userId := 1
  requestId := "request"
  tokenQuota := 5000
  billingPreference := "wallet_only"

def walletWorld : World := ⟨5000,5000,⟨[],[],1⟩⟩

def walletConfig : Config := ⟨500000,fun _ => ""⟩

def quiet : Env := ⟨false,some 5000,false,false,false⟩

def walletOpen : OpenEnv := ⟨some 5000,quiet,quiet,⟨utc,fun _ => none,1,0⟩,0,false,false⟩

section
variable (modelRatio : ℚ)
def flat : RatioSetting := ⟨fun _ => 1,fun _ => 1,fun _ => 1,fun _ => modelRatio,fun _ => 1,fun _ _ => none⟩

def flatEnv : WssEnv := ⟨flat modelRatio,none,some 5000,some ⟨false,5000⟩,quiet⟩

def flatPrice : PriceInfo := ⟨"realtime","realtime","default","default",false,⟨modelRatio,1,false⟩⟩

def oneTurn : List Event := [.responseDone (flatEnv modelRatio) ⟨150,100,50,⟨0,100,0⟩,⟨50,0⟩⟩]

def serveOne (s : BillingSession) (w : World) : Results × Connection :=
  openaiRealtimeHandler walletConfig (oneTurn modelRatio) (flatEnv modelRatio) (flatEnv modelRatio)
    (.start s w (flatPrice modelRatio))

def settleOne (s : BillingSession) (w : World) : Except String Unit × Connection :=
  postWssConsumeQuota walletConfig (flat modelRatio) none quiet (serveOne modelRatio s w).2
end

end AronaApi.Realtime
