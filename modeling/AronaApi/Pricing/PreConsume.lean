import AronaApi.Lib.GoStd
import AronaApi.Billing.Ledger
import AronaApi.Pricing.Helper

/-! The text requests that are priced by tokens (`relay/helper/valid_request.go`, `dto`): what is checked
before a request is priced, and the token limit that goes into its estimate.

When the quota to pre-consume is not negative. The limit of a request is an unsigned number that is
added to the estimate as an `int`, and a wallet that opens with a negative amount pays for it at the end. -/
namespace AronaApi.Pricing
open GoStd

inductive Any
  | null
  | text (s : String)
  | other
  deriving DecidableEq

inductive RelayMode
  | completions | chatCompletions | embeddings | moderations | edits | other

/-- `GeneralOpenAIRequest`. -/
structure TextRequest where
  model : String
  maxTokens : Option UInt64
  maxCompletionTokens : Option UInt64
  /-- `SearchContextSize` of the web search options. -/
  webSearchOptions : Option String
  prompt : Any
  messages : ℕ
  fimPrefix : Any
  fimSuffix : Any
  input : Any
  instruction : String

structure ClaudeRequest where
  model : String
  messages : ℕ
  maxTokens : Option UInt64

structure ResponsesRequest where
  model : String
  input : Any
  maxOutputTokens : Option UInt64

inductive Request
  | openai (relayMode : RelayMode) (paramModel : String) (r : TextRequest)
  | claude (r : ClaudeRequest)
  | responses (r : ResponsesRequest)

/-- The default of `SearchContextSize`, or none if it is not one of the three. -/
def searchContextSize (size : String) : Option String :=
  if size = "" then some "medium" else if size∈["high","medium","low"] then some size else none

def checkMode (relayMode : RelayMode) (r : TextRequest) : Except String TextRequest :=
  match relayMode with
  | .completions => if r.prompt=.text "" then .error "field prompt is required" else .ok r
  | .chatCompletions =>
    if r.messages=0 ∧ r.fimPrefix=.null ∧ r.fimSuffix=.null then .error "field messages is required" else .ok r
  | .moderations => if r.input=.null ∨ r.input=.text "" then .error "field input is required" else .ok r
  | .edits => if r.instruction = "" then .error "field instruction is required" else .ok r
  | .embeddings | .other => .ok r

def defaultModel (relayMode : RelayMode) (paramModel model : String) : String :=
  if model ≠ "" then model
  else match relayMode with
    | .moderations => "text-moderation-latest"
    | .embeddings => paramModel
    | _ => ""

/-- Only `max_tokens` has a limit, half of `math.MaxInt32`. -/
def getAndValidateTextRequest (relayMode : RelayMode) (paramModel : String) (r : TextRequest) :
    Except String TextRequest :=
  let r := { r with model := defaultModel relayMode paramModel r.model }
  if 1073741823<(r.maxTokens.getD 0).toNat then .error "max_tokens is invalid"
  else if r.model = "" then .error "model is required"
  else match r.webSearchOptions with
    | none => checkMode relayMode r
    | some size =>
      match searchContextSize size with
      | none => .error "invalid search_context_size, must be one of: high, medium, low"
      | some size => checkMode relayMode { r with webSearchOptions := some size }

def getAndValidateClaudeRequest (r : ClaudeRequest) : Except String ClaudeRequest :=
  if r.messages=0 then .error "field messages is required"
  else if r.model = "" then .error "field model is required"
  else .ok r

def getAndValidateResponsesRequest (r : ResponsesRequest) : Except String ResponsesRequest :=
  if r.model = "" then .error "model is required"
  else if r.input=.null then .error "input is required"
  else .ok r

def getAndValidateRequest : Request → Except String Request
  | .openai relayMode paramModel r =>
    (getAndValidateTextRequest relayMode paramModel r).map (.openai relayMode paramModel)
  | .claude r => (getAndValidateClaudeRequest r).map .claude
  | .responses r => (getAndValidateResponsesRequest r).map .responses

def Request.limit : Request → UInt64
  | .openai _ _ r =>
    let maxCompletionTokens := r.maxCompletionTokens.getD 0
    let maxTokens := r.maxTokens.getD 0
    if maxCompletionTokens > maxTokens then maxCompletionTokens else maxTokens
  | .claude r => r.maxTokens.getD 0
  | .responses r => r.maxOutputTokens.getD 0

/-- `MaxTokens` of `TokenCountMeta`, in `fastTokenCountMetaForPricing` and in `GetTokenCountMeta` alike:
the limit converted to `int`. -/
def Request.maxTokens (r : Request) : ℤ := wrap64 r.limit.toNat

open Decimal Billing FloatArith BillingSession Request
variable {cfg : Config} {env : OpenEnv} {info : RelayInfo} {quota : ℤ} {w w₁ : World} {session : BillingSession}
/-- A wallet that opens with `quota` and settles has lost the actual quota. -/
def ChargesActual (quota : ℤ) : Prop :=
  ∀ (cfg : Config) (env : OpenEnv) (info : RelayInfo) (w w₁ w₂ : World) (session settled : BillingSession)
    (settleEnv : Env) (actual : ℕ), tryWallet cfg env info quota w=some (.ok session,w₁) →
      session.settle settleEnv actual w₁=(.ok (),settled,w₂) → w.wallet-w₂.wallet=actual

lemma wallet_preConsume {wenv : Env} {penv : PlanEnv} (hqt : 0≤quota)
    (h : (fresh info (.wallet 0)).preConsume cfg wenv penv quota w=some (.ok session,w₁)) :
    session.settled=false ∧ session.fundingSettled=false ∧ (∃ consumed, session.funding=.wallet consumed) ∧
      w.wallet-w₁.wallet=session.preConsumedQuota := by
  unfold preConsume at h
  simp only at h
  generalize heff : (if (fresh info (.wallet 0)).shouldTrust cfg=true then (0 : ℤ) else quota) = effective at h
  have hnonn : 0≤effective := by split at heff <;> omega
  split at h
  · cases h
  next w₀ htkn =>
  have hwal : w₀.wallet=w.wallet := by
    split at htkn
    · rw [preConsumeTokenQuota_eq_ok htkn]
    cases htkn
    rfl
  obtain ⟨out,hfund,hout⟩ := Option.map_eq_some_iff.mp h
  cases out with
  | error message => cases hout
  | ok taken =>
    cases hout
    have htaken : (∃ consumed, taken.1=.wallet consumed) ∧ w₀.wallet-taken.2.wallet=effective := by
      simp only [fresh,FundingSource.preConsume] at hfund
      split at hfund
      · cases hfund
        exact ⟨⟨0,rfl⟩,by simp only; omega⟩
      obtain ⟨w₂,htake,rfl⟩ := map_eq_ok (Option.some.inj hfund)
      obtain ⟨-,-,rfl⟩ := changeQuota_eq_ok.mp htake
      exact ⟨⟨effective,rfl⟩,by simp only; omega⟩
    obtain ⟨⟨consumed,hwall⟩,hlost⟩ := htaken
    obtain ⟨info',hsync,-⟩ := sync_eq (s := { fresh info (.wallet 0) with
      funding := taken.1
      trusted := (fresh info (.wallet 0)).shouldTrust cfg
      tokenConsumed := if 0<effective then effective else (fresh info (.wallet 0)).tokenConsumed
      preConsumedQuota := effective })
    rw [hsync]
    refine ⟨rfl,rfl,⟨consumed,hwall⟩,?_⟩
    simp only
    omega

lemma chargesActual_of_nonneg (hqt : 0≤quota) : ChargesActual quota := by
  intro cfg env info w w₁ w₂ session settled settleEnv actual hopen hsett
  have hope : session.settled=false ∧ session.fundingSettled=false ∧
      (∃ consumed, session.funding=.wallet consumed) ∧ w.wallet-w₁.wallet=session.preConsumedQuota := by
    unfold tryWallet at hopen
    split at hopen
    · cases hopen
    split at hopen
    · cases hopen
    split at hopen
    · cases hopen
    · exact wallet_preConsume hqt hopen
  obtain ⟨hs,hfs,⟨consumed,hfnd⟩,htaken⟩ := hope
  unfold settle at hsett
  rw [if_neg (by simp [hs])] at hsett
  simp only [hfs,hfnd,Bool.false_eq_true,if_false] at hsett
  split at hsett
  next hzero =>
    cases hsett
    omega
  next hdlt =>
  split at hsett
  · cases hsett
  next w₃ hfund =>
  have hw₃ : w₁.wallet-w₃.wallet=actual-session.preConsumedQuota := by
    simp only [FundingSource.settle] at hfund
    rw [if_neg hdlt] at hfund
    split at hfund
    all_goals
      obtain ⟨-,-,rfl⟩ := changeQuota_eq_ok.mp hfund
      simp only
      omega
  split at hsett
  · cases hsett
  next w₄ htkn =>
  cases hsett
  rw [settleToken_eq_ok htkn]
  simp only
  omega

/-- Prices and ratios are not negative, and no expression is for requests that have no negative count. -/
structure Settings.Nonneg {RequestInput : Type} (s : Settings RequestInput) : Prop where
  modelRatio : ∀ name, 0≤(s.modelRatio name).1
  modelPrice : ∀ name price, s.modelPrice name=some price → 0≤price
  groupRatio : ∀ group, 0 ≤ s.groupRatio group
  groupGroupRatio : ∀ userGroup group ratio, s.groupGroupRatio userGroup group=some ratio → 0 ≤ ratio
  quotaPerUnit : 0 ≤ s.quotaPerUnit
  runExpr : ∀ expr p c input cost tier, 0≤p → 0 ≤ c →
    s.runExpr expr ⟨p,c,p,0,0,0,0,0,0,0⟩ input=.ok (cost,tier) → 0 ≤ cost

section
variable {RequestInput : Type} (s : Settings RequestInput) (info priced : PriceInfo RequestInput)
  {promptTokens maxTokens : ℤ}

def tokenEstimate (promptTokens maxTokens : ℤ) : ℤ :=
  if s.isTieredExpr info.originModelName then maxTokens
  else if (s.modelPrice info.originModelName).isSome then 0
  else preConsumedTokens s promptTokens maxTokens

def exactCost (promptTokens maxTokens : ℤ) : ℚ :=
  let ratio := priced.priceData.groupRatioInfo
  if s.isTieredExpr priced.originModelName then
    match priced.tieredBillingSnapshot with
    | none => 0
    | some snap => roundHalfAway (s.float.mul snap.estimatedQuotaBeforeGroup ratio.groupRatio)
  else if priced.priceData.usePrice then priceCost s ratio priced.priceData.modelPrice
  else ratioCost s priced ratio (preConsumedTokens s promptTokens maxTokens)

/-- The limit survives the conversion to `int` and the addition. -/
def LimitFits (promptTokens : ℤ) (limit : ℕ) : Prop :=
  if s.isTieredExpr info.originModelName then limit<2^63
  else if (s.modelPrice info.originModelName).isSome then True
  else
    let tokens := max promptTokens s.preConsumedQuota
    tokens+limit<2^63 ∨ 2^64≤tokens+limit

/-- The cost fits an `int`, or the machine makes something of it that is not negative. -/
def CostFits (promptTokens maxTokens : ℤ) : Prop :=
  priced.priceData.freeModel=true ∨ intPart (exactCost s priced promptTokens maxTokens)<2^63 ∨
    0 ≤ s.float.overflow (exactCost s priced promptTokens maxTokens)

variable {s info priced} {input : Except String RequestInput}
lemma groupRatioInfo_nonneg (hs : s.Nonneg) (userGroup group : String) :
    0≤(groupRatioInfo s userGroup group).groupRatio := by
  unfold groupRatioInfo
  split
  next ratio hrt => exact hs.groupGroupRatio _ _ _ hrt
  · exact hs.groupRatio group

lemma limitFits_iff (request : Request) (hprom : 0≤promptTokens)
    (hprm' : promptTokens<2^63) (hsett : s.preConsumedQuota<2^63) :
    0≤tokenEstimate s info promptTokens request.maxTokens ↔ LimitFits s info promptTokens request.limit.toNat := by
  have hlmt := request.limit.toNat_lt
  unfold tokenEstimate LimitFits
  split
  · unfold maxTokens wrap64
    omega
  split
  · exact ⟨fun _ => trivial,fun _ => le_rfl⟩
  unfold preConsumedTokens maxTokens wrap64
  simp only
  split <;> omega

lemma tiered_spec {ratio : GroupRatioInfo}
    (h : modelPriceHelperTiered s info ratio promptTokens maxTokens input=.ok priced) :
    ∃ expr body rawCost tier freeModel, s.runExpr expr ⟨s.float.ofInt promptTokens,s.float.ofInt maxTokens,
        s.float.ofInt promptTokens,0,0,0,0,0,0,0⟩ body=.ok (rawCost,tier) ∧
      priced.originModelName=info.originModelName ∧ priced.priceData=pricedByTier ratio freeModel
        (if freeModel then 0 else quotaRound s (s.float.mul (tierCost s rawCost) ratio.groupRatio)) ∧
      ∃ snap, priced.tieredBillingSnapshot=some snap ∧ snap.estimatedQuotaBeforeGroup=tierCost s rawCost := by
  unfold modelPriceHelperTiered at h
  split at h
  · cases h
  split at h
  · cases h
  simp only at h
  split at h
  · cases h
  next rawCost tier hrun =>
  cases h
  exact ⟨_,_,rawCost,tier,_,hrun,rfl,rfl,_,rfl,rfl⟩

lemma modelPriceHelper_spec (hs : s.Nonneg) {autoGroup : Option String} (hprom : 0≤promptTokens)
    (h : modelPriceHelper s info autoGroup promptTokens maxTokens 0 input=.ok priced) :
    priced.priceData.quotaToPreConsume =
        (if priced.priceData.freeModel then 0 else s.float.toInt (exactCost s priced promptTokens maxTokens)) ∧
      (0≤tokenEstimate s info promptTokens maxTokens → 0≤exactCost s priced promptTokens maxTokens) := by
  unfold modelPriceHelper handleGroupRatio at h
  simp only at h
  have hrt := groupRatioInfo_nonneg hs info.userGroup (autoGroup.getD info.usingGroup)
  unfold tokenEstimate
  split at h
  next htier =>
    obtain ⟨expr,body,rawCost,tier,freeModel,hrun,hname,hdata,snap,hsnap,hbef⟩ := tiered_spec h
    have hcost : exactCost s priced promptTokens maxTokens = roundHalfAway (s.float.mul (tierCost s rawCost)
          (groupRatioInfo s info.userGroup (autoGroup.getD info.usingGroup)).groupRatio) := by
      unfold exactCost
      simp only at hname
      rw [if_pos (by rw [hname]; exact htier),hsnap,hdata]
      simp only [hbef,pricedByTier]
    rw [if_pos htier,hcost,hdata]
    refine ⟨rfl,fun hmax => Int.cast_nonneg (roundHalfAway_nonneg (mul_nonneg ?_ hrt))⟩
    have hraw := hs.runExpr _ _ _ _ _ _ (ofInt_nonneg hprom) (ofInt_nonneg hmax) hrun
    exact mul_nonneg (div_nonneg hraw (by decide)) hs.quotaPerUnit
  next htier =>
  rw [if_neg htier]
  split at h
  next price hprc =>
    cases h
    have hcost : exactCost s { info with
          usingGroup := autoGroup.getD info.usingGroup
          priceData := pricedByCall s (groupRatioInfo s info.userGroup (autoGroup.getD info.usingGroup)) price 0 }
        promptTokens maxTokens =
        priceCost s (groupRatioInfo s info.userGroup (autoGroup.getD info.usingGroup)) price := by
      unfold exactCost
      rw [if_neg htier]
      rfl
    refine ⟨?_,fun _ => ?_⟩
    · rw [hcost]
      rfl
    · rw [hcost]
      exact mul_nonneg (mul_nonneg (hs.modelPrice _ _ hprc) hs.quotaPerUnit) hrt
  next hprc =>
  split at h
  · cases h
  cases h
  have hcost : exactCost s { info with
        usingGroup := autoGroup.getD info.usingGroup
        priceData := pricedByRatio s { info with usingGroup := autoGroup.getD info.usingGroup }
          (groupRatioInfo s info.userGroup (autoGroup.getD info.usingGroup)) promptTokens maxTokens }
      promptTokens maxTokens =
      ratioCost s info (groupRatioInfo s info.userGroup (autoGroup.getD info.usingGroup))
        (preConsumedTokens s promptTokens maxTokens) := by
    unfold exactCost
    rw [if_neg htier]
    rfl
  refine ⟨?_,fun htok => ?_⟩
  · rw [hcost]
    rfl
  · rw [if_neg (by simp [hprc])] at htok
    rw [hcost]
    exact mul_nonneg (ofInt_nonneg htok)
      (mul_nonneg (hs.modelRatio _) hrt)

/-- The estimate and the quota to pre-consume are not negative, and a wallet session loses the actual quota,
exactly if the limit fits the addition and the cost fits an `int`. -/
theorem preConsume_proper_iff (hs : s.Nonneg) (request : Request) {autoGroup : Option String} {promptTokens : ℤ}
    {input : Except String RequestInput} (hprompt : 0≤promptTokens) (hprompt' : promptTokens<2^63)
    (hsetting : s.preConsumedQuota<2^63)
    (h : modelPriceHelper s info autoGroup promptTokens request.maxTokens 0 input=.ok priced) :
    (0≤tokenEstimate s info promptTokens request.maxTokens ∧ 0≤priced.priceData.quotaToPreConsume ∧
        ChargesActual priced.priceData.quotaToPreConsume) ↔
      LimitFits s info promptTokens request.limit.toNat ∧ CostFits s priced promptTokens request.maxTokens := by
  obtain ⟨hqt,hcost⟩ := modelPriceHelper_spec hs hprompt h
  rw [← limitFits_iff request hprompt hprompt' hsetting]
  constructor
  · rintro ⟨hest,hnonn,-⟩
    refine ⟨hest,?_⟩
    rw [hqt] at hnonn
    split at hnonn
    next hfree => exact .inl hfree
    · exact .inr ((toInt_nonneg_iff (hcost hest)).mp hnonn)
  · rintro ⟨hest,hfits⟩
    have hnonn : 0≤priced.priceData.quotaToPreConsume := by
      rw [hqt]
      split
      · exact le_rfl
      next hpaid => exact (toInt_nonneg_iff (hcost hest)).mpr (hfits.resolve_left hpaid)
    exact ⟨hest,hnonn,chargesActual_of_nonneg hnonn⟩
end

def plainSettings (f : FloatArith) : Settings Unit where
  float := f
  modelPrice _ := none
  modelRatio name := (1,true,name)
  completionRatio _ := 1
  cacheRatio _ := 1
  createCacheRatio _ := 1
  imageRatio _ := 1
  audioRatio _ := 1
  audioCompletionRatio _ := 1
  groupRatio _ := 1
  groupGroupRatio _ _ := none
  isTieredExpr _ := false
  billingExpr _ := none
  runExpr _ _ _ := .error ""
  usedVars _ _ := false
  preConsumedQuota := 500
  quotaPerUnit := 500000
  enableFreeModelPreConsume := false
  isAdmin _ := false

lemma plainSettings_nonneg (f : FloatArith) : (plainSettings f).Nonneg where
  modelRatio _ := zero_le_one
  modelPrice _ _ h := by cases h
  groupRatio _ := zero_le_one
  groupGroupRatio _ _ _ h := by cases h
  quotaPerUnit := by simp [plainSettings]
  runExpr _ _ _ _ _ _ _ _ h := by cases h

def unpriced : PriceInfo Unit := ⟨"model",1,"default","default",false,pricedByTier ⟨1,-1,false⟩ false 0,none,none,0⟩

def claudeWithLimit (maxTokens : UInt64) : Request := .claude ⟨"model",1,some maxTokens⟩

def smallRequestPriced : Except String (PriceInfo Unit) :=
  modelPriceHelper (plainSettings .ideal) unpriced none 100 (claudeWithLimit 1000).maxTokens 0 (.ok ())

/-- With a limit of 1000 tokens the quota to pre-consume is 1500. -/
theorem smallRequest_proper : ∃ priced, smallRequestPriced=.ok priced ∧
    priced.priceData.quotaToPreConsume=1500 ∧ ChargesActual priced.priceData.quotaToPreConsume := by
  obtain ⟨priced,hok,hqt,hfits⟩ := exists_of_ok (x := smallRequestPriced) (P := fun priced =>
    priced.priceData.quotaToPreConsume=1500 ∧
      intPart (exactCost (plainSettings .ideal) priced 100 (claudeWithLimit 1000).maxTokens)<2^63)
    (by decide +kernel)
  have hprop := preConsume_proper_iff (plainSettings_nonneg .ideal) (claudeWithLimit 1000) (by decide) (by decide)
    (by decide) hok
  exact ⟨priced,hok,hqt,(hprop.mpr ⟨.inl (by decide),.inr (.inl hfits)⟩).2.2⟩

def fullWorld : World := ⟨10000,10000,⟨[],[],1⟩⟩

def noFailures : Env := ⟨false,some 10000,false,false,false⟩

/-- What a wallet of 10000 loses when a session opens with `quota` and settles with `actual`. -/
def lossOf (quota actual : ℤ) : Option ℤ :=
  let env : OpenEnv := ⟨some 10000,noFailures,noFailures,⟨utc,fun _ => none,0,0⟩,0,false,false⟩
  let info : RelayInfo := ⟨1,"request",false,false,0,false,"wallet_only",0,0,.unset,0,0,0,0,0⟩
  match tryWallet ⟨500000,fun _ => ""⟩ env info quota fullWorld with
  | some (.ok session,w) =>
    match session.settle noFailures actual w with
    | (.ok (),_,w) => some (fullWorld.wallet-w.wallet)
    | _ => none
  | _ => none

/-- A limit of `2^64-1000` is accepted and makes the estimate -500, and a request that costs 100 is charged 600,
whatever the rounding. -/
theorem hugeLimit_overcharges :
    getAndValidateRequest (claudeWithLimit 18446744073709550616)=.ok (claudeWithLimit 18446744073709550616) ∧
      ∀ f, ∃ priced, modelPriceHelper (plainSettings f) unpriced none 0
          (claudeWithLimit 18446744073709550616).maxTokens 0 (.ok ())=.ok priced ∧
        priced.priceData.quotaToPreConsume = -500 ∧ lossOf priced.priceData.quotaToPreConsume 100=some 600 := by
  refine ⟨rfl,fun f => ?_⟩
  have hexc : ∀ n : ℤ, -2^53≤n → n≤2^53 → f.mul n 1=n := by
    intro n hlo hhi
    rw [mul,mul_one]
    exact f.exact n hlo hhi
  have hmax : (claudeWithLimit 18446744073709550616).maxTokens = -1000 := by decide +kernel
  have htok : preConsumedTokens (plainSettings f) 0 (-1000) = -500 := by simp [preConsumedTokens,plainSettings,wrap64]
  have hcost : ∀ ratio, ratio.groupRatio=1 → ratioCost (plainSettings f) unpriced ratio (-500) = -500 := by
    intro ratio hrt
    have hone := hexc 1 (by decide) (by decide)
    have hloss := hexc (-500) (by decide) (by decide)
    have hof := f.exact (-500) (by decide) (by decide)
    push_cast at hone hloss hof
    simp only [ratioCost,hrt,plainSettings,ofInt]
    push_cast
    rw [hone,hof,hloss]
  have hint : f.toInt (-500) = -500 := by
    have hpart : intPart (-500) = -500 := by decide +kernel
    rw [toInt,hpart,if_pos (by decide)]
  have hqt : (pricedByRatio (plainSettings f) unpriced ⟨1,-1,false⟩ 0 (-1000)).quotaToPreConsume = -500 := by
    simp only [pricedByRatio]
    rw [htok,hcost _ rfl]
    simp only [plainSettings,Bool.not_false,Bool.true_and]
    exact hint
  refine ⟨{ unpriced with priceData := pricedByRatio (plainSettings f) unpriced ⟨1,-1,false⟩ 0 (-1000) },?_,hqt,?_⟩
  · rw [hmax]
    rfl
  · rw [hqt]
    decide +kernel
end AronaApi.Pricing
