import AronaApi.Pricing.Helper

/-! The settled quota of a text request (`service/text_quota.go`, `service/tiered_settle.go`,
`pkg/billingexpr/settle.go`): what the usage of a request costs at the prices it was given. Ratios are the
decimals that the settings denote. -/
namespace AronaApi.Pricing
open Decimal

structure InputTokenDetails where
  cachedTokens : ℤ
  cachedCreationTokens : ℤ
  textTokens : ℤ
  audioTokens : ℤ
  imageTokens : ℤ
  deriving DecidableEq

structure OutputTokenDetails where
  textTokens : ℤ
  audioTokens : ℤ
  imageTokens : ℤ
  reasoningTokens : ℤ

/-- `dto.Usage`; `cost` is present if it is a number. -/
structure Usage where
  promptTokens : ℤ
  completionTokens : ℤ
  totalTokens : ℤ
  usageSemantic : String
  usageSource : String
  promptTokensDetails : InputTokenDetails
  completionTokenDetails : OutputTokenDetails
  inputTokens : ℤ
  outputTokens : ℤ
  inputTokensDetails : Option InputTokenDetails
  claudeCacheCreation5mTokens : ℤ
  claudeCacheCreation1hTokens : ℤ
  cost : Option ℚ

/-- `&dto.Usage{}`. -/
def Usage.zero : Usage := ⟨0,0,0,"","",⟨0,0,0,0,0⟩,⟨0,0,0,0⟩,0,0,none,0,0,none⟩

structure BuiltInTools where
  webSearchPreview : ℤ
  fileSearch : ℤ

/-- What the settlement reads besides the price data: the request's context, and the prices of
`operation_setting`. -/
structure TextEnv where
  responsesUsageInfo : Option BuiltInTools
  claudeWebSearchRequests : ℤ
  imageGenerationCallPrice : Option ℚ
  isOpenRouter : Bool
  finalFormatIsClaude : Bool
  estimatePromptTokens : ℤ
  webSearchPreviewPrice : String → ℚ
  webSearchPrice : ℚ
  fileSearchPrice : ℚ
  geminiInputAudioPrice : String → ℚ
  defaultModelRatio : String → Option ℚ

structure TextQuotaSummary where
  promptTokens : ℤ
  completionTokens : ℤ
  totalTokens : ℤ
  cacheTokens : ℤ
  cacheCreationTokens : ℤ
  cacheCreationTokens5m : ℤ
  cacheCreationTokens1h : ℤ
  imageTokens : ℤ
  audioTokens : ℤ
  quota : ℤ
  isClaudeUsageSemantic : Bool
  toolCallSurchargeQuota : ℚ

section
variable {RequestInput : Type} (s : Settings RequestInput) (env : TextEnv) (info : PriceInfo RequestInput)
def usageSemanticFromUsage (usage : Option Usage) : String :=
  match usage with
  | some u => if u.usageSemantic ≠ "" then u.usageSemantic else if env.finalFormatIsClaude then "anthropic" else "openai"
  | none => if env.finalFormatIsClaude then "anthropic" else "openai"

def isLegacyClaudeDerivedOpenAIUsage (usage : Usage) : Bool :=
  if env.finalFormatIsClaude then false
  else if usage.usageSource ≠ "" ∨ usage.usageSemantic ≠ "" then false
  else decide (0<usage.claudeCacheCreation5mTokens ∨ 0<usage.claudeCacheCreation1hTokens)

def hasCustomModelRatio (currentRatio : ℚ) : Bool :=
  match env.defaultModelRatio info.originModelName with
  | none => true
  | some ratio => decide (currentRatio≠ratio)

def calcOpenRouterCacheCreateTokens (usage : Usage) (priceData : PriceData) : ℤ :=
  let f := s.float
  if priceData.cacheCreationRatio=1 then 0
  else
    let quotaPrice := f.div priceData.modelRatio s.quotaPerUnit
    let promptCacheCreatePrice := f.mul quotaPrice priceData.cacheCreationRatio
    let promptCacheReadPrice := f.mul quotaPrice priceData.cacheRatio
    let completionPrice := f.mul quotaPrice priceData.completionRatio
    let rest := f.sub (f.add (f.sub (usage.cost.getD 0) (f.mul (f.ofInt usage.promptTokens) quotaPrice))
      (f.mul (f.ofInt usage.promptTokensDetails.cachedTokens) (f.sub quotaPrice promptCacheReadPrice)))
      (f.mul (f.ofInt usage.completionTokens) completionPrice)
    f.toInt (roundHalfAway (f.div rest (f.sub promptCacheCreatePrice quotaPrice)))

/-- `calculateTextToolCallSurcharge`. -/
def textToolCallSurcharge (groupRatio : ℚ) : ℚ :=
  let webSearchPreview := match env.responsesUsageInfo with
    | some tools =>
      if 0<tools.webSearchPreview then
        div16 (env.webSearchPreviewPrice info.originModelName*tools.webSearchPreview) 1000*groupRatio*s.quotaPerUnit
      else 0
    | none =>
      if "search-preview".toList.isSuffixOf info.originModelName.toList then
        div16 (env.webSearchPreviewPrice info.originModelName) 1000*groupRatio*s.quotaPerUnit
      else 0
  let claudeWebSearch := if 0<env.claudeWebSearchRequests then
    div16 env.webSearchPrice 1000*groupRatio*s.quotaPerUnit*env.claudeWebSearchRequests else 0
  let fileSearch := match env.responsesUsageInfo with
    | some tools =>
      if 0<tools.fileSearch then div16 (env.fileSearchPrice*tools.fileSearch) 1000*groupRatio*s.quotaPerUnit else 0
    | none => 0
  let imageGeneration := match env.imageGenerationCallPrice with
    | some price => price*groupRatio*s.quotaPerUnit
    | none => 0
  webSearchPreview+claudeWebSearch+fileSearch+imageGeneration

/-- Prompt tokens and cache writes: OpenRouter counts both in one number for Claude models. The source's
test of the cost against 0 compares a `float64` with an `int` and never fails. -/
def openRouterTokens (isClaude : Bool) (usage : Usage) : ℤ × ℤ :=
  let cacheCreationTokens := usage.promptTokensDetails.cachedCreationTokens
  if env.isOpenRouter && isClaude then
    let promptTokens := usage.promptTokens-usage.promptTokensDetails.cachedTokens
    let custom := info.priceData.usePrice || hasCustomModelRatio env info info.priceData.modelRatio
    let maybeTokens := calcOpenRouterCacheCreateTokens s usage info.priceData
    let cacheCreationTokens :=
      if cacheCreationTokens=0 ∧ info.priceData.cacheCreationRatio≠1 ∧ custom=false ∧ 0 ≤ maybeTokens ∧
        maybeTokens≤promptTokens then maybeTokens else cacheCreationTokens
    (promptTokens-cacheCreationTokens,cacheCreationTokens)
  else (usage.promptTokens,cacheCreationTokens)

/-- The prompt in units of plain prompt tokens; `own` says that cached tokens are not part of the prompt. -/
def weightedPrompt (own : Bool) (promptTokens cacheTokens cacheCreationTokens cacheCreation5m cacheCreation1h
    imageTokens separateAudio : ℤ) : ℚ :=
  let p := info.priceData
  let base : ℤ := promptTokens-(if own then 0 else cacheTokens+cacheCreationTokens)-imageTokens-separateAudio
  let written : ℚ :=
    if own then max (cacheCreationTokens-cacheCreation5m-cacheCreation1h) 0*p.cacheCreationRatio+
      cacheCreation5m*p.cacheCreation5mRatio+cacheCreation1h*p.cacheCreation1hRatio
    else cacheCreationTokens*p.cacheCreationRatio
  base+cacheTokens*p.cacheRatio+imageTokens*p.imageRatio+
    (if cacheCreationTokens≠0 ∨ 0<cacheCreation5m ∨ 0<cacheCreation1h then written else 0)

def quotaByRatio (own : Bool) (surcharge : ℚ) (summary : TextQuotaSummary) : ℚ :=
  let p := info.priceData
  let groupRatio := p.groupRatioInfo.groupRatio
  let ratio := p.modelRatio*groupRatio
  let audioInputPrice := env.geminiInputAudioPrice info.originModelName
  let separate := decide (summary.audioTokens≠0 ∧ 0<audioInputPrice)
  let audioInputQuota :=
    if separate then div16 audioInputPrice 1000000*summary.audioTokens*groupRatio*s.quotaPerUnit else 0
  let prompt := weightedPrompt info own summary.promptTokens summary.cacheTokens summary.cacheCreationTokens
    summary.cacheCreationTokens5m summary.cacheCreationTokens1h summary.imageTokens
    (if separate then summary.audioTokens else 0)
  let quota := ((prompt+summary.completionTokens*p.completionRatio)*ratio+surcharge+audioInputQuota)*p.otherRatios.prod
  if ratio≠0 ∧ quota≤0 then 1 else quota

def quotaByPrice (surcharge : ℚ) : ℚ :=
  let p := info.priceData
  (p.modelPrice*s.quotaPerUnit*p.groupRatioInfo.groupRatio+surcharge)*p.otherRatios.prod

def usageOrEstimate (usage : Option Usage) : Usage :=
  usage.getD { Usage.zero with promptTokens := env.estimatePromptTokens, totalTokens := env.estimatePromptTokens }

def calculateTextQuotaSummary (usage : Option Usage) : TextQuotaSummary :=
  let isClaude := decide (usageSemanticFromUsage env usage = "anthropic")
  let u := usageOrEstimate env usage
  let tokens := openRouterTokens s env info isClaude u
  let own := isClaude || isLegacyClaudeDerivedOpenAIUsage env u
  let groupRatio := info.priceData.groupRatioInfo.groupRatio
  let surcharge := textToolCallSurcharge s env info groupRatio
  let summary : TextQuotaSummary :=
    { promptTokens := tokens.1
      completionTokens := u.completionTokens
      totalTokens := u.promptTokens+u.completionTokens
      cacheTokens := u.promptTokensDetails.cachedTokens
      cacheCreationTokens := tokens.2
      cacheCreationTokens5m := u.claudeCacheCreation5mTokens
      cacheCreationTokens1h := u.claudeCacheCreation1hTokens
      imageTokens := u.promptTokensDetails.imageTokens
      audioTokens := u.promptTokensDetails.audioTokens
      quota := 0
      isClaudeUsageSemantic := isClaude
      toolCallSurchargeQuota := surcharge }
  let quota := roundHalfAway (if info.priceData.usePrice then quotaByPrice s info surcharge
    else quotaByRatio s env info own surcharge summary)
  { summary with
    quota := if summary.totalTokens=0 then 0
      else if info.priceData.modelRatio*groupRatio≠0 ∧ quota=0 then 1 else quota }

/-- `BuildTieredTokenParams`: the counts that an expression prices on their own leave the totals. -/
def buildTieredTokenParams (usage : Usage) (isClaude : Bool) (usedVars : String → Bool) : TokenParams :=
  let f := s.float
  let cr := f.ofInt usage.promptTokensDetails.cachedTokens
  let anthropic := decide (usage.usageSemantic = "anthropic")
  let cc5m := f.ofInt (if anthropic then usage.claudeCacheCreation5mTokens
    else usage.promptTokensDetails.cachedCreationTokens)
  let cc1h := if anthropic then f.ofInt usage.claudeCacheCreation1hTokens else 0
  let img := f.ofInt usage.promptTokensDetails.imageTokens
  let ai := f.ofInt usage.promptTokensDetails.audioTokens
  let imgO := f.ofInt usage.completionTokenDetails.imageTokens
  let ao := f.ofInt usage.completionTokenDetails.audioTokens
  let prompt := f.ofInt usage.promptTokens
  let minus := fun (name : String) (total part : ℚ) =>
    if isClaude=false ∧ usedVars name=true then f.sub total part else total
  let p := minus "ai" (minus "img" (minus "cc1h" (minus "cc" (minus "cr" prompt cr) cc5m) cc1h) img) ai
  let c := minus "ao" (minus "img_o" (f.ofInt usage.completionTokens) imgO) ao
  { p := max p 0
    c := max c 0
    len := if isClaude then f.add (f.add (f.add prompt cr) cc5m) cc1h else prompt
    cr := cr
    cc := cc5m
    cc1h := cc1h
    img := img
    imgO := imgO
    ai := ai
    ao := ao }

variable [Inhabited RequestInput]
/-- `TryTieredSettle`: the quota, and the quota before the group ratio if the expression could be run. -/
def tryTieredSettle (params : TokenParams) : Option (ℤ × Option ℚ) :=
  info.tieredBillingSnapshot.map fun snap =>
    match s.runExpr snap.exprString params (info.billingRequestInput.getD default) with
    | .error _ =>
      (if info.finalPreConsumedQuota≤0 then snap.estimatedQuotaAfterGroup else info.finalPreConsumedQuota,none)
    | .ok (cost,_) =>
      let before := s.float.mul (s.float.div cost 1000000) snap.quotaPerUnit
      (quotaRound s (s.float.mul before snap.groupRatio),some before)

/-- `composeTieredTextQuota`. -/
def composeTieredTextQuota (surcharge : ℚ) (tieredQuota : ℤ) (before : Option ℚ) : ℤ :=
  if surcharge=0 then tieredQuota
  else match before,info.tieredBillingSnapshot with
    | some before,some snap => roundHalfAway (before*snap.groupRatio+surcharge)
    | _,_ => tieredQuota+roundHalfAway surcharge

/-- The quota that `PostTextConsumeQuota` settles. -/
def settledTextQuota (usage : Option Usage) : ℤ :=
  let summary := calculateTextQuotaSummary s env info usage
  match usage with
  | none => summary.quota
  | some u =>
    let usedVars := fun name => match info.tieredBillingSnapshot with
      | some snap => s.usedVars snap.exprString name
      | none => false
    match tryTieredSettle s info (buildTieredTokenParams s u summary.isClaudeUsageSemantic usedVars) with
    | none => summary.quota
    | some (tieredQuota,before) => composeTieredTextQuota info summary.toolCallSurchargeQuota tieredQuota before
end

def plainText : TextEnv := ⟨none,0,none,false,false,1000,fun _ => 0,0,0,fun _ => 0,fun _ => none⟩
end AronaApi.Pricing
