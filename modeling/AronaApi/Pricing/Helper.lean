import AronaApi.Lib.FloatArith
import AronaApi.Lib.GoStd

/-! `ModelPriceHelper` (`relay/helper/price.go`): the price data of a request and the quota to pre-consume,
by ratio, by price or by a tiered expression. -/
namespace AronaApi.Pricing
open GoStd Decimal

structure TokenParams where
  p : ℚ
  c : ℚ
  len : ℚ
  cr : ℚ
  cc : ℚ
  cc1h : ℚ
  img : ℚ
  imgO : ℚ
  ai : ℚ
  ao : ℚ

/-- The lookups of `ratio_setting`, `billing_setting` and `operation_setting`, and the expression engine.
`modelRatio` comes with whether it was found and under which name, `runExpr` returns the cost and the
matched tier. -/
structure Settings (RequestInput : Type) where
  float : FloatArith
  modelPrice : String → Option ℚ
  modelRatio : String → ℚ × Bool × String
  completionRatio : String → ℚ
  cacheRatio : String → ℚ
  createCacheRatio : String → ℚ
  imageRatio : String → ℚ
  audioRatio : String → ℚ
  audioCompletionRatio : String → ℚ
  groupRatio : String → ℚ
  groupGroupRatio : String → String → Option ℚ
  isTieredExpr : String → Bool
  billingExpr : String → Option String
  runExpr : String → TokenParams → RequestInput → Except String (ℚ × String)
  usedVars : String → String → Bool
  preConsumedQuota : ℤ
  quotaPerUnit : ℚ
  enableFreeModelPreConsume : Bool
  isAdmin : ℕ → Bool

structure GroupRatioInfo where
  groupRatio : ℚ
  groupSpecialRatio : ℚ
  hasSpecialRatio : Bool

structure PriceData where
  freeModel : Bool
  modelPrice : ℚ
  modelRatio : ℚ
  completionRatio : ℚ
  cacheRatio : ℚ
  imageRatio : ℚ
  audioRatio : ℚ
  audioCompletionRatio : ℚ
  cacheCreationRatio : ℚ
  cacheCreation5mRatio : ℚ
  cacheCreation1hRatio : ℚ
  usePrice : Bool
  groupRatioInfo : GroupRatioInfo
  otherRatios : List ℚ
  quotaToPreConsume : ℤ

structure BillingSnapshot where
  exprString : String
  groupRatio : ℚ
  estimatedPromptTokens : ℤ
  estimatedCompletionTokens : ℤ
  estimatedQuotaBeforeGroup : ℚ
  estimatedQuotaAfterGroup : ℤ
  estimatedTier : String
  quotaPerUnit : ℚ

/-- The fields of `RelayInfo` that pricing reads or writes. -/
structure PriceInfo (RequestInput : Type) where
  originModelName : String
  userId : ℕ
  userGroup : String
  usingGroup : String
  acceptUnsetRatioModel : Bool
  priceData : PriceData
  tieredBillingSnapshot : Option BillingSnapshot
  billingRequestInput : Option RequestInput
  finalPreConsumedQuota : ℤ

variable {RequestInput : Type} (s : Settings RequestInput) (info : PriceInfo RequestInput)
def modelPriceNotConfiguredError (modelName : String) : String :=
  if s.isAdmin info.userId then
    "模型 " ++ modelName ++ " 的价格未配置。请前往「系统设置 → 运营设置」开启自用模式，或在「系统设置 → 分组与模型定价设置」中为该模型配置价格；" ++
      "Model " ++ modelName ++ " price not configured. Go to System Settings → Operation Settings to enable " ++
      "self-use mode, or configure the model price in System Settings → Group & Model Pricing."
  else
    "模型 " ++ modelName ++ " 的价格尚未由管理员配置，暂时无法使用，请联系站点管理员开启该模型；" ++
      "Model " ++ modelName ++ " has not been priced by the administrator yet. Please contact the site " ++
      "administrator to enable this model."

/-- The ratio of a group for the users of `userGroup`. -/
def groupRatioInfo (userGroup usingGroup : String) : GroupRatioInfo :=
  match s.groupGroupRatio userGroup usingGroup with
  | some ratio => ⟨ratio,ratio,true⟩
  | none => ⟨s.groupRatio usingGroup,-1,false⟩

/-- `HandleGroupRatio`; `autoGroup` is from the request context. -/
def handleGroupRatio (autoGroup : Option String) : GroupRatioInfo × PriceInfo RequestInput :=
  let usingGroup := autoGroup.getD info.usingGroup
  (groupRatioInfo s info.userGroup usingGroup,{ info with usingGroup := usingGroup })

/-- The tokens that are paid in advance, an `int`. -/
def preConsumedTokens (promptTokens maxTokens : ℤ) : ℤ :=
  let tokens := max promptTokens s.preConsumedQuota
  if maxTokens≠0 then wrap64 (tokens+maxTokens) else tokens

/-- The cost of that many tokens, before it is converted to `int`. -/
def ratioCost (ratio : GroupRatioInfo) (tokens : ℤ) : ℚ :=
  s.float.mul (s.float.ofInt tokens) (s.float.mul (s.modelRatio info.originModelName).1 ratio.groupRatio)

def priceCost (ratio : GroupRatioInfo) (modelPrice : ℚ) : ℚ :=
  s.float.mul (s.float.mul modelPrice s.quotaPerUnit) ratio.groupRatio

/-- `6 / 3.75`. -/
def claudeCacheCreation1hMultiplier : ℚ := 8/5

def pricedByRatio (ratio : GroupRatioInfo) (promptTokens maxTokens : ℤ) : PriceData :=
  let name := info.originModelName
  let modelRatio := (s.modelRatio name).1
  let freeModel := !s.enableFreeModelPreConsume && (decide (ratio.groupRatio=0) || decide (modelRatio=0))
  { freeModel := freeModel
    modelPrice := -1
    modelRatio := modelRatio
    completionRatio := s.completionRatio name
    cacheRatio := s.cacheRatio name
    imageRatio := s.imageRatio name
    audioRatio := s.audioRatio name
    audioCompletionRatio := s.audioCompletionRatio name
    cacheCreationRatio := s.createCacheRatio name
    cacheCreation5mRatio := s.createCacheRatio name
    cacheCreation1hRatio := s.float.mul (s.createCacheRatio name) claudeCacheCreation1hMultiplier
    usePrice := false
    groupRatioInfo := ratio
    otherRatios := []
    quotaToPreConsume := if freeModel then 0 else
      s.float.toInt (ratioCost s info ratio (preConsumedTokens s promptTokens maxTokens)) }

def pricedByCall (ratio : GroupRatioInfo) (price imagePriceRatio : ℚ) : PriceData :=
  let modelPrice := if imagePriceRatio≠0 then s.float.mul price imagePriceRatio else price
  let freeModel := !s.enableFreeModelPreConsume && (decide (ratio.groupRatio=0) || decide (modelPrice=0))
  { freeModel := freeModel
    modelPrice := modelPrice
    modelRatio := 0
    completionRatio := 0
    cacheRatio := 0
    imageRatio := 0
    audioRatio := 0
    audioCompletionRatio := 0
    cacheCreationRatio := 0
    cacheCreation5mRatio := 0
    cacheCreation1hRatio := 0
    usePrice := true
    groupRatioInfo := ratio
    otherRatios := []
    quotaToPreConsume := if freeModel then 0 else s.float.toInt (priceCost s ratio modelPrice) }

/-- `QuotaRound`. -/
def quotaRound (q : ℚ) : ℤ := s.float.toInt (roundHalfAway q)

/-- The price data of `modelPriceHelperTiered`; the other fields are the zero values. -/
def pricedByTier (ratio : GroupRatioInfo) (freeModel : Bool) (quota : ℤ) : PriceData :=
  ⟨freeModel,0,0,0,0,0,0,0,0,0,0,false,ratio,[],quota⟩

def tierCost (rawCost : ℚ) : ℚ := s.float.mul (s.float.div rawCost 1000000) s.quotaPerUnit

def modelPriceHelperTiered (ratio : GroupRatioInfo) (promptTokens maxTokens : ℤ)
    (requestInput : Except String RequestInput) : Except String (PriceInfo RequestInput) :=
  match s.billingExpr info.originModelName with
  | none =>
    .error ("model " ++ info.originModelName ++ " is configured as tiered_expr but has no billing expression")
  | some exprString =>
    match requestInput with
    | .error e => .error e
    | .ok input =>
      let tokens : TokenParams :=
        ⟨s.float.ofInt promptTokens,s.float.ofInt maxTokens,s.float.ofInt promptTokens,0,0,0,0,0,0,0⟩
      match s.runExpr exprString tokens input with
      | .error e => .error ("model " ++ info.originModelName ++ " tiered expr run failed: " ++ e)
      | .ok (rawCost,tier) =>
        let quotaBeforeGroup := tierCost s rawCost
        let freeModel := !s.enableFreeModelPreConsume && decide (ratio.groupRatio=0)
        let quota := if freeModel then 0 else quotaRound s (s.float.mul quotaBeforeGroup ratio.groupRatio)
        .ok { info with
          priceData := pricedByTier ratio freeModel quota
          tieredBillingSnapshot := some
            ⟨exprString,ratio.groupRatio,promptTokens,maxTokens,quotaBeforeGroup,quota,tier,s.quotaPerUnit⟩
          billingRequestInput := some input }

/-- `ModelPriceHelper`; the price data is in the result's `priceData`. -/
def modelPriceHelper (autoGroup : Option String) (promptTokens maxTokens : ℤ) (imagePriceRatio : ℚ)
    (requestInput : Except String RequestInput) : Except String (PriceInfo RequestInput) :=
  let handled := handleGroupRatio s info autoGroup
  let info := handled.2
  if s.isTieredExpr info.originModelName then
    modelPriceHelperTiered s info handled.1 promptTokens maxTokens requestInput
  else match s.modelPrice info.originModelName with
    | some price => .ok { info with priceData := pricedByCall s handled.1 price imagePriceRatio }
    | none =>
      let found := (s.modelRatio info.originModelName).2
      if found.1=false ∧ info.acceptUnsetRatioModel=false then
        .error (modelPriceNotConfiguredError s info found.2)
      else .ok { info with priceData := pricedByRatio s info handled.1 promptTokens maxTokens }
end AronaApi.Pricing
