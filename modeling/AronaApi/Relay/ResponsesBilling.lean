import AronaApi.Pricing.PreConsume
import AronaApi.Relay.ResponsesViaChat

/-! What the conversion of a usage keeps of its price. The details of the prompt move to a field that no
price reads, so a usage keeps its price exactly if it has none that are priced on their own. -/
namespace AronaApi.Relay
open Pricing Decimal FloatArith

variable {counter : Counter} {usage billed : Usage}
lemma usage_of_chunks {chunks : List ChatChunk} {state state' : StreamState}
    (h : chunks.foldlM streamChunk state=some state') :
    state'.usage=((chunks.filterMap ChatChunk.usage).getLast?.map usageFromChatUsage).getD state.usage := by
  induction chunks generalizing state with
  | nil =>
    cases h
    rfl
  | cons chunk rest ih =>
    rw [List.foldlM_cons] at h
    cases chunk with
    | failure => cases h
    | malformed => exact ih h
    | data reported text =>
      have hrest := ih h
      cases reported with
      | none => exact hrest
      | some usage =>
        rw [hrest,List.filterMap_cons_some (by rfl : ChatChunk.usage (.data (some usage) text)=some usage),
          List.getLast?_cons]
        cases (rest.filterMap ChatChunk.usage).getLast? with
        | none | some last => rfl

lemma billed_of_reported {answer : ChatAnswer} (hrep : answer.reported=some usage)
    (hbill : answer.billed counter=some billed) : ∃ text, billed=orCounted counter (usageFromChatUsage usage) text := by
  cases answer with
  | whole r =>
    simp only [ChatAnswer.billed,oaiChatToResponsesHandler] at hbill
    split at hbill
    · cases hbill
    cases hbill
    cases hrep
    exact ⟨r.text,rfl⟩
  | stream chunks =>
    obtain ⟨state,hst,rfl⟩ := Option.map_eq_some_iff.mp hbill
    have husg := usage_of_chunks hst
    rw [show (chunks.filterMap ChatChunk.usage).getLast? = some usage from hrep] at husg
    exact ⟨state.text,by rw [husg]; rfl⟩

abbrev chargedTokens (usage : Usage) : ℤ := usage.promptTokens+usage.completionTokens

/-- The completion that an expression sees when images or audio in the output have prices of their own. -/
def completionParam (f : FloatArith) (usage : Usage) (ownImages ownAudio : Bool) : ℚ :=
  let c := f.ofInt usage.completionTokens
  let c := if ownImages then f.sub c (f.ofInt usage.completionTokenDetails.imageTokens) else c
  max (if ownAudio then f.sub c (f.ofInt usage.completionTokenDetails.audioTokens) else c) 0

structure PlainUsage (f : FloatArith) (usage : Usage) : Prop where
  reports : (usageFromChatUsage usage).totalTokens≠0
  cached : usage.promptTokensDetails.cachedTokens=0
  image : usage.promptTokensDetails.imageTokens=0
  audio : usage.promptTokensDetails.audioTokens=0
  /-- A usage in Claude's terms counts cache writes apart from the prompt, and output images and audio in the
  completion. -/
  claude : usage.usageSemantic = "anthropic" →
    usage.claudeCacheCreation5mTokens=0 ∧ usage.claudeCacheCreation1hTokens=0 ∧
      (0<usage.promptTokensDetails.cachedCreationTokens → chargedTokens usage=0) ∧
      ∀ ownImages ownAudio, completionParam f usage ownImages ownAudio=max (f.ofInt usage.completionTokens) 0
  openai : usage.usageSemantic ≠ "anthropic" → usage.promptTokensDetails.cachedCreationTokens=0 ∧
      (usage.usageSource = "" ∧ usage.usageSemantic = "" ∧
        (0<usage.claudeCacheCreation5mTokens ∨ 0<usage.claudeCacheCreation1hTokens) → chargedTokens usage=0)

variable {RequestInput : Type} {s : Settings RequestInput} {env : TextEnv} {info : PriceInfo RequestInput}
lemma isClaude_of_chat (hform : env.finalFormatIsClaude=false) :
    decide (usageSemanticFromUsage env (some usage) = "anthropic")=decide (usage.usageSemantic = "anthropic") := by
  simp only [usageSemanticFromUsage,hform]
  split
  · rfl
  next hemp =>
  rw [not_not.mp hemp]
  decide

lemma tieredCompletion (isClaude : Bool) (usedVars : String → Bool) :
    (buildTieredTokenParams s usage isClaude usedVars).c =
      completionParam s.float usage (!isClaude && usedVars "img_o") (!isClaude && usedVars "ao") := by
  simp [buildTieredTokenParams,completionParam]

lemma PlainUsage.tieredTokenParams (h : PlainUsage s.float usage) (hrnd : s.float.Projects)
    (usedVars : String → Bool) : buildTieredTokenParams s (usageFromChatUsage usage) false usedVars =
      buildTieredTokenParams s usage (decide (usage.usageSemantic = "anthropic")) usedVars := by
  by_cases hcla : usage.usageSemantic = "anthropic"
  · obtain ⟨h5m,h1h,-,houtp⟩ := h.claude hcla
    have hcmp := houtp (usedVars "img_o") (usedVars "ao")
    simp only [completionParam] at hcmp
    simp [buildTieredTokenParams,usageFromChatUsage,Usage.zero,hcla,h.cached,h.image,h.audio,h5m,h1h,hcmp,
      ofInt_zero,hrnd.ofInt_sub_zero,hrnd.ofInt_add_zero]
  · obtain ⟨hcre,-⟩ := h.openai hcla
    simp [buildTieredTokenParams,usageFromChatUsage,Usage.zero,hcla,h.cached,h.image,h.audio,hcre,
      ofInt_zero,hrnd.ofInt_sub_zero]

def quotaOfPrompt (s : Settings RequestInput) (env : TextEnv) (info : PriceInfo RequestInput) (prompt : ℚ)
    (promptTokens completionTokens : ℤ) : ℤ :=
  let p := info.priceData
  let ratio := p.modelRatio*p.groupRatioInfo.groupRatio
  let surcharge := textToolCallSurcharge s env info p.groupRatioInfo.groupRatio
  let byRatio := ((prompt+completionTokens*p.completionRatio)*ratio+surcharge)*p.otherRatios.prod
  let quota := roundHalfAway (if p.usePrice then quotaByPrice s info surcharge
    else if ratio≠0 ∧ byRatio≤0 then 1 else byRatio)
  if promptTokens+completionTokens=0 then 0 else if ratio≠0 ∧ quota=0 then 1 else quota

def ownCache (env : TextEnv) (usage : Usage) : Bool :=
  decide (usage.usageSemantic = "anthropic") || isLegacyClaudeDerivedOpenAIUsage env usage

lemma summary_quota_eq (hrout : env.isOpenRouter=false) (hform : env.finalFormatIsClaude=false)
    (haudio : usage.promptTokensDetails.audioTokens=0) : (calculateTextQuotaSummary s env info (some usage)).quota =
      quotaOfPrompt s env info (weightedPrompt info (ownCache env usage) usage.promptTokens
        usage.promptTokensDetails.cachedTokens usage.promptTokensDetails.cachedCreationTokens
        usage.claudeCacheCreation5mTokens usage.claudeCacheCreation1hTokens usage.promptTokensDetails.imageTokens 0)
        usage.promptTokens usage.completionTokens := by
  simp [calculateTextQuotaSummary,isClaude_of_chat hform,usageOrEstimate,openRouterTokens,hrout,quotaByRatio,
    haudio,quotaOfPrompt,ownCache]

lemma weightedPrompt_plain {own : Bool} {creation creation5m creation1h : ℤ} (promptTokens : ℤ)
    (h : if own then creation≤0 ∧ creation5m=0 ∧ creation1h=0 else creation=0) :
    weightedPrompt info own promptTokens 0 creation creation5m creation1h 0 0=promptTokens := by
  cases own with
  | false =>
    obtain rfl : creation=0 := h
    simp [weightedPrompt]
  | true =>
    obtain ⟨hcre,rfl,rfl⟩ := h
    simp [weightedPrompt,hcre]

lemma summary_quota_converted (hrout : env.isOpenRouter=false) (hform : env.finalFormatIsClaude=false) :
    (calculateTextQuotaSummary s env info (some (usageFromChatUsage usage))).quota =
      quotaOfPrompt s env info usage.promptTokens usage.promptTokens usage.completionTokens := by
  rw [summary_quota_eq hrout hform rfl]
  congr 1
  apply weightedPrompt_plain
  simp [ownCache,usageFromChatUsage,Usage.zero,isLegacyClaudeDerivedOpenAIUsage]

lemma PlainUsage.summary_quota {f : FloatArith} (h : PlainUsage f usage) (hrout : env.isOpenRouter=false)
    (hform : env.finalFormatIsClaude=false) :
    (calculateTextQuotaSummary s env info (some (usageFromChatUsage usage))).quota =
      (calculateTextQuotaSummary s env info (some usage)).quota := by
  rw [summary_quota_converted hrout hform,summary_quota_eq hrout hform h.audio,h.cached,h.image]
  by_cases hchar : chargedTokens usage=0
  · simp [quotaOfPrompt,hchar]
  congr 1
  symm
  apply weightedPrompt_plain
  by_cases hcla : usage.usageSemantic = "anthropic"
  · obtain ⟨h5m,h1h,hcre,-⟩ := h.claude hcla
    have hnone := not_lt.mp (mt hcre hchar)
    simp [ownCache,hcla,h5m,h1h,hnone]
  obtain ⟨hcre,hleg⟩ := h.openai hcla
  have hown : ownCache env usage=false := by
    have := mt hleg hchar
    simp only [ownCache,isLegacyClaudeDerivedOpenAIUsage,hform,hcla]
    grind
  rw [hown]
  exact hcre

lemma summary_surcharge (usage : Option Usage) : (calculateTextQuotaSummary s env info usage).toolCallSurchargeQuota =
      textToolCallSurcharge s env info info.priceData.groupRatioInfo.groupRatio := rfl

lemma summary_isClaude (hform : env.finalFormatIsClaude=false) :
    (calculateTextQuotaSummary s env info (some usage)).isClaudeUsageSemantic =
      decide (usage.usageSemantic = "anthropic") := isClaude_of_chat hform

lemma PlainUsage.settled [Inhabited RequestInput] (h : PlainUsage s.float usage) (hrnd : s.float.Projects)
    (hrout : env.isOpenRouter=false) (hform : env.finalFormatIsClaude=false) :
    settledTextQuota s env info (some (usageFromChatUsage usage))=settledTextQuota s env info (some usage) := by
  have hcla : (calculateTextQuotaSummary s env info (some (usageFromChatUsage usage))).isClaudeUsageSemantic =
      false := by
    rw [summary_isClaude hform]
    rfl
  simp only [settledTextQuota,hcla,summary_isClaude hform,summary_surcharge,h.tieredTokenParams hrnd,
    h.summary_quota hrout hform]

/-- The usage costs the same after either handler, whatever the prices. Only channels of the type advanced
custom convert, and they send the request in the OpenAI format. -/
def KeepsPrice (f : FloatArith) (usage : Usage) : Prop :=
  ∀ (answer : ChatAnswer) (counter : Counter) (billed : Usage), answer.reported=some usage →
    answer.billed counter=some billed →
    ∀ {RequestInput : Type} [Inhabited RequestInput] (s : Settings RequestInput) (env : TextEnv)
      (info : PriceInfo RequestInput), s.float=f → env.isOpenRouter=false → env.finalFormatIsClaude=false →
      settledTextQuota s env info (some billed)=settledTextQuota s env info (some usage)

variable {f : FloatArith}
/-- The expression costs one quota if `g` holds of the counts, and nothing otherwise. -/
def probeSettings (f : FloatArith) (g : TokenParams → Bool) (used : String → Bool) : Settings Unit :=
  { plainSettings f with
    runExpr := fun _ params _ => .ok (if g params then 1000000 else 0,"")
    usedVars := fun _ => used }

def probeInfo : PriceInfo Unit := { unpriced with tieredBillingSnapshot := some ⟨"",1,0,0,0,0,"",1⟩ }

lemma plainText_surcharge (s : Settings Unit) (info : PriceInfo Unit) (h : info.originModelName = "model")
    (ratio : ℚ) : textToolCallSurcharge s plainText info ratio=0 := by
  have hname : ¬ "search-preview".toList.isSuffixOf info.originModelName.toList=true := by
    rw [h]
    decide
  simp only [textToolCallSurcharge,plainText]
  rw [if_neg hname]
  simp only [lt_irrefl,if_false,add_zero]

lemma settled_probe (g : TokenParams → Bool) (used : String → Bool) :
    settledTextQuota (probeSettings f g used) plainText probeInfo (some usage) =
      if g (buildTieredTokenParams (plainSettings f) usage (decide (usage.usageSemantic = "anthropic")) used)
        then 1 else 0 := by
  have hcost : ∀ b : Bool, quotaRound (probeSettings f g used)
      (f.mul (f.mul (f.div (if b then 1000000 else 0) 1000000) 1) 1)=if b then 1 else 0 := by
    intro b
    cases b with
    | false => simp [quotaRound,mul,div,round_zero,toInt]
    | true =>
      simp [quotaRound,mul,div,round_one,toInt_one,probeSettings,plainSettings]
  have hform : plainText.finalFormatIsClaude=false := rfl
  simp only [settledTextQuota,summary_isClaude hform,summary_surcharge,
    plainText_surcharge (probeSettings f g used) probeInfo rfl]
  exact hcost _

/-- Prices by ratio, one quota for every token and the given ones for tokens that are written to a cache. -/
def weightedInfo (creation creation5m creation1h : ℤ) : PriceInfo Unit :=
  { unpriced with priceData := { pricedByTier ⟨1,-1,false⟩ false 0 with
      modelRatio := 1
      completionRatio := 1
      cacheCreationRatio := creation
      cacheCreation5mRatio := creation5m
      cacheCreation1hRatio := creation1h } }

lemma quotaOfPrompt_weighted (a b c prompt promptTokens completionTokens : ℤ) :
    quotaOfPrompt (plainSettings f) plainText (weightedInfo a b c) prompt promptTokens completionTokens =
      if promptTokens+completionTokens=0 then 0 else max 1 (prompt+completionTokens) := by
  have hrnd : roundHalfAway (if (prompt : ℚ)+completionTokens≤0 then 1 else prompt+completionTokens) =
      max 1 (prompt+completionTokens) := by
    split
    next hle =>
      have hint : prompt+completionTokens≤0 := by exact_mod_cast hle
      rw [roundHalfAway_one,max_eq_left (by omega)]
    next hlt =>
    have hint : 0<prompt+completionTokens := by exact_mod_cast not_le.mp hlt
    rw [← Int.cast_add,roundHalfAway_intCast_of_nonneg hint.le,max_eq_right (by omega)]
  have hpos : ¬ max 1 (prompt+completionTokens)=0 := by omega
  simp only [quotaOfPrompt,plainText_surcharge (plainSettings f) (weightedInfo a b c) rfl]
  simp [weightedInfo,pricedByTier,hrnd,hpos]

lemma max_ne_of_written {prompt completionTokens written : ℤ} (h : 0<written) :
    max 1 (prompt+written*(|prompt+completionTokens|+2)+completionTokens)≠max 1 (prompt+completionTokens) := by
  have hmore : |prompt+completionTokens|+2≤written*(|prompt+completionTokens|+2) :=
    le_mul_of_one_le_left (by positivity) h
  have hneg := neg_abs_le (prompt+completionTokens)
  have hself := le_abs_self (prompt+completionTokens)
  omega

section
variable (h : KeepsPrice f usage)
include h
lemma KeepsPrice.reports : (usageFromChatUsage usage).totalTokens≠0 := by
  intro hzero
  have hchar : usage.promptTokens+usage.completionTokens=0 := by
    simp only [usageFromChatUsage] at hzero
    split at hzero
    next hne => exact absurd hzero hne
    · exact hzero
  have hprc := h (.whole ⟨false,usage,"",true⟩) ⟨1,fun _ => 0⟩ _ rfl rfl (plainSettings f) plainText
    (weightedInfo 0 0 0) rfl rfl rfl
  have hnoth : settledTextQuota (plainSettings f) plainText (weightedInfo 0 0 0) (some usage)=0 := by
    change (calculateTextQuotaSummary _ _ _ _).quota=0
    simp [calculateTextQuotaSummary,usageOrEstimate,hchar]
  have hcoun : settledTextQuota (plainSettings f) plainText (weightedInfo 0 0 0)
      (some (responseText2Usage ⟨1,fun _ => 0⟩ ""))=1 := by
    change (calculateTextQuotaSummary _ _ _ _).quota=1
    rw [summary_quota_eq rfl rfl rfl]
    have hprom : weightedPrompt (weightedInfo 0 0 0) false 1 0 0 0 0 0 0=((1 : ℤ) : ℚ) := weightedPrompt_plain 1 rfl
    exact (congrArg (fun prompt => quotaOfPrompt _ _ _ prompt 1 0) hprom).trans (quotaOfPrompt_weighted 0 0 0 1 1 0)
  rw [hnoth,orCounted,if_pos hzero,hcoun] at hprc
  cases hprc

lemma KeepsPrice.converted (s : Settings Unit) (info : PriceInfo Unit) (hflt : s.float=f) :
    settledTextQuota s plainText info (some (usageFromChatUsage usage))=settledTextQuota s plainText info (some usage) := by
  have hprc := h (.whole ⟨false,usage,"",true⟩) ⟨1,fun _ => 0⟩ _ rfl rfl s plainText info hflt rfl rfl
  rwa [orCounted,if_neg h.reports] at hprc

lemma KeepsPrice.param (count : TokenParams → ℚ) (used : String → Bool) :
    count (buildTieredTokenParams (plainSettings f) usage (decide (usage.usageSemantic = "anthropic")) used) =
      count (buildTieredTokenParams (plainSettings f) (usageFromChatUsage usage) false used) := by
  by_contra hne
  have hprc := h.converted (probeSettings f (fun params => decide (count params ≠
    count (buildTieredTokenParams (plainSettings f) (usageFromChatUsage usage) false used))) used) probeInfo rfl
  rw [settled_probe,settled_probe,if_pos (decide_eq_true hne),if_neg (by simp [usageFromChatUsage,Usage.zero])] at hprc
  cases hprc

lemma KeepsPrice.charged_eq_zero (hcach : usage.promptTokensDetails.cachedTokens=0)
    (himg : usage.promptTokensDetails.imageTokens=0) (haudio : usage.promptTokensDetails.audioTokens=0)
    {a b c written : ℤ} (hpos : 0<written)
    (hweig : weightedPrompt (weightedInfo a b c) (ownCache plainText usage) usage.promptTokens 0
      usage.promptTokensDetails.cachedCreationTokens usage.claudeCacheCreation5mTokens
      usage.claudeCacheCreation1hTokens 0 0 =
        ((usage.promptTokens+written*(|chargedTokens usage|+2) : ℤ) : ℚ)) : chargedTokens usage=0 := by
  by_contra hcharged
  have hprc := h.converted (plainSettings f) (weightedInfo a b c) rfl
  change (calculateTextQuotaSummary _ _ _ _).quota=(calculateTextQuotaSummary _ _ _ _).quota at hprc
  rw [summary_quota_converted rfl rfl,summary_quota_eq rfl rfl haudio,hcach,himg,hweig,
    quotaOfPrompt_weighted,quotaOfPrompt_weighted,if_neg hcharged,if_neg hcharged] at hprc
  exact max_ne_of_written hpos hprc.symm

lemma KeepsPrice.plainUsage : PlainUsage f usage := by
  have hcach : usage.promptTokensDetails.cachedTokens=0 :=
    ofInt_eq_zero_iff.mp ((h.param (·.cr) fun _ => false).trans ofInt_zero)
  have himg : usage.promptTokensDetails.imageTokens=0 :=
    ofInt_eq_zero_iff.mp ((h.param (·.img) fun _ => false).trans ofInt_zero)
  have haudio : usage.promptTokensDetails.audioTokens=0 :=
    ofInt_eq_zero_iff.mp ((h.param (·.ai) fun _ => false).trans ofInt_zero)
  have hcc := h.param (·.cc) fun _ => false
  have hcc1h := h.param (·.cc1h) fun _ => false
  refine ⟨h.reports,hcach,himg,haudio,fun hcla => ?_,fun hopen => ?_⟩
  · simp only [buildTieredTokenParams,hcla,decide_true,if_true,usageFromChatUsage,Usage.zero] at hcc hcc1h
    have h5m := ofInt_eq_zero_iff.mp (hcc.trans ofInt_zero)
    have h1h := ofInt_eq_zero_iff.mp hcc1h
    refine ⟨h5m,h1h,fun hcre => ?_,fun ownImages ownAudio => ?_⟩
    · apply h.charged_eq_zero hcach himg haudio hcre (a := |chargedTokens usage|+2) (b := 0) (c := 0)
      simp [weightedPrompt,ownCache,hcla,h5m,h1h,weightedInfo,hcre.le,hcre.ne']
    · have hcmp := h.param (·.c) fun name => if name = "img_o" then ownImages else ownAudio
      rw [tieredCompletion,tieredCompletion,hcla] at hcmp
      exact hcmp.symm
  · simp only [buildTieredTokenParams,hopen,decide_false,usageFromChatUsage,Usage.zero] at hcc
    have hcre := ofInt_eq_zero_iff.mp (hcc.trans ofInt_zero)
    refine ⟨hcre,fun hleg => ?_⟩
    obtain ⟨hsour,hsem,hwrit⟩ := hleg
    have hown : ownCache plainText usage=true := by simp [ownCache,isLegacyClaudeDerivedOpenAIUsage,plainText,hsour,
      hsem,hwrit]
    rcases hwrit with h5m | h1h
    · apply h.charged_eq_zero hcach himg haudio h5m (a := 0) (b := |chargedTokens usage|+2) (c := 0)
      simp [weightedPrompt,hown,weightedInfo,h5m]
    · apply h.charged_eq_zero hcach himg haudio h1h (a := 0) (b := 0) (c := |chargedTokens usage|+2)
      simp [weightedPrompt,hown,weightedInfo,h1h]
end

/-- A usage keeps its price on the way to a Responses client exactly if it is plain. -/
theorem keepsPrice_iff_plainUsage (hround : f.Projects) (usage : Usage) : KeepsPrice f usage ↔ PlainUsage f usage := by
  refine ⟨KeepsPrice.plainUsage,fun h answer counter billed hrep hbill => ?_⟩
  obtain ⟨text,rfl⟩ := billed_of_reported hrep hbill
  rw [orCounted,if_neg h.reports]
  intro RequestInput _ s env info hflt hrout hform
  subst hflt
  exact h.settled hround hrout hform

/-- A usage of 1000 prompt tokens, of which `cached` were in the cache. -/
def cachedUsage (cached : ℤ) : Usage :=
  { Usage.zero with promptTokens := 1000, totalTokens := 1000, promptTokensDetails := ⟨cached,0,0,0,0⟩ }

theorem uncached_keepsPrice : KeepsPrice .ideal (cachedUsage 0) := by
  apply (keepsPrice_iff_plainUsage ideal_projects _).mpr
  exact ⟨by decide,rfl,rfl,rfl,fun h => absurd h (by decide),fun _ => ⟨rfl,fun h => absurd h.2.2 (by decide)⟩⟩

def cheapCache : PriceInfo Unit :=
  { unpriced with priceData := { pricedByRatio (plainSettings .ideal) unpriced ⟨1,-1,false⟩ 1000 0 with cacheRatio := 1/10 } }

/-- With a tenth of the price for cached tokens, 800 cached ones of 1000 cost 280 in all. Both handlers make
that 1000. -/
theorem cachedUsage_overcharged :
    let answers : List ChatAnswer := [.whole ⟨false,cachedUsage 800,"hi",true⟩,
      .stream [.data none "hi",.data (some (cachedUsage 800)) ""]]
    answers.map (fun answer => (answer.billed ⟨1000,fun _ => 1⟩).map fun billed =>
        settledTextQuota (plainSettings .ideal) plainText cheapCache (some billed))=[some 1000,some 1000] ∧
      answers.map (fun answer => settledTextQuota (plainSettings .ideal) plainText cheapCache answer.reported) =
        [280,280] := by decide +kernel
end AronaApi.Relay
