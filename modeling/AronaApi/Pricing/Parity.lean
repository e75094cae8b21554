import AronaApi.Pricing.PreConsume
import AronaApi.Pricing.TextQuota

/-! The two ways to price a text request. An expression with one price for each kind of token is meant to
charge what the ratios that belong to these prices charge. Both sort the tokens of a usage into kinds, each
in its own way, and they agree at all prices exactly when they sort them alike. -/
namespace AronaApi.Pricing
open Decimal List FloatArith

/-- The prices of `p*input + c*output + cr*cacheRead + cc*cacheWrite + cc1h*cacheWrite1h + img*image`, in dollars
for a million tokens. There are ratios for them only if prompt tokens have a price. -/
structure Prices where
  input : ℚ
  output : ℚ
  cacheRead : ℚ
  cacheWrite : ℚ
  cacheWrite1h : ℚ
  image : ℚ
  groupRatio : ℚ
  input_ne : input≠0

open Prices

namespace Prices
variable (π : Prices)
def expr (t : TokenParams) : ℚ :=
  t.p*π.input+t.c*π.output+t.cr*π.cacheRead+t.cc*π.cacheWrite+t.cc1h*π.cacheWrite1h+t.img*π.image

def usedVars (name : String) : Bool := name∈["p","c","cr","cc","cc1h","img"]

def priceData (quotaPerUnit : ℚ) : PriceData where
  freeModel := false
  modelPrice := -1
  modelRatio := π.input*quotaPerUnit/1000000
  completionRatio := π.output/π.input
  cacheRatio := π.cacheRead/π.input
  imageRatio := π.image/π.input
  audioRatio := 1
  audioCompletionRatio := 1
  cacheCreationRatio := π.cacheWrite/π.input
  cacheCreation5mRatio := π.cacheWrite/π.input
  cacheCreation1hRatio := π.cacheWrite1h/π.input
  usePrice := false
  groupRatioInfo := ⟨π.groupRatio,-1,false⟩
  otherRatios := []
  quotaToPreConsume := 0
end Prices

@[ext] structure Account where
  input : ℤ
  output : ℤ
  cacheRead : ℤ
  cacheWrite : ℤ
  cacheWrite1h : ℤ
  image : ℤ

def Account.cost (a : Account) (π : Prices) : ℚ :=
  a.input*π.input+a.output*π.output+a.cacheRead*π.cacheRead+a.cacheWrite*π.cacheWrite+a.cacheWrite1h*π.cacheWrite1h+
    a.image*π.image

section
variable {RequestInput : Type} (s : Settings RequestInput) (env : TextEnv) (info : PriceInfo RequestInput) (u : Usage)
def claudeSemantic : Bool := decide (usageSemanticFromUsage env (some u) = "anthropic")

def cacheApart : Bool := claudeSemantic env u || isLegacyClaudeDerivedOpenAIUsage env u

/-- What `calculateTextQuotaSummary` charges by ratio for a usage without audio, before the minimum of one and
before it is rounded. -/
def ratioQuota : ℚ :=
  let p := info.priceData
  let tokens := openRouterTokens s env info (claudeSemantic env u) u
  let prompt := weightedPrompt info (cacheApart env u) tokens.1 u.promptTokensDetails.cachedTokens tokens.2
    u.claudeCacheCreation5mTokens u.claudeCacheCreation1hTokens u.promptTokensDetails.imageTokens 0
  ((prompt+u.completionTokens*p.completionRatio)*(p.modelRatio*p.groupRatioInfo.groupRatio)+
    textToolCallSurcharge s env info p.groupRatioInfo.groupRatio)*p.otherRatios.prod

def chargedQuota (totalTokens : ℤ) (ratio exact : ℚ) : ℤ :=
  let quota := roundHalfAway (if ratio≠0 ∧ exact≤0 then 1 else exact)
  if totalTokens=0 then 0 else if ratio≠0 ∧ quota=0 then 1 else quota

lemma summary_quota_of_ratioQuota (huseP : info.priceData.usePrice=false)
    (haudio : u.promptTokensDetails.audioTokens=0) : (calculateTextQuotaSummary s env info (some u)).quota =
      chargedQuota (u.promptTokens+u.completionTokens)
        (info.priceData.modelRatio*info.priceData.groupRatioInfo.groupRatio) (ratioQuota s env info u) := by
  simp [calculateTextQuotaSummary,huseP,usageOrEstimate,quotaByRatio,haudio,ratioQuota,chargedQuota,cacheApart,
    claudeSemantic]

def atRatios (π : Prices) : PriceInfo RequestInput := { info with priceData := π.priceData s.quotaPerUnit }

/-- The expression on the counts of the usage, times the quota of a dollar and the group ratio. -/
def tieredQuota (π : Prices) : ℚ :=
  π.expr (buildTieredTokenParams s u (claudeSemantic env u) usedVars)*(s.quotaPerUnit/1000000)*π.groupRatio

/-- The tokens that count as input: in the Claude semantic the prompt is what was not cached. -/
def inputLength : ℤ :=
  if claudeSemantic env u then u.promptTokens+u.promptTokensDetails.cachedTokens+u.promptTokensDetails.cachedCreationTokens
  else u.promptTokens

structure Fits : Prop where
  prompt : 0≤u.promptTokens
  completion : 0≤u.completionTokens
  cached : 0≤u.promptTokensDetails.cachedTokens
  creation : 0≤u.promptTokensDetails.cachedCreationTokens
  creation5m : 0≤u.claudeCacheCreation5mTokens
  creation1h : 0≤u.claudeCacheCreation1hTokens
  image : 0≤u.promptTokensDetails.imageTokens
  audio : u.promptTokensDetails.audioTokens=0
  openai : claudeSemantic env u=false →
    u.promptTokensDetails.cachedTokens+u.promptTokensDetails.cachedCreationTokens+u.promptTokensDetails.imageTokens≤u.promptTokens
  claude : claudeSemantic env u=true →
    u.claudeCacheCreation5mTokens+u.claudeCacheCreation1hTokens≤u.promptTokensDetails.cachedCreationTokens

/-- OpenRouter's prompt for a Claude model holds no cached tokens, reported or inferred from the cost. -/
def NoneCached : Prop := env.isOpenRouter=true → claudeSemantic env u=true →
  u.promptTokensDetails.cachedTokens=0 ∧ u.promptTokensDetails.cachedCreationTokens=0 ∧
    ∀ π : Prices, hasCustomModelRatio env info (π.input*s.quotaPerUnit/1000000)=false → π.cacheWrite≠π.input →
      calcOpenRouterCacheCreateTokens s u (π.priceData s.quotaPerUnit)≤0 ∨
        u.promptTokens<calcOpenRouterCacheCreateTokens s u (π.priceData s.quotaPerUnit)

/-- No token is counted differently: OpenRouter's prompt holds none that are cached, the usage is not an unmarked one
of a Claude model, images are not counted apart from a Claude prompt, the usage that is marked as Claude's has the
lifetimes of all its cache writes, and one that only answers a Claude request has none for an hour. -/
structure CountedAlike : Prop where
  openRouter : NoneCached s env info u
  legacy : isLegacyClaudeDerivedOpenAIUsage env u=false
  image : claudeSemantic env u=true → u.promptTokensDetails.imageTokens=0
  marked : u.usageSemantic = "anthropic" →
    u.promptTokensDetails.cachedCreationTokens=u.claudeCacheCreation5mTokens+u.claudeCacheCreation1hTokens
  unmarked : claudeSemantic env u=true → u.usageSemantic ≠ "anthropic" → u.claudeCacheCreation1hTokens=0

/-- The kinds of `calculateTextQuotaSummary`, given the prompt tokens and the cache writes. -/
def ratioAccount (tokens : ℤ × ℤ) : Account where
  input := tokens.1-(if cacheApart env u then 0 else u.promptTokensDetails.cachedTokens+tokens.2)-
    u.promptTokensDetails.imageTokens
  output := u.completionTokens
  cacheRead := u.promptTokensDetails.cachedTokens
  cacheWrite := if cacheApart env u then
      max (tokens.2-u.claudeCacheCreation5mTokens-u.claudeCacheCreation1hTokens) 0+u.claudeCacheCreation5mTokens
    else tokens.2
  cacheWrite1h := if cacheApart env u then u.claudeCacheCreation1hTokens else 0
  image := u.promptTokensDetails.imageTokens

/-- The kinds of `BuildTieredTokenParams`. -/
def tieredAccount : Account where
  input := u.promptTokens-(if claudeSemantic env u then 0 else u.promptTokensDetails.cachedTokens+
    u.promptTokensDetails.cachedCreationTokens+u.promptTokensDetails.imageTokens)
  output := u.completionTokens
  cacheRead := u.promptTokensDetails.cachedTokens
  cacheWrite := if u.usageSemantic = "anthropic" then u.claudeCacheCreation5mTokens
    else u.promptTokensDetails.cachedCreationTokens
  cacheWrite1h := if u.usageSemantic = "anthropic" then u.claudeCacheCreation1hTokens else 0
  image := u.promptTokensDetails.imageTokens

lemma weightedPrompt_atRatios (h5m : 0≤u.claudeCacheCreation5mTokens) (h1h : 0≤u.claudeCacheCreation1hTokens)
    (π : Prices) (tokens : ℤ × ℤ) :
    weightedPrompt (atRatios s info π) (cacheApart env u) tokens.1 u.promptTokensDetails.cachedTokens tokens.2
        u.claudeCacheCreation5mTokens u.claudeCacheCreation1hTokens u.promptTokensDetails.imageTokens 0+
      u.completionTokens*(π.output/π.input)=(ratioAccount env u tokens).cost π/π.input := by
  have hinp := π.input_ne
  have hgrd (written : ℚ) (hzero : tokens.2=0 → u.claudeCacheCreation5mTokens=0 → u.claudeCacheCreation1hTokens=0 →
      written=0) : (if tokens.2≠0 ∨ 0<u.claudeCacheCreation5mTokens ∨ 0<u.claudeCacheCreation1hTokens then written else 0) =
      written := by
    split
    · rfl
    · exact (hzero (by omega) (by omega) (by omega)).symm
  simp only [weightedPrompt]
  cases hown : cacheApart env u with
  | false =>
    rw [hgrd _ fun h _ _ => by simp [h]]
    simp only [ratioAccount,Account.cost,atRatios,priceData,hown,Bool.false_eq_true,if_false]
    push_cast
    field_simp
    ring
  | true =>
    rw [hgrd _ fun h h5m h1h => by simp [h,h5m,h1h]]
    simp only [ratioAccount,Account.cost,atRatios,priceData,hown,if_true]
    push_cast
    field_simp
    ring

variable {s env info u}
lemma ratioQuota_eq (h : Fits env u) (hsurc : ∀ r, textToolCallSurcharge s env info r=0) (π : Prices) :
    ratioQuota s env (atRatios s info π) u =
      (ratioAccount env u (openRouterTokens s env (atRatios s info π) (claudeSemantic env u) u)).cost π*
        (s.quotaPerUnit/1000000)*π.groupRatio := by
  have hinp := π.input_ne
  have hnone : textToolCallSurcharge s env (atRatios s info π) π.groupRatio=0 := hsurc _
  have hprom := weightedPrompt_atRatios s env info u h.creation5m h.creation1h π
    (openRouterTokens s env (atRatios s info π) (claudeSemantic env u) u)
  unfold ratioQuota
  show ((_+_*(π.output/π.input))*(π.input*s.quotaPerUnit/1000000*π.groupRatio)+
    textToolCallSurcharge s env (atRatios s info π) π.groupRatio)*prod []=_
  rw [hprom,hnone,prod_nil]
  field_simp
  ring

lemma Fits.tieredAccount_input (h : Fits env u) : 0≤(tieredAccount env u).input := by
  have hprom := h.prompt
  unfold tieredAccount
  cases hclaude : claudeSemantic env u with
  | false =>
    have hprt := h.openai hclaude
    simp only [Bool.false_eq_true,if_false]
    omega
  | true =>
    simp only [if_true]
    omega

lemma usageSemantic_of_not_claude (h : claudeSemantic env u=false) : u.usageSemantic ≠ "anthropic" := by
  intro hmark
  simp [claudeSemantic,usageSemanticFromUsage,hmark] at h

section
variable (hflt : s.float=.ideal)
include hflt
lemma tieredParams_p (h : Fits env u) :
    (buildTieredTokenParams s u (claudeSemantic env u) usedVars).p=(tieredAccount env u).input := by
  have hinp : (0 : ℚ)≤(tieredAccount env u).input := by exact_mod_cast h.tieredAccount_input
  refine Eq.trans ?_ (max_eq_left hinp)
  simp only [buildTieredTokenParams,hflt,ofInt,FloatArith.sub,ideal,id,usedVars,tieredAccount]
  congr 1
  cases hclaude : claudeSemantic env u with
  | true => simp
  | false =>
    simp only [mem_cons,String.reduceEq,not_mem_nil,or_self,decide_false,Bool.false_eq_true,and_false,if_false,
      or_false,or_true,decide_true,and_self,if_true,usageSemantic_of_not_claude hclaude,sub_zero,Int.cast_sub,Int.cast_add]
    ring

lemma tieredParams_expr (h : Fits env u) (π : Prices) :
    π.expr (buildTieredTokenParams s u (claudeSemantic env u) usedVars)=(tieredAccount env u).cost π := by
  have hcmp : (0 : ℚ)≤u.completionTokens := by exact_mod_cast h.completion
  have hc : (buildTieredTokenParams s u (claudeSemantic env u) usedVars).c=u.completionTokens := by
    simp [buildTieredTokenParams,hflt,ofInt,ideal,usedVars,hcmp]
  rw [expr,tieredParams_p hflt h,hc]
  simp only [buildTieredTokenParams,hflt,ofInt,ideal,id,Account.cost,tieredAccount]
  by_cases hmark : u.usageSemantic = "anthropic" <;> simp [hmark]

lemma tieredQuota_eq (h : Fits env u) (π : Prices) :
    tieredQuota s env u π=(tieredAccount env u).cost π*(s.quotaPerUnit/1000000)*π.groupRatio := by
  rw [tieredQuota,tieredParams_expr hflt h]

lemma tieredParams_len (hmark : u.usageSemantic = "anthropic" →
      u.promptTokensDetails.cachedCreationTokens=u.claudeCacheCreation5mTokens+u.claudeCacheCreation1hTokens) :
    (buildTieredTokenParams s u (claudeSemantic env u) usedVars).len=inputLength env u := by
  simp only [buildTieredTokenParams,hflt,ofInt,FloatArith.add,ideal,id,inputLength]
  cases claudeSemantic env u with
  | false => simp
  | true =>
    by_cases hsem : u.usageSemantic = "anthropic"
    · simp only [if_true,hsem,decide_true,hmark hsem,Int.cast_add]
      ring
    · simp [hsem]
end

lemma Account.eq_of_cost {a b : Account} (h : ∀ π, π.groupRatio=1 → a.cost π=b.cost π) : a=b := by
  have hinp := h ⟨1,0,0,0,0,0,1,one_ne_zero⟩ rfl
  have houtp := h ⟨1,1,0,0,0,0,1,one_ne_zero⟩ rfl
  have hread := h ⟨1,0,1,0,0,0,1,one_ne_zero⟩ rfl
  have hwrt := h ⟨1,0,0,1,0,0,1,one_ne_zero⟩ rfl
  have hwrit := h ⟨1,0,0,0,1,0,1,one_ne_zero⟩ rfl
  have himg := h ⟨1,0,0,0,0,1,1,one_ne_zero⟩ rfl
  simp only [Account.cost,mul_one,mul_zero,add_zero] at hinp houtp hread hwrt hwrit himg
  norm_cast at hinp houtp hread hwrt hwrit himg
  ext <;> omega

lemma isLegacy_of_claude (h : claudeSemantic env u=true) : isLegacyClaudeDerivedOpenAIUsage env u=false := by
  have hsem := of_decide_eq_true h
  simp only [usageSemanticFromUsage] at hsem
  unfold isLegacyClaudeDerivedOpenAIUsage
  by_cases hmark : u.usageSemantic = ""
  · rw [if_neg (not_not.mpr hmark)] at hsem
    split at hsem
    next hform => rw [if_pos hform]
    · simp at hsem
  · simp [hmark]

lemma account_eq_iff (h : Fits env u) :
    ratioAccount env u (u.promptTokens,u.promptTokensDetails.cachedCreationTokens)=tieredAccount env u ↔
      isLegacyClaudeDerivedOpenAIUsage env u=false ∧
      (claudeSemantic env u=true → u.promptTokensDetails.imageTokens=0) ∧ (u.usageSemantic = "anthropic" →
        u.promptTokensDetails.cachedCreationTokens=u.claudeCacheCreation5mTokens+u.claudeCacheCreation1hTokens) ∧
      (claudeSemantic env u=true → u.usageSemantic ≠ "anthropic" → u.claudeCacheCreation1hTokens=0) := by
  have hcach := h.cached
  have hcre := h.creation
  have h5m := h.creation5m
  have h1h := h.creation1h
  have himg := h.image
  cases hcla : claudeSemantic env u with
  | false =>
    have hunm := usageSemantic_of_not_claude hcla
    cases hleg : isLegacyClaudeDerivedOpenAIUsage env u with
    | false =>
      simp only [ratioAccount,tieredAccount,cacheApart,hcla,hleg,hunm,Bool.or_self,Bool.false_eq_true,if_false,
        Account.mk.injEq,and_self,and_true,IsEmpty.forall_iff,ne_eq,not_false_eq_true,forall_const,iff_true]
      omega
    | true =>
      -- an unmarked usage of a Claude model has cache writes, which only the ratios take to be apart
      have hsplit : 0<u.claudeCacheCreation5mTokens ∨ 0<u.claudeCacheCreation1hTokens := by
        unfold isLegacyClaudeDerivedOpenAIUsage at hleg
        split at hleg
        · cases hleg
        split at hleg
        · cases hleg
        · exact of_decide_eq_true hleg
      simp only [ratioAccount,tieredAccount,cacheApart,hcla,hleg,hunm,Bool.or_true,Bool.false_eq_true,if_true,if_false,
        sub_zero,Account.mk.injEq,Bool.true_eq_false,false_and,iff_false,not_and]
      omega
  | true =>
    have hsplit := h.claude hcla
    have hleg := isLegacy_of_claude hcla
    by_cases hmark : u.usageSemantic = "anthropic"
    · simp only [ratioAccount,tieredAccount,cacheApart,hcla,hleg,hmark,Bool.or_false,if_true,sub_zero,Account.mk.injEq,
        and_self,and_true,true_and,forall_const,ne_eq,not_true_eq_false,IsEmpty.forall_iff]
      omega
    simp only [ratioAccount,tieredAccount,cacheApart,hcla,hleg,hmark,Bool.or_false,if_true,if_false,sub_zero,
      Account.mk.injEq,and_true,true_and,forall_const,IsEmpty.forall_iff,ne_eq,not_false_eq_true]
    omega

lemma openRouterTokens_cases (hrout : (env.isOpenRouter && claudeSemantic env u)=true) (info : PriceInfo RequestInput) :
    ∃ written, openRouterTokens s env info (claudeSemantic env u) u =
        (u.promptTokens-u.promptTokensDetails.cachedTokens-written,written) ∧
      (written=u.promptTokensDetails.cachedCreationTokens ∨ 0≤written ∧ u.promptTokensDetails.cachedCreationTokens=0 ∧
        info.priceData.cacheCreationRatio≠1) := by
  simp only [openRouterTokens,hrout,if_true]
  refine ⟨_,rfl,?_⟩
  split
  next hest => exact .inr ⟨hest.2.2.2.1,hest.1,hest.2.1⟩
  · exact .inl rfl

lemma openRouterTokens_eq_iff (h : Fits env u) :
    (∀ π, openRouterTokens s env (atRatios s info π) (claudeSemantic env u) u =
      (u.promptTokens,u.promptTokensDetails.cachedCreationTokens)) ↔ NoneCached s env info u := by
  have hcac := h.cached
  have hcrt := h.creation
  constructor
  · intro htok hopen hcla
    have hrout : (env.isOpenRouter && claudeSemantic env u)=true := by rw [hopen,hcla]; rfl
    have hzero : u.promptTokensDetails.cachedTokens=0 ∧ u.promptTokensDetails.cachedCreationTokens=0 := by
      obtain ⟨written,hcs,-⟩ := openRouterTokens_cases (s := s) (u := u) hrout
        (atRatios s info ⟨1,0,0,0,0,0,1,one_ne_zero⟩)
      obtain ⟨hprom,hwrit⟩ := Prod.mk.inj (hcs.symm.trans (htok _))
      omega
    refine ⟨hzero.1,hzero.2,fun π hcust hrt => ?_⟩
    by_contra hinf
    obtain ⟨hpos,hfits⟩ := not_or.mp hinf
    have heq := htok π
    have hrt : (atRatios s info π).priceData.cacheCreationRatio≠1 := mt (div_eq_one_iff_eq π.input_ne).mp hrt
    have hcust : ((atRatios s info π).priceData.usePrice ||
        hasCustomModelRatio env (atRatios s info π) (atRatios s info π).priceData.modelRatio)=false := hcust
    simp only [openRouterTokens,hrout,if_true,hcust,hzero.1,hzero.2,sub_zero] at heq
    rw [if_pos ⟨trivial,hrt,trivial,(not_le.mp hpos).le,not_lt.mp hfits⟩] at heq
    exact hpos (Prod.mk.inj heq).2.le
  · intro hnone π
    cases hrout : env.isOpenRouter && claudeSemantic env u with
    | false => simp only [openRouterTokens,hrout,Bool.false_eq_true,if_false]
    | true =>
      obtain ⟨hopen,hcla⟩ := Bool.and_eq_true_iff.mp hrout
      obtain ⟨hcach,hcre,hinf⟩ := hnone hopen hcla
      simp only [openRouterTokens,hrout,if_true,hcach,hcre,sub_zero]
      split
      next hest =>
        obtain ⟨-,hrt,hcust,hnonn,hfits⟩ := hest
        have hinf := hinf π hcust (mt (div_eq_one_iff_eq π.input_ne).mpr hrt)
        have hzero : calcOpenRouterCacheCreateTokens s u (π.priceData s.quotaPerUnit)=0 := by
          have hnonn : 0 ≤ calcOpenRouterCacheCreateTokens s u (π.priceData s.quotaPerUnit) := hnonn
          have hfits : calcOpenRouterCacheCreateTokens s u (π.priceData s.quotaPerUnit)≤u.promptTokens := hfits
          omega
        show (u.promptTokens-calcOpenRouterCacheCreateTokens s u (π.priceData s.quotaPerUnit),_)=_
        rw [hzero,sub_zero]
        exact congrArg _ hzero
      · rw [sub_zero]

lemma textToolCallSurcharge_of_no_tools (htls : env.responsesUsageInfo=none)
    (hmdl : "search-preview".toList.isSuffixOf info.originModelName.toList=false) (hsear : env.claudeWebSearchRequests=0)
    (himg : env.imageGenerationCallPrice=none) (r : ℚ) : textToolCallSurcharge s env info r=0 := by
  simp only [textToolCallSurcharge,htls,hmdl,hsear,himg,Bool.false_eq_true,lt_irrefl,if_false,add_zero]

lemma cost_eq_of_quota_eq (hflt : s.float=.ideal) (hunit : s.quotaPerUnit≠0)
    (hsurc : ∀ r, textToolCallSurcharge s env info r=0) (h : Fits env u)
    (hagr : ∀ π, tieredQuota s env u π=ratioQuota s env (atRatios s info π) u) (π : Prices) (hgrp : π.groupRatio=1) :
    (ratioAccount env u (openRouterTokens s env (atRatios s info π) (claudeSemantic env u) u)).cost π =
      (tieredAccount env u).cost π := by
  have hqt := hagr π
  rw [tieredQuota_eq hflt h,ratioQuota_eq h hsurc,hgrp,mul_one,mul_one] at hqt
  have hdoll : s.quotaPerUnit/1000000≠0 := div_ne_zero hunit (by norm_num)
  exact (mul_right_cancel₀ hdoll hqt).symm

lemma openRouterTokens_of_cost_eq (h : Fits env u) (hrout : (env.isOpenRouter && claudeSemantic env u)=true)
    (hcost : ∀ π : Prices, π.groupRatio=1 →
      (ratioAccount env u (openRouterTokens s env (atRatios s info π) (claudeSemantic env u) u)).cost π =
        (tieredAccount env u).cost π) (π : Prices) :
    openRouterTokens s env (atRatios s info π) (claudeSemantic env u) u =
      (u.promptTokens,u.promptTokensDetails.cachedCreationTokens) := by
  have hcla : claudeSemantic env u=true := (Bool.and_eq_true_iff.mp hrout).2
  have hcac := h.cached
  have hcrt := h.creation
  have h5m := h.creation5m
  have h1h := h.creation1h
  have himg := h.image
  have hsplit := h.claude hcla
  -- at prices that do not tell cache writes from the prompt nothing is estimated
  have hprt : u.promptTokensDetails.cachedTokens=0 ∧ u.promptTokensDetails.imageTokens=0 ∧
      u.claudeCacheCreation5mTokens=0 ∧ u.claudeCacheCreation1hTokens=0 := by
    let π₀ : Prices := ⟨1,0,0,1,0,0,1,one_ne_zero⟩
    obtain ⟨written,htok,hwrit⟩ := openRouterTokens_cases (s := s) (u := u) hrout (atRatios s info π₀)
    have hone : (atRatios s info π₀).priceData.cacheCreationRatio=1 := div_self one_ne_zero
    have hwrit : written=u.promptTokensDetails.cachedCreationTokens := hwrit.resolve_right fun hor => hor.2.2 hone
    have heq := hcost π₀ rfl
    rw [htok,hwrit] at heq
    simp only [Account.cost,ratioAccount,tieredAccount,cacheApart,hcla,Bool.true_or,if_true,π₀,mul_one,mul_zero,
      add_zero] at heq
    norm_cast at heq
    split at heq <;> omega
  obtain ⟨hcach,himag,h5m₀,h1h₀⟩ := hprt
  have hcre : u.promptTokensDetails.cachedCreationTokens=0 := by
    by_contra hne
    let π₁ : Prices := ⟨1,0,0,0,0,0,1,one_ne_zero⟩
    obtain ⟨written,htok,hwrit⟩ := openRouterTokens_cases (s := s) (u := u) hrout (atRatios s info π₁)
    have hwrit : written=u.promptTokensDetails.cachedCreationTokens := hwrit.resolve_right fun hor => hne hor.2.1
    have heq := hcost π₁ rfl
    rw [htok,hwrit] at heq
    simp only [Account.cost,ratioAccount,tieredAccount,cacheApart,hcla,Bool.true_or,if_true,π₁,mul_one,mul_zero,
      add_zero] at heq
    norm_cast at heq
    omega
  obtain ⟨written,htok,hwrit⟩ := openRouterTokens_cases (s := s) (u := u) hrout (atRatios s info π)
  have hzero : written=0 := by
    rcases hwrit with hwrit | ⟨hnonn,-,hrt⟩
    · exact hwrit.trans hcre
    have hsame : openRouterTokens s env (atRatios s info { π with groupRatio := 1 }) (claudeSemantic env u) u=_ := htok
    have heq := hcost { π with groupRatio := 1 } rfl
    rw [hsame] at heq
    simp only [Account.cost,ratioAccount,tieredAccount,cacheApart,hcla,Bool.true_or,if_true,hcach,himag,h5m₀,h1h₀,
      hcre,sub_zero,max_eq_left hnonn,ite_self,Int.cast_zero,Int.cast_sub,zero_mul,add_zero] at heq
    have hprc : π.cacheWrite-π.input≠0 := by
      intro hsub
      exact hrt ((div_eq_one_iff_eq π.input_ne).mpr (sub_eq_zero.mp hsub))
    have hchar : (written : ℚ)*(π.cacheWrite-π.input)=0 := by linarith
    exact_mod_cast (mul_eq_zero.mp hchar).resolve_right hprc
  rw [htok,hzero,hcach,hcre,sub_zero,sub_zero]

/-- The expression charges at all prices what the ratios charge, and sees the whole input, exactly for the
usages whose tokens are counted alike. -/
theorem quotas_agree_iff (hfloat : s.float=.ideal) (hunit : s.quotaPerUnit≠0)
    (hsurcharge : ∀ r, textToolCallSurcharge s env info r=0) (h : Fits env u) :
    (∀ π, (calculateTextQuotaSummary s env (atRatios s info π) (some u)).quota=chargedQuota (u.promptTokens+u.completionTokens)
      (π.input*s.quotaPerUnit/1000000*π.groupRatio) (ratioQuota s env (atRatios s info π) u)) ∧
    (((∀ π, tieredQuota s env u π=ratioQuota s env (atRatios s info π) u) ∧
      (buildTieredTokenParams s u (claudeSemantic env u) usedVars).len=inputLength env u) ↔ CountedAlike s env info u) := by
  refine ⟨fun π => summary_quota_of_ratioQuota s env (atRatios s info π) u rfl h.audio,?_⟩
  constructor
  · rintro ⟨hagr,-⟩
    have hcost := cost_eq_of_quota_eq hfloat hunit hsurcharge h hagr
    have hrout (π : Prices) : openRouterTokens s env (atRatios s info π) (claudeSemantic env u) u =
        (u.promptTokens,u.promptTokensDetails.cachedCreationTokens) := by
      cases hchan : env.isOpenRouter && claudeSemantic env u with
      | false => simp only [openRouterTokens,hchan,Bool.false_eq_true,if_false]
      | true => exact openRouterTokens_of_cost_eq h hchan hcost π
    have hacc : ratioAccount env u (u.promptTokens,u.promptTokensDetails.cachedCreationTokens)=tieredAccount env u := by
      refine Account.eq_of_cost fun π hgrp => ?_
      rw [← hrout π]
      exact hcost π hgrp
    obtain ⟨hleg,himg,hmark,hunm⟩ := (account_eq_iff h).mp hacc
    exact ⟨(openRouterTokens_eq_iff h).mp hrout,hleg,himg,hmark,hunm⟩
  · intro halk
    refine ⟨fun π => ?_,tieredParams_len hfloat halk.marked⟩
    have hacc := (account_eq_iff h).mpr ⟨halk.legacy,halk.image,halk.marked,halk.unmarked⟩
    rw [tieredQuota_eq hfloat h,ratioQuota_eq h hsurcharge,(openRouterTokens_eq_iff h).mpr halk.openRouter π,hacc]
end

/-- `dto.ClaudeUsage`; the lifetimes of cache writes are only there if upstream reports them. -/
structure ClaudeUsage where
  inputTokens : ℤ
  cacheCreationInputTokens : ℤ
  cacheReadInputTokens : ℤ
  outputTokens : ℤ
  cacheCreation : Option (ℤ × ℤ)

def ClaudeUsage.getCacheCreation5mTokens (c : ClaudeUsage) : ℤ := (c.cacheCreation.map Prod.fst).getD 0
def ClaudeUsage.getCacheCreation1hTokens (c : ClaudeUsage) : ℤ := (c.cacheCreation.map Prod.snd).getD 0

/-- `FormatClaudeResponseInfo` at the start of a message. -/
def messageStart (c : ClaudeUsage) (u : Usage) : Usage :=
  { u with
    promptTokens := c.inputTokens
    usageSemantic := "anthropic"
    promptTokensDetails := { u.promptTokensDetails with
      cachedTokens := c.cacheReadInputTokens, cachedCreationTokens := c.cacheCreationInputTokens }
    claudeCacheCreation5mTokens := c.getCacheCreation5mTokens
    claudeCacheCreation1hTokens := c.getCacheCreation1hTokens
    completionTokens := c.outputTokens }

/-- `FormatClaudeResponseInfo` at the end of a message: the latest counts that are not zero. -/
def messageDelta (c : ClaudeUsage) (u : Usage) : Usage :=
  let latest := fun (new old : ℤ) => if 0<new then new else old
  let promptTokens := latest c.inputTokens u.promptTokens
  let completionTokens := latest c.outputTokens u.completionTokens
  { u with
    promptTokens := promptTokens
    usageSemantic := "anthropic"
    promptTokensDetails := { u.promptTokensDetails with
      cachedTokens := latest c.cacheReadInputTokens u.promptTokensDetails.cachedTokens
      cachedCreationTokens := latest c.cacheCreationInputTokens u.promptTokensDetails.cachedCreationTokens }
    claudeCacheCreation5mTokens := latest c.getCacheCreation5mTokens u.claudeCacheCreation5mTokens
    claudeCacheCreation1hTokens := latest c.getCacheCreation1hTokens u.claudeCacheCreation1hTokens
    completionTokens := completionTokens
    totalTokens := promptTokens+completionTokens }

def cacheWriting (cacheCreation : Option (ℤ × ℤ)) : Usage :=
  messageDelta ⟨0,0,0,10,none⟩ (messageStart ⟨100,1000,0,1,cacheCreation⟩ Usage.zero)

def claudePrices : Prices := ⟨3,15,3/10,15/4,6,0,1,by norm_num⟩

lemma cacheWriting_fits {cacheCreation : Option (ℤ × ℤ)} (h : cacheCreation=none ∨ cacheCreation=some (600,400)) :
    Fits plainText (cacheWriting cacheCreation) := by
  rcases h with rfl | rfl
  · exact ⟨by decide,by decide,by decide,by decide,by decide,by decide,by decide,by decide,by decide,by decide⟩
  · exact ⟨by decide,by decide,by decide,by decide,by decide,by decide,by decide,by decide,by decide,by decide⟩

/-- With the lifetimes reported the two agree, on 2550. -/
theorem lifetimes_agree : (∀ π, tieredQuota (plainSettings .ideal) plainText (cacheWriting (some (600,400))) π =
      ratioQuota (plainSettings .ideal) plainText (atRatios (plainSettings .ideal) unpriced π) (cacheWriting (some (600,400)))) ∧
    tieredQuota (plainSettings .ideal) plainText (cacheWriting (some (600,400))) claudePrices=2550 := by
  have halk : CountedAlike (plainSettings .ideal) plainText unpriced (cacheWriting (some (600,400))) :=
    ⟨nofun,by decide,by decide,by decide,by decide⟩
  have hagr := (quotas_agree_iff rfl (by decide) (textToolCallSurcharge_of_no_tools rfl (by decide) rfl rfl)
    (cacheWriting_fits (.inr rfl))).2.mpr halk
  exact ⟨hagr.1,by decide +kernel⟩

/-- Without them the expression charges nothing for the cache writes and does not see them. -/
theorem aggregate_dropped : Fits plainText (cacheWriting none) ∧
    tieredQuota (plainSettings .ideal) plainText (cacheWriting none) claudePrices=225 ∧
    ratioQuota (plainSettings .ideal) plainText (atRatios (plainSettings .ideal) unpriced claudePrices) (cacheWriting none)=2100 ∧
    (buildTieredTokenParams (plainSettings .ideal) (cacheWriting none) true usedVars).len=100 ∧
    inputLength plainText (cacheWriting none)=1100 := by
  exact ⟨cacheWriting_fits (.inl rfl),by decide +kernel,by decide +kernel,by decide +kernel,by decide⟩
end AronaApi.Pricing
