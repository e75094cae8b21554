import AronaApi.Pricing.PreConsume
import AronaApi.Pricing.TextQuota

/-! The statistics of a text request beside its settlement (`PostTextConsumeQuota` in `service/text_quota.go`). -/
namespace AronaApi.Pricing
open Decimal
section
variable {RequestInput : Type} [Inhabited RequestInput] (s : Settings RequestInput) (env : TextEnv)
  (info : PriceInfo RequestInput) (usage : Option Usage)

structure Consumption where
  userUsedQuota : ℤ
  channelUsedQuota : ℤ
  settled : ℤ
  deriving DecidableEq

/-- The token totals that gate the statistics are those from before the tiered settlement. -/
def postTextConsumeQuota : Consumption :=
  let quota := settledTextQuota s env info usage
  if (calculateTextQuotaSummary s env info usage).totalTokens=0 then ⟨0,0,quota⟩ else ⟨quota,quota,quota⟩

/-- A tiered price is charged for a usage without prompt and completion tokens: the pre-consumed or estimated quota
with the surcharge of the tools if the expression fails, else half a unit or more for the cost and the surcharge. -/
def ChargedUncounted : Prop :=
  ∃ snap u, info.tieredBillingSnapshot=some snap ∧ usage=some u ∧ u.promptTokens+u.completionTokens=0 ∧
    let summary := calculateTextQuotaSummary s env info usage
    let surcharge := summary.toolCallSurchargeQuota
    match s.runExpr snap.exprString (buildTieredTokenParams s u summary.isClaudeUsageSemantic (s.usedVars snap.exprString))
      (info.billingRequestInput.getD default) with
    | .error _ =>
      (if info.finalPreConsumedQuota≤0 then snap.estimatedQuotaAfterGroup else info.finalPreConsumedQuota)
        ≠ -roundHalfAway surcharge
    | .ok (cost,_) =>
      let before := s.float.mul (s.float.div cost 1000000) snap.quotaPerUnit
      let price := s.float.mul before snap.groupRatio
      if surcharge=0 then 1/2≤|price| ∧ (¬(-2^63 ≤ roundHalfAway price ∧ roundHalfAway price<2^63) →
        s.float.overflow (roundHalfAway price)≠0)
      else 1/2≤|before*snap.groupRatio+surcharge|

variable {s env info usage}
omit [Inhabited RequestInput] in
lemma summary_quota_of_no_tokens (h : (calculateTextQuotaSummary s env info usage).totalTokens=0) :
    (calculateTextQuotaSummary s env info usage).quota=0 := by
  simp only [calculateTextQuotaSummary] at h ⊢
  rw [if_pos h]

omit [Inhabited RequestInput] in
lemma quotaRound_ne_zero_iff {q : ℚ} : quotaRound s q≠0 ↔ 1/2≤|q| ∧
    (¬(-2^63 ≤ roundHalfAway q ∧ roundHalfAway q<2^63) → s.float.overflow (roundHalfAway q)≠0) := by
  rw [quotaRound,FloatArith.toInt,intPart_intCast,← roundHalfAway_ne_zero_iff]
  split
  next hfits => exact ⟨fun h => ⟨h,absurd hfits⟩,And.left⟩
  next hover =>
  refine ⟨fun h => ⟨fun hzero => hover ?_,fun _ => h⟩,fun h => h.2 hover⟩
  rw [hzero]
  decide

/-- By ratio and by price nothing is charged without tokens. -/
lemma chargedUncounted_iff : ChargedUncounted s env info usage ↔
    (calculateTextQuotaSummary s env info usage).totalTokens=0 ∧ settledTextQuota s env info usage≠0 := by
  have htiered {snap u} (hsnap : info.tieredBillingSnapshot=some snap) (husage : usage=some u)
      (hno : u.promptTokens+u.completionTokens=0) :
      ChargedUncounted s env info usage ↔ settledTextQuota s env info usage≠0 := by
    subst husage
    simp only [ChargedUncounted,settledTextQuota,tryTieredSettle,composeTieredTextQuota,hsnap,Option.map_some,
      Option.some.injEq,exists_and_left,exists_eq_left',hno,true_and]
    split
    next hrun =>
      rw [hrun]
      dsimp only
      generalize (if info.finalPreConsumedQuota≤0 then snap.estimatedQuotaAfterGroup else _)=fallback
      split
      next hzero => rw [hzero,roundHalfAway_zero,neg_zero]
      · omega
    next hrun =>
    rw [hrun]
    dsimp only
    split
    · rw [quotaRound_ne_zero_iff]
    · rw [roundHalfAway_ne_zero_iff]
  constructor
  · intro h
    obtain ⟨snap,u,hsnap,husage,hno,-⟩ := id h
    refine ⟨?_,(htiered hsnap husage hno).mp h⟩
    rw [husage]
    exact hno
  rintro ⟨hno,hpaid⟩
  have hzero := summary_quota_of_no_tokens hno
  cases usage with
  | none => exact absurd hzero hpaid
  | some u =>
    cases hsnap : info.tieredBillingSnapshot with
    | none => simp [settledTextQuota,tryTieredSettle,hsnap,hzero] at hpaid
    | some snap => exact (htiered hsnap rfl hno).mpr hpaid

variable (s env info usage)
theorem used_quota_iff : ((postTextConsumeQuota s env info usage).userUsedQuota=
      (postTextConsumeQuota s env info usage).settled ∧
    (postTextConsumeQuota s env info usage).channelUsedQuota=(postTextConsumeQuota s env info usage).settled) ↔
      ¬ChargedUncounted s env info usage := by
  rw [chargedUncounted_iff,postTextConsumeQuota]
  split
  next hno =>
    simp only [hno,true_and,not_not,and_self]
    exact eq_comm
  next htok => simp [htok]
end

/-- An image that is priced on its own, in a usage that counts no prompt and no completion. -/
theorem image_only_uncounted :
    postTextConsumeQuota { plainSettings .ideal with runExpr := fun _ params _ => .ok (params.img,"") } plainText
      { unpriced with tieredBillingSnapshot := some ⟨"",1,0,0,0,0,"",1000000⟩ }
      (some { Usage.zero with promptTokensDetails := ⟨0,0,0,0,100⟩ })=⟨0,0,100⟩ := by decide +kernel
end AronaApi.Pricing
