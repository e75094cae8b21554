import AronaApi.Lib.Schedule
import AronaApi.Pricing.PreConsume
import AronaApi.Relay.Retry

/-! Which group sets the price. The ratio in the price data follows the group of every attempt; the one in a
tiered snapshot stays that of the group that was chosen first. -/
namespace AronaApi.Relay
open Pricing

variable {cfg : RetryConfig} {pick : String → ℕ → Option ℕ} {st st' : RetryState} {selected : Selected}
lemma autoGroup_of_selectGroup {startGroupIndex i : ℕ} {groups : List String}
    (h : selectGroup cfg pick startGroupIndex i groups st=(some selected,st')) : st'.autoGroup=some selected.2 := by
  induction groups generalizing i st with
  | nil => cases h
  | cons group rest ih =>
    simp only [selectGroup] at h
    generalize (if startGroupIndex < i then 0 else st.retry)=priorityRetry at h
    split at h
    · exact ih h
    split at h
    all_goals
      obtain ⟨hsel,rfl⟩ := Prod.mk.inj h
      rw [← Option.some.inj hsel]

lemma autoGroup_of_select (h : cacheGetRandomSatisfiedChannel cfg pick st=(.ok (some selected),st')) :
    st'.autoGroup=some selected.2 := by
  unfold cacheGetRandomSatisfiedChannel at h
  split at h
  · cases h
  obtain ⟨hsel,hst⟩ := Prod.mk.inj h
  exact autoGroup_of_selectGroup (Prod.ext (Except.ok.inj hsel) hst)

lemma autoGroup_of_distribute {preferred : Option Selected}
    (h : distribute cfg preferred pick=some (selected,st)) : st.autoGroup=some selected.2 := by
  unfold distribute at h
  split at h
  · split at h
    · cases h
      rfl
    · cases h
  split at h
  next hsel =>
    cases h
    exact autoGroup_of_select hsel
  · cases h

variable {RequestInput : Type} {s : Settings RequestInput} {cfg : RetryConfig} {info info' : PriceInfo RequestInput}
/-- The price data has the ratio of `group`; `first` is the one in the snapshot, if there is one. -/
structure Priced (s : Settings RequestInput) (userGroup group : String) (first : Option ℚ)
    (info : PriceInfo RequestInput) : Prop where
  user : info.userGroup=userGroup
  ratio : info.priceData.groupRatioInfo=groupRatioInfo s userGroup group
  snapshot : info.tieredBillingSnapshot.map (·.groupRatio)=first

variable {userGroup group : String} {first : Option ℚ}
lemma Priced.getChannel {a : Attempt}
    (h : Priced s userGroup group first info) (hgot : Relay.getChannel s cfg a st info=(.ok selected,st',info')) :
    Priced s userGroup selected.2 first info' := by
  unfold Relay.getChannel at hgot
  simp only at hgot
  split at hgot
  · cases hgot
  · cases hgot
  next found hfnd =>
  split at hgot
  · cases hgot
  cases hgot
  have hauto := autoGroup_of_select (Prod.ext hfnd rfl)
  simp only [handleGroupRatio,hauto,Option.getD_some]
  exact ⟨h.user,by rw [← h.user],h.snapshot⟩

lemma Priced.relayLoop {attempts : List Attempt} {selected : Option Selected}
    {served : Served RequestInput} (h : Priced s userGroup group first info) (hsel : ∀ c∈selected, c.2=group)
    (hserv : Relay.relayLoop s cfg attempts selected st info=some served) :
    Priced s userGroup served.group first served.info := by
  induction attempts generalizing selected st info group with
  | nil => cases hserv
  | cons a rest ih =>
    simp only [Relay.relayLoop] at hserv
    split at hserv
    · cases hserv
    split at hserv
    · cases hserv
    next got st₁ info₁ hgot =>
    have hpric : Priced s userGroup got.2 first info₁ := by
      split at hgot
      next c =>
        cases hgot
        rw [hsel got rfl]
        exact h
      · exact h.getChannel hgot
    split at hserv
    · cases hserv
      exact hpric
    split at hserv
    · exact ih hpric (fun c hc => by cases hc) hserv
    · cases hserv

lemma priced_of_modelPriceHelper {promptTokens maxTokens : ℤ} {imagePriceRatio : ℚ}
    {requestInput : Except String RequestInput} (hnone : info.tieredBillingSnapshot=none)
    (h : modelPriceHelper s info (some group) promptTokens maxTokens imagePriceRatio requestInput=.ok info') :
    Priced s info.userGroup group (if s.isTieredExpr info.originModelName then
      some (groupRatioInfo s info.userGroup group).groupRatio else none) info' := by
  unfold modelPriceHelper at h
  simp only at h
  split at h
  next htier =>
    rw [if_pos (show s.isTieredExpr info.originModelName=true from htier)]
    simp only [modelPriceHelperTiered] at h
    split at h
    · cases h
    split at h
    · cases h
    split at h
    · cases h
    cases h
    exact ⟨rfl,rfl,rfl⟩
  next htier =>
  rw [if_neg (show ¬ s.isTieredExpr info.originModelName=true from htier)]
  split at h
  · cases h
    exact ⟨rfl,rfl,congrArg (Option.map _) hnone⟩
  split at h
  · cases h
  cases h
  exact ⟨rfl,rfl,congrArg (Option.map _) hnone⟩

section
variable {RequestInput : Type} (s : Settings RequestInput) (cfg : RetryConfig)
def firstGroup (preferred : Option Selected) (pick : String → ℕ → Option ℕ) : Option String :=
  (distribute cfg preferred pick).map (·.1.2)

/-- The group ratios that the settlement of a request multiplies with: the expression's cost has the one of
the snapshot, everything else the one of the price data. -/
def settlementRatios (info : PriceInfo RequestInput) (usage : Option Usage) : List ℚ :=
  match usage,info.tieredBillingSnapshot with
  | some _,some snap => [snap.groupRatio,info.priceData.groupRatioInfo.groupRatio]
  | _,_ => [info.priceData.groupRatioInfo.groupRatio]

def atRatio (ratio : ℚ) (info : PriceInfo RequestInput) : PriceInfo RequestInput :=
  { info with
    priceData := { info.priceData with
      groupRatioInfo := { info.priceData.groupRatioInfo with groupRatio := ratio } }
    tieredBillingSnapshot := info.tieredBillingSnapshot.map fun snap => { snap with groupRatio := ratio } }

variable {info : PriceInfo RequestInput} {ratio : ℚ}
lemma atRatio_eq_self (hprc : info.priceData.groupRatioInfo.groupRatio=ratio)
    (hsnap : ∀ snap∈info.tieredBillingSnapshot, snap.groupRatio=ratio) : atRatio ratio info=info := by
  subst hprc
  have hmap : info.tieredBillingSnapshot.map
      (fun snap => { snap with groupRatio := info.priceData.groupRatioInfo.groupRatio }) =
      info.tieredBillingSnapshot := by
    cases h : info.tieredBillingSnapshot with
    | none => rfl
    | some snap => rw [← hsnap snap h,Option.map_some]
  rw [atRatio,hmap]

lemma settledTextQuota_atRatio [Inhabited RequestInput] (env : TextEnv)
    {usage : Option Usage} (h : ∀ q∈settlementRatios info usage, q=ratio) :
    settledTextQuota s env info usage=settledTextQuota s env (atRatio ratio info) usage := by
  have hprc : info.priceData.groupRatioInfo.groupRatio=ratio := by
    apply h
    unfold settlementRatios
    split
    all_goals simp
  cases usage with
  | none =>
    subst hprc
    rfl
  | some u =>
    rw [atRatio_eq_self hprc]
    intro snap hsnap
    apply h
    simp [settlementRatios,Option.mem_def.mp hsnap]

variable {s cfg} {info : PriceInfo RequestInput} {preferred : Option Selected} {pick : String → ℕ → Option ℕ}
  {promptTokens maxTokens finalPreConsumedQuota : ℤ} {requestInput : Except String RequestInput}
  {attempts : List Attempt} {served : Served RequestInput}

lemma priced_of_relay
    (h : relay s cfg info preferred pick promptTokens maxTokens requestInput finalPreConsumedQuota attempts =
      some served) :
    ∃ first, firstGroup cfg preferred pick=some first ∧
      Priced s info.userGroup served.group (if s.isTieredExpr info.originModelName then
        some (groupRatioInfo s info.userGroup first).groupRatio else none) served.info := by
  unfold relay at h
  split at h
  · cases h
  next selected st hfrs =>
  rw [autoGroup_of_distribute hfrs] at h
  split at h
  · cases h
  next info₁ hpric =>
  refine ⟨selected.2,congrArg (Option.map _) hfrs,?_⟩
  have hstr := priced_of_modelPriceHelper rfl hpric
  have hrdy : Priced s info.userGroup selected.2 _
      { info₁ with finalPreConsumedQuota := finalPreConsumedQuota } :=
    ⟨hstr.user,hstr.ratio,hstr.snapshot⟩
  refine hrdy.relayLoop ?_ h
  intro c hc
  cases hc
  rfl

end

/-- Prices by ratio, where the group `vip` pays three times as much. -/
def vipSettings : Settings Unit := { plainSettings .ideal with groupRatio := fun g => if g = "vip" then 3 else 1 }

def vipTieredSettings : Settings Unit :=
  { vipSettings with
    isTieredExpr := fun _ => true
    billingExpr := fun _ => some "tier(\"base\", p * 2)"
    runExpr := fun _ params _ => .ok (params.p*2,"base") }

def crossGroups : RetryConfig := ⟨["default","vip"],fun _ => true,1,true⟩

def oneChannelEach (group : String) (_ : ℕ) : Option ℕ := if group = "vip" then some 2 else some 1

def failTwice : List Attempt :=
  let fails : Attempt := ⟨oneChannelEach,false,.failure ⟨false,false,false,false,500,false,true⟩⟩
  [fails,fails,⟨oneChannelEach,false,.success (some { Usage.zero with promptTokens := 1000, totalTokens := 1000 })⟩]

def crossGroupRelay (s : Settings Unit) : Option (Served Unit) :=
  relay s crossGroups unpriced none oneChannelEach 1000 0 (.ok ()) 1000 failTwice

end AronaApi.Relay
