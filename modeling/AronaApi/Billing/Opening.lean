import AronaApi.Billing.Ledger

/-! A session that `NewBillingSession` returns is open, and its accounts agree with it; an attempt that
fails leaves no trace. -/
namespace AronaApi.Billing
open GoStd Subscription BillingSession UserSubscription
variable {cfg : Config} {env : Env} {penv : PlanEnv} {info : RelayInfo} {quota : ℤ} {w w' : World}
    {f : SubscriptionFunding} {funding : FundingSource} {s : BillingSession}

/-- What a new request can rely on: the columns are `int64`s, rows have ids, and no earlier request has
its id. -/
structure Ready (w : World) (info : RelayInfo) : Prop where
  columns : ∀ sub∈w.db.subs, -2^63 ≤ sub.amountUsed ∧ sub.amountUsed<2^63 ∧ sub.amountTotal<2^63
  ids : ∀ sub∈w.db.subs, sub.id≠0
  unused : w.db.findRecord info.requestId=none

lemma token_step {w₁ : World} (hqt : 0≤quota)
    (h : (if 0<quota then preConsumeTokenQuota cfg info env quota w else .ok w)=.ok w₁) :
    w₁={ w with token := w.token-tokenShare info quota } := by
  split at h
  · exact preConsumeTokenQuota_eq_ok h
  next hzero =>
  cases h
  have h0 : quota=0 := by omega
  simp [h0]

lemma token_rollback (hqt : 0≤quota) :
    (if 0<quota ∧ info.isPlayground=false then
      (increaseTokenQuota false quota { w with token := w.token-tokenShare info quota }).toOption.getD
        { w with token := w.token-tokenShare info quota }
      else { w with token := w.token-tokenShare info quota })=w := by
  split
  next hgive =>
    have hback : increaseTokenQuota false quota { w with token := w.token-tokenShare info quota } =
        .ok { w with token := w.token-tokenShare info quota+quota } :=
      changeQuota_eq_ok.mpr ⟨hqt,rfl,rfl⟩
    rw [hback]
    simp [tokenShare,hgive.2,Except.toOption]
  next hgive =>
  have hshr : tokenShare info quota=0 := by
    unfold tokenShare
    split
    · rfl
    next hplay =>
    by_contra hne
    exact hgive ⟨by omega,Bool.eq_false_iff.mpr hplay⟩
  rw [hshr]
  simp

def effective (cfg : Config) (s : BillingSession) (quota : ℤ) : ℤ := if s.shouldTrust cfg then 0 else quota

lemma effective_nonneg (s : BillingSession) (hqt : 0≤quota) : 0≤effective cfg s quota := by
  unfold effective
  split <;> omega

lemma preConsume_cases {r : Except ApiError BillingSession} (hqt : 0≤quota)
    (hroll : env.rollbackFails=false) (h : (fresh info funding).preConsume cfg env penv quota w=some (r,w')) :
    ((∃ e, r=.error e) ∧ w'=w) ∨ ∃ funding' trusted,
      funding.preConsume env penv (effective cfg (.fresh info funding) quota)
        { w with token := w.token-tokenShare info (effective cfg (.fresh info funding) quota) } =
          some (.ok (funding',w')) ∧
      r=.ok (syncRelayInfo { fresh info funding' with
        trusted := trusted
        tokenConsumed := effective cfg (.fresh info funding) quota
        preConsumedQuota := effective cfg (.fresh info funding) quota }) := by
  have heff : 0≤effective cfg (.fresh info funding) quota := effective_nonneg _ hqt
  unfold preConsume at h
  have hfold : (if (fresh info funding).shouldTrust cfg then (0 : ℤ) else quota) =
      effective cfg (.fresh info funding) quota := rfl
  simp only [hfold] at h
  clear hfold
  generalize effective cfg (.fresh info funding) quota=eff at h heff ⊢
  have htc : (if 0<eff then eff else (fresh info funding).tokenConsumed)=eff := by
    simp only [fresh]
    split <;> omega
  rw [htc] at h
  split at h
  · cases h
    exact .inl ⟨⟨_,rfl⟩,rfl⟩
  next w₁ htkn =>
  obtain ⟨out,hout,hr⟩ := Option.map_eq_some_iff.mp h
  have hw₁ : w₁={ w with token := w.token-tokenShare info eff } := token_step heff htkn
  subst hw₁
  split at hr
  next message =>
    obtain ⟨rfl,rfl⟩ := Prod.mk.inj hr
    refine .inl ⟨⟨_,rfl⟩,?_⟩
    rw [hroll]
    exact token_rollback heff
  next funding' w₂ =>
  obtain ⟨rfl,rfl⟩ := Prod.mk.inj hr
  exact .inr ⟨funding',_,hout,rfl⟩

lemma opened_wallet (hqt : 0≤quota) (hroll : env.rollbackFails=false)
    (h : (fresh info (.wallet 0)).preConsume cfg env penv quota w=some (.ok s,w')) :
    Opened w s w' := by
  have heff : 0≤effective cfg (.fresh info (.wallet 0)) quota := effective_nonneg _ hqt
  rcases preConsume_cases hqt hroll h with ⟨⟨e,he⟩,-⟩ | ⟨funding,trusted,hpre,hs⟩
  · cases he
  cases hs
  generalize effective cfg (.fresh info (.wallet 0)) quota=eff at heff hpre
  obtain ⟨info',heq,hplay,hsour,-⟩ := sync_eq { fresh info funding with
    trusted := trusted
    tokenConsumed := eff
    preConsumedQuota := eff }
  rw [heq]
  have hshr : tokenShare info' eff=tokenShare info eff := by simp only [tokenShare,hplay,fresh]
  simp only [FundingSource.preConsume] at hpre
  split at hpre
  next hzero =>
    obtain rfl : eff=0 := by omega
    cases hpre
    exact ⟨rfl,rfl,rfl,heff,rfl,by simp [tokenTaken],hsour,rfl,by simp,rfl⟩
  next hpos =>
  obtain ⟨w₂,hdec,hout⟩ := map_eq_ok (Option.some.inj hpre)
  cases hout
  obtain ⟨-,-,rfl⟩ := changeQuota_eq_ok.mp hdec
  refine ⟨rfl,rfl,rfl,heff,rfl,?_,hsour,rfl,?_,rfl⟩
  · simp only [tokenTaken,hshr]
    omega
  · simp only
    omega

lemma effective_subscription (f : SubscriptionFunding) : effective cfg (.fresh info (.subscription f)) quota=quota := by
  unfold effective shouldTrust fresh
  simp

lemma counts_charge {sub : UserSubscription} {amount : ℤ} (hlo : -2^63 ≤ sub.amountUsed)
    (hhi : sub.amountUsed<2^63) (htl : sub.amountTotal<2^63) (hpos : 0<amount)
    (hfits : sub.Fits amount) : Counts (sub.charge amount) (sub.amountUsed+amount) := by
  refine ⟨rfl,htl,fun hlim => ?_⟩
  simp only [charge,UserSubscription.Fits,wrap64] at hlim hfits ⊢
  omega

lemma backed_of_preConsume {db db' : SubDB} {res : PreConsumeResult}
    (hcol : ∀ sub∈db.subs, -2^63 ≤ sub.amountUsed ∧ sub.amountUsed<2^63 ∧ sub.amountTotal<2^63)
    (hids : ∀ sub∈db.subs, sub.id≠0) (hunus : db.findRecord f.requestId=none) (hlt : f.amount<2^63)
    (h : preConsumeUserSubscription penv.loc penv.plans penv.fuel db f.requestId f.userId f.amount penv.now =
      some (.ok res,db')) : SubBacked { f with
      subscriptionId := res.userSubscriptionId
      preConsumed := res.preConsumed
      amountTotal := res.amountTotal
      amountUsedAfter := res.amountUsedAfter } 0 f.amount db' := by
  rcases preConsumeUserSubscription_cases h with ⟨-,e,he,-⟩ | ⟨-,⟨r,hr⟩,-⟩ |
      ⟨hpos,hbln,-,_,hres,c,hc,plan,sub,hrst,hfits,rfl,hrecords,hfind,-⟩
  · cases he
  · rw [hunus] at hr
    cases hr
  cases hres
  have hmem := (SubDB.mem_candidates.mp hc).1
  obtain ⟨hlo,hhi,htl⟩ := hcol c hmem
  obtain ⟨hid,htot',hused⟩ := maybeReset_spec hrst
  have hcoun : Counts (sub.charge f.amount) (sub.amountUsed+f.amount) := by
    apply counts_charge _ _ (by omega) hpos hfits
    all_goals rcases hused with hu | hu <;> rw [hu] <;> omega
  have hbase : wrap64 ((sub.charge f.amount).amountUsed-f.amount)=sub.amountUsed := by
    rcases hused with hu | hu <;> simp only [charge,wrap64,hu] <;> omega
  refine ⟨hid ▸ hids c hmem,hpos,by omega,by simp,hlt,hbln,⟨_,hfind,?_⟩,SubDB.findRecord_append hrecords hunus⟩
  rw [base,hbase]
  exact hcoun

lemma opened_subscription (hrdy : Ready w info)
    (hreq : f.requestId=info.requestId) (hamo : f.amount=quota) (hqt : 0≤quota)
    (hlt : quota<2^63) (hroll : env.rollbackFails=false)
    (h : (fresh info (.subscription f)).preConsume cfg env penv quota w=some (.ok s,w')) : Opened w s w' := by
  rcases preConsume_cases hqt hroll h with ⟨⟨e,he⟩,-⟩ | ⟨funding,trusted,hpre,hs⟩
  · cases he
  cases hs
  rw [effective_subscription] at hpre ⊢
  simp only [FundingSource.preConsume] at hpre
  split at hpre
  · cases hpre
  obtain ⟨⟨r,db⟩,htx,hout⟩ := Option.map_eq_some_iff.mp hpre
  cases r with
  | error e => cases hout
  | ok res =>
    cases hout
    have hback := backed_of_preConsume hrdy.columns hrdy.ids (hreq ▸ hrdy.unused) (hamo ▸ hlt) htx
    subst quota
    obtain ⟨info',heq,hplay,hsour,hid⟩ := sync_eq _
    rw [heq]
    refine ⟨rfl,rfl,rfl,hqt,rfl,?_,hsour,rfl,hid _ rfl,hback⟩
    simp only [tokenTaken,tokenShare,hplay,fresh]
    omega

structure Attempt (w : World) (out : Option (Except ApiError BillingSession × World)) : Prop where
  opened : ∀ s w', out=some (.ok s,w') → Opened w s w'
  failed : ∀ e w', out=some (.error e,w') → w'=w

namespace Attempt

lemma error (w : World) (e : ApiError) : Attempt w (some (.error e,w)) where
  opened s w' h := by cases h
  failed e w' h := by cases h; rfl

lemma preConsume (hqt : 0≤quota) (hroll : env.rollbackFails=false)
    (hopen : ∀ s w', (fresh info funding).preConsume cfg env penv quota w=some (.ok s,w') → Opened w s w') :
    Attempt w ((fresh info funding).preConsume cfg env penv quota w) where
  opened := hopen
  failed e w' h := by
    rcases preConsume_cases hqt hroll h with ⟨-,hw⟩ | ⟨_,_,-,hr⟩
    · exact hw
    · cases hr

lemma orElseIfInsufficient {first : Option (Except ApiError BillingSession × World)}
    {second : ApiError → World → Option (Except ApiError BillingSession × World)} (h : Attempt w first)
    (h' : ∀ e, Attempt w (second e w)) : Attempt w (orElseIfInsufficient first second) := by
  cases hfirst : first with
  | none => exact ⟨fun s w' h => (by cases h),fun e w' h => (by cases h)⟩
  | some out =>
    obtain ⟨r,w₁⟩ := out
    cases r with
    | ok s =>
      rw [hfirst] at h
      exact h
    | error e =>
      obtain rfl := h.failed e w₁ hfirst
      simp only [Billing.orElseIfInsufficient,Option.bind_some]
      split
      · exact h' e
      · exact error w₁ e

variable {env : OpenEnv}
lemma tryWallet (hqt : 0≤quota) (hroll : env.wallet.rollbackFails=false) :
    Attempt w (tryWallet cfg env info quota w) := by
  unfold Billing.tryWallet
  split
  · exact error w _
  split
  · exact error w _
  split
  · exact error w _
  · exact preConsume hqt hroll fun s w' h => opened_wallet hqt hroll h

lemma trySubscription (hrdy : Ready w info) (hlt : quota<2^63)
    (hroll : env.subscription.rollbackFails=false) : Attempt w (trySubscription cfg env info quota w) := by
  unfold Billing.trySubscription
  have hpos : 0≤(if quota≤0 then 1 else quota) := by split <;> omega
  have hlt : (if quota≤0 then 1 else quota)<2^63 := by split <;> omega
  exact preConsume hpos hroll fun s w' h => opened_subscription hrdy rfl rfl hpos hlt hroll h

lemma newBillingSession (hrdy : Ready w info) (hqt : 0≤quota) (hlt : quota<2^63)
    (hwall : env.wallet.rollbackFails=false) (hsub : env.subscription.rollbackFails=false) :
    Attempt w (newBillingSession cfg env info quota w) := by
  have hw : Attempt w (Billing.tryWallet cfg env info quota w) := tryWallet hqt hwall
  have hs : Attempt w (Billing.trySubscription cfg env info quota w) := trySubscription hrdy hlt hsub
  unfold Billing.newBillingSession
  split
  · exact hs
  · exact hw
  · exact hw.orElseIfInsufficient fun _ => hs
  split
  · exact error w _
  split
  · exact error w _
  split
  · exact hw
  refine hs.orElseIfInsufficient fun e => ?_
  split
  · exact error w _
  split
  · exact hw
  · exact error w e
end Attempt

lemma exists_opened {o : Option (Except ApiError BillingSession × World)} {P : BillingSession → World → Prop}
    [∀ s w, Decidable (P s w)] (h : (o.any fun x => x.1.toOption.any fun s => decide (P s x.2))=true) :
    ∃ s w, o=some (.ok s,w) ∧ P s w := by
  obtain ⟨⟨x,w⟩,ho,hx⟩ := (Option.any_eq_true _ _).mp h
  obtain ⟨s,rfl,hP⟩ := exists_of_ok hx
  exact ⟨s,w,ho,hP⟩
end AronaApi.Billing
