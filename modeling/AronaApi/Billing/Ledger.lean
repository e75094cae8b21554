import AronaApi.Billing.Session
import AronaApi.Subscription.Usage

/-! The accounts behind an open billing session: what the session believes it has taken is what is
missing from its funding source and from the token. -/
namespace AronaApi.Billing
open GoStd Subscription BillingSession SubDB

variable {fails : Bool} {quota : ℤ} {w w' : World}
lemma changeQuota_eq_ok {v : World} : changeQuota fails quota v=.ok w' ↔ 0≤quota ∧ fails=false ∧ w'=v := by
  unfold changeQuota
  split
  · simp only [reduceCtorEq,false_iff]
    omega
  split
  next hf => simp [hf]
  next hq hf =>
  have hf : fails=false := Bool.eq_false_iff.mpr hf
  simp only [Except.ok.injEq,hf,true_and]
  exact ⟨fun h => ⟨by omega,h.symm⟩,fun h => h.2.symm⟩

@[simp] lemma orLog_ok : orLog w (.ok w')=w' := rfl

def tokenShare (info : RelayInfo) (quota : ℤ) : ℤ := if info.isPlayground then 0 else quota

@[simp] lemma tokenShare_zero (info : RelayInfo) : tokenShare info 0=0 := by simp [tokenShare]

lemma tokenShare_add (info : RelayInfo) (a b : ℤ) : tokenShare info (a+b)=tokenShare info a+tokenShare info b := by
  unfold tokenShare
  split <;> omega

variable {cfg : Config} {env : Env}
lemma preConsumeTokenQuota_eq_ok {info : RelayInfo} (h : preConsumeTokenQuota cfg info env quota w=.ok w') :
    w'={ w with token := w.token-tokenShare info quota } := by
  unfold preConsumeTokenQuota at h
  split at h
  · cases h
  split at h
  next hplay =>
    cases h
    simp [tokenShare,hplay]
  next hplay =>
  split at h
  · cases h
  split at h
  · cases h
  obtain ⟨-,-,rfl⟩ := changeQuota_eq_ok.mp h
  simp [tokenShare,hplay]

variable {s : BillingSession}
lemma reserveToken_eq_ok (hpos : 0<quota) (h : s.reserveToken cfg env quota w=.ok w') :
    w'={ w with token := w.token-tokenShare s.relayInfo quota } := by
  unfold reserveToken at h
  split at h
  next hskip =>
    have hplay := hskip.resolve_left (Int.not_le.mpr hpos)
    cases h
    simp [tokenShare,hplay]
  next =>
    split at h
    · cases h
    next htkn =>
    cases h
    exact preConsumeTokenQuota_eq_ok htkn

lemma settleToken_eq_ok (h : s.settleToken env quota w=.ok w') :
    w'={ w with token := w.token-tokenShare s.relayInfo quota } := by
  unfold settleToken at h
  unfold tokenShare
  split at h
  next hplay =>
    cases h
    simp [hplay]
  next hplay =>
  rw [if_neg hplay]
  split at h
  · obtain ⟨-,-,rfl⟩ := changeQuota_eq_ok.mp h
    rfl
  · obtain ⟨-,-,rfl⟩ := changeQuota_eq_ok.mp h
    rw [Int.sub_eq_add_neg]

def used (db : SubDB) (id : ℕ) : ℤ := ((db.find id).map fun sub => sub.amountUsed).getD 0

def base (f : SubscriptionFunding) : ℤ := wrap64 (f.amountUsedAfter-f.preConsumed)

lemma base_bounds (f : SubscriptionFunding) : -2^63≤base f ∧ base f<2^63 := by
  unfold base wrap64
  omega

/-- What the session's funding source has lost since the world was `w₀`; a subscription's counter is
an `int64`, and so is the difference of two of its values. -/
def fundingTaken (w₀ : World) (funding : FundingSource) (w : World) : ℤ :=
  match funding with
  | .wallet _ => w₀.wallet-w.wallet
  | .subscription f => wrap64 (used w.db f.subscriptionId-base f)

def tokenTaken (w₀ w : World) : ℤ := w₀.token-w.token

def OtherUntouched (w₀ : World) (funding : FundingSource) (w : World) : Prop :=
  match funding with
  | .wallet _ => w.db=w₀.db
  | .subscription _ => w.wallet=w₀.wallet

lemma fundingTaken_token (w₀ : World) (funding : FundingSource) (w : World) (t : ℤ) :
    fundingTaken w₀ funding { w with token := t }=fundingTaken w₀ funding w ∧
      (OtherUntouched w₀ funding { w with token := t } ↔ OtherUntouched w₀ funding w) := by
  cases funding with
  | wallet consumed | subscription f => exact ⟨rfl,Iff.rfl⟩

/-- The row's counter stands for `n`: the counter of an unlimited row may have wrapped around. -/
structure Counts (sub : UserSubscription) (n : ℤ) : Prop where
  used : sub.amountUsed=wrap64 n
  total_lt : sub.amountTotal<2^63
  le : 0<sub.amountTotal → n ≤ sub.amountTotal

namespace Counts
variable {sub : UserSubscription} {n delta : ℤ}
lemma newUsed (h : Counts sub n) (hclm : 0≤wrap64 (sub.amountUsed+delta)) : sub.newUsed delta=wrap64 (n+delta) := by
  simp only [UserSubscription.newUsed]
  rw [if_neg (Int.not_lt.mpr hclm),h.used]
  unfold wrap64
  omega

lemma add (h : Counts sub n) (hlo : -2^63≤n+delta) (hlt : n+delta<2^64) (hclm : 0≤wrap64 (sub.amountUsed+delta))
    (hle : 0<sub.amountTotal → sub.newUsed delta ≤ sub.amountTotal) :
    Counts { sub with amountUsed := sub.newUsed delta } (n+delta) := by
  have hnew := h.newUsed hclm
  refine ⟨hnew,h.total_lt,fun hlim => ?_⟩
  have hle := hle hlim
  have hnonn := sub.newUsed_nonneg delta
  rw [hnew] at hle hnonn
  unfold wrap64 at hle hnonn
  simp only
  omega

lemma takeOff (h : Counts sub n) (hneg : delta≤0) (hlo : -2^63≤n+delta) (hclm : 0≤wrap64 (sub.amountUsed+delta)) :
    (0<sub.amountTotal → sub.newUsed delta ≤ sub.amountTotal) ∧
      Counts { sub with amountUsed := sub.newUsed delta } (n+delta) := by
  have hnew := h.newUsed hclm
  have htl := h.total_lt
  refine ⟨fun hlim => ?_,hnew,htl,fun hlim => ?_⟩
  · have hle := h.le hlim
    rw [hnew,wrap64_of_bounds hlo (by omega)]
    omega
  · have hle : n ≤ sub.amountTotal := h.le hlim
    simp only
    omega
end Counts

/-- The row and the record behind a subscription session that has taken `total`, `extra` of it after
the pre-consume. -/
structure SubBacked (f : SubscriptionFunding) (extra total : ℤ) (db : SubDB) : Prop where
  id_ne : f.subscriptionId≠0
  pos : 0<f.preConsumed
  extra_nonneg : 0≤extra
  sum : f.preConsumed+extra=total
  total_lt : total<2^63
  not_blank : trimSpace f.requestId ≠ ""
  row : ∃ sub, db.find f.subscriptionId=some sub ∧ Counts sub (base f+total)
  record : db.findRecord f.requestId = some ⟨f.requestId,f.userId,f.subscriptionId,f.preConsumed,.consumed⟩

def Backed (w₀ w : World) (s : BillingSession) : Prop :=
  match s.funding with
  | .wallet consumed => s.relayInfo.billingSource=.wallet ∧ w.db=w₀.db ∧
      w₀.wallet-w.wallet=s.preConsumedQuota ∧ consumed=s.preConsumedQuota
  | .subscription f => s.relayInfo.billingSource=.subscription ∧ w.wallet=w₀.wallet ∧
      s.relayInfo.subscriptionId=f.subscriptionId ∧ SubBacked f s.extraReserved s.preConsumedQuota w.db

structure Opened (w₀ : World) (s : BillingSession) (w : World) : Prop where
  settled : s.settled=false
  refunded : s.refunded=false
  fundingSettled : s.fundingSettled=false
  nonneg : 0 ≤ s.preConsumedQuota
  consumed : s.tokenConsumed=s.preConsumedQuota
  token : tokenTaken w₀ w=tokenShare s.relayInfo s.preConsumedQuota
  backed : Backed w₀ w s

variable {sub : UserSubscription} {id : ℕ}
lemma used_of_find {db : SubDB} (h : db.find id=some sub) : used db id=sub.amountUsed := by simp [used,h]

lemma fundingTaken_of_find (w₀ : World) {f : SubscriptionFunding} {n : ℤ}
    (hfind : w.db.find f.subscriptionId=some sub) (h : sub.amountUsed=wrap64 (base f+n))
    (hlo : -2^63≤n) (hlt : n<2^63) : fundingTaken w₀ (.subscription f) w=n := by
  rw [fundingTaken,used_of_find hfind,h]
  unfold wrap64
  omega

variable {w₀ : World}
lemma Opened.taken (h : Opened w₀ s w) :
    fundingTaken w₀ s.funding w=s.preConsumedQuota ∧ OtherUntouched w₀ s.funding w := by
  have hb := h.backed
  unfold Backed at hb
  unfold fundingTaken OtherUntouched
  split
  next hf =>
    rw [hf] at hb
    exact ⟨hb.2.2.1,hb.2.1⟩
  next f hf =>
  rw [hf] at hb
  obtain ⟨-,hwall,-,hsub⟩ := hb
  obtain ⟨sub,hfind,hcoun⟩ := hsub.row
  have hnonn := h.nonneg
  exact ⟨fundingTaken_of_find w₀ hfind hcoun.used (by omega) hsub.total_lt,hwall⟩

section
variable (s : BillingSession)
lemma sync_eq : ∃ info, s.syncRelayInfo={ s with relayInfo := info } ∧
    info.isPlayground=s.relayInfo.isPlayground ∧ info.billingSource=s.funding.source ∧
      ∀ f, s.funding=.subscription f → info.subscriptionId=f.subscriptionId := by
  unfold syncRelayInfo
  split
  next hf => exact ⟨_,rfl,rfl,rfl,fun f h => by rw [hf] at h; cases h⟩
  next f hf => exact ⟨_,rfl,rfl,rfl,fun g h => by rw [hf] at h; cases h; rfl⟩
end

lemma Opened.sync (h : Opened w₀ s w) : Opened w₀ s.syncRelayInfo w := by
  obtain ⟨info,heq,hplay,hsour,hid⟩ := sync_eq s
  rw [heq]
  refine ⟨h.settled,h.refunded,h.fundingSettled,h.nonneg,h.consumed,?_,?_⟩
  · rw [h.token]
    simp only [tokenShare,hplay]
  · have hb := h.backed
    unfold Backed at hb ⊢
    cases hf : s.funding with
    | wallet consumed =>
      simp only [hf] at hb hsour ⊢
      exact ⟨hsour,hb.2⟩
    | subscription f =>
      simp only [hf] at hb hsour ⊢
      exact ⟨hsour,hb.2.1,hid f hf,hb.2.2.2⟩

lemma postConsumeDelta_eq_ok {delta : ℤ} : postConsumeDelta fails w id delta=.ok w' ↔
      fails=false ∧ ∃ db, postConsumeUserSubscriptionDelta w.db id delta=.ok db ∧ w'={ w with db := db } := by
  unfold postConsumeDelta
  cases fails with
  | true => simp
  | false =>
    cases postConsumeUserSubscriptionDelta w.db id delta with
    | error e => simp
    | ok db => simp [eq_comm]

def Unclamped (funding : FundingSource) (w : World) (delta : ℤ) : Prop :=
  match funding with
  | .wallet _ => True
  | .subscription f => ∀ sub∈w.db.find f.subscriptionId, 0≤wrap64 (sub.amountUsed+delta)

instance (funding : FundingSource) (w : World) (delta : ℤ) : Decidable (Unclamped funding w delta) :=
  match funding with
  | .wallet _ => inferInstanceAs (Decidable True)
  | .subscription f => inferInstanceAs (Decidable (∀ sub∈w.db.find f.subscriptionId, _))

namespace SubBacked
variable {f : SubscriptionFunding} {extra total delta : ℤ} {db db' : SubDB}
variable (h : SubBacked f extra total db)
include h
lemma reserve (hdlt : 0<delta) (hlt : total+delta<2^63)
    (huncl : ∀ sub∈db.find f.subscriptionId, 0≤wrap64 (sub.amountUsed+delta))
    (hpost : postConsumeUserSubscriptionDelta db f.subscriptionId delta=.ok db') :
    SubBacked f (extra+delta) (total+delta) db' := by
  obtain ⟨sub,hsub,hcoun⟩ := h.row
  rcases postConsume_cases hpost with ⟨h0,-⟩ | ⟨sub',hsub',rfl,hle⟩
  · omega
  cases hsub.symm.trans hsub'
  obtain ⟨hlo,hhi⟩ := base_bounds f
  have hpos := h.pos
  have hsum := h.sum
  have hext := h.extra_nonneg
  have hnew := hcoun.add (by omega) (by omega) (huncl sub hsub) hle
  rw [Int.add_assoc] at hnew
  exact ⟨h.id_ne,hpos,by omega,by omega,hlt,h.not_blank,⟨_,find_save_self hsub _ rfl,hnew⟩,h.record⟩

lemma settle (hdlt : delta≠0) (huncl : ∀ sub∈db.find f.subscriptionId, 0≤wrap64 (sub.amountUsed+delta))
    (hpost : postConsumeUserSubscriptionDelta db f.subscriptionId delta=.ok db') :
    ∃ sub, db'.find f.subscriptionId=some sub ∧ sub.amountUsed=wrap64 (base f+(total+delta)) := by
  obtain ⟨sub,hsub,hcoun⟩ := h.row
  rcases postConsume_cases hpost with ⟨h0,-⟩ | ⟨sub',hsub',rfl,-⟩
  · exact absurd h0 hdlt
  cases hsub.symm.trans hsub'
  refine ⟨_,find_save_self hsub _ rfl,?_⟩
  rw [← Int.add_assoc]
  exact hcoun.newUsed (huncl sub hsub)

lemma rollback (hnew : SubBacked f (extra+delta) (total+delta) db')
    (hdlt : 0<delta) (huncl : ∀ sub∈db.find f.subscriptionId, 0≤wrap64 (sub.amountUsed+0)) :
    ∃ db'', postConsumeUserSubscriptionDelta db' f.subscriptionId (-delta)=.ok db'' ∧ SubBacked f extra total db'' := by
  obtain ⟨sub,hsub,hcoun⟩ := h.row
  obtain ⟨sub',hsub',hcn'⟩ := hnew.row
  obtain ⟨hlo,hhi⟩ := base_bounds f
  have hpos := h.pos
  have hsum := h.sum
  have hext := h.extra_nonneg
  have hclm : 0≤wrap64 (sub'.amountUsed+-delta) := by
    have hold := huncl sub hsub
    rw [hcoun.used] at hold
    rw [hcn'.used]
    unfold wrap64 at hold ⊢
    omega
  obtain ⟨hle,hback⟩ := hcn'.takeOff (by omega) (by omega) hclm
  rw [show base f+(total+delta)+-delta=base f+total by omega] at hback
  exact ⟨_,postConsume_of_le hsub' h.id_ne (by omega) hle,h.id_ne,hpos,hext,hsum,h.total_lt,h.not_blank,
    ⟨_,find_save_self hsub' _ rfl,hback⟩,hnew.record⟩

lemma refund (huncl : ∀ sub∈db.find f.subscriptionId, 0≤wrap64 (sub.amountUsed+-f.preConsumed)) :
    ∃ db', refundSubscriptionPreConsume db f.requestId=.ok db' ∧
      ∃ sub, db'.find f.subscriptionId=some sub ∧ Counts sub (base f+extra) := by
  obtain ⟨sub,hsub,hcoun⟩ := h.row
  obtain ⟨hlo,hhi⟩ := base_bounds f
  have hsum := h.sum
  have hext := h.extra_nonneg
  have htl := h.total_lt
  have hpos := h.pos
  obtain ⟨hle,hnew⟩ := hcoun.takeOff (by omega) (by omega) (huncl sub hsub)
  rw [show base f+total+-f.preConsumed=base f+extra by omega] at hnew
  exact ⟨_,refund_of_consumed h.not_blank h.record rfl hpos (by simp only; omega)
    (postConsume_of_le hsub h.id_ne (by simp only; omega) hle),_,find_save_self hsub _ rfl,hnew⟩

lemma refundExtra (hsub : db'.find f.subscriptionId=some sub) (hcoun : Counts sub (base f+extra)) (hpos : 0<extra)
    (huncl : ∀ sub∈db.find f.subscriptionId, 0≤wrap64 (sub.amountUsed+-total)) :
    ∃ db'', postConsumeUserSubscriptionDelta db' f.subscriptionId (-extra)=.ok db'' ∧
      ∃ sub, db''.find f.subscriptionId=some sub ∧ sub.amountUsed=wrap64 (base f+0) := by
  obtain ⟨old,hold,hcnt⟩ := h.row
  obtain ⟨hlo,hhi⟩ := base_bounds f
  have hclm : 0≤wrap64 (sub.amountUsed+-extra) := by
    have hnonn := huncl old hold
    rw [hcnt.used] at hnonn
    rw [hcoun.used]
    unfold wrap64 at hnonn ⊢
    omega
  obtain ⟨hle,hnew⟩ := hcoun.takeOff (by omega) (by omega) hclm
  rw [show base f+extra+-extra=base f+0 by omega] at hnew
  exact ⟨_,postConsume_of_le hsub h.id_ne (by omega) hle,_,find_save_self hsub _ rfl,hnew.used⟩
end SubBacked
end AronaApi.Billing
