import AronaApi.Lib.Schedule
import AronaApi.Billing.Opening

/-! Conservation over a whole session: however reservations, settlements and refunds follow each other
and whichever of their writes fail, the sources lose the settled amount, or nothing. -/
namespace AronaApi.Billing
open GoStd Schedule Subscription FundingSource
open BillingSession (rollbackFundingReserve)
variable {w₀ w : World} {s : BillingSession} {cfg : Config} {env : Env} {delta actual : ℤ} {funding : FundingSource}
variable {w₁ : World}
/-- A reservation keeps the session backed, and so does its rollback. -/
lemma Opened.reserveFunding (h : Opened w₀ s w) (hpos : 0<delta)
    (hlt : s.preConsumedQuota+delta<2^63) (hun : env.fundingFails=false → Unclamped s.funding w delta)
    (hr : s.reserveFunding env delta w=.ok (funding,w₁)) :
    (env.fundingFails=false ∧ w₁.token=w.token ∧ Backed w₀ w₁ { s with
        funding := funding
        preConsumedQuota := s.preConsumedQuota+delta
        extraReserved := s.extraReserved+delta }) ∧
    (env.rollbackFails=false → Unclamped s.funding w 0 →
      (rollbackFundingReserve env delta w₁ funding).2.token=w₁.token ∧
      Backed w₀ (rollbackFundingReserve env delta w₁ funding).2
        { s with funding := (rollbackFundingReserve env delta w₁ funding).1 }) := by
  have hb := h.backed
  unfold Backed at hb
  unfold BillingSession.reserveFunding at hr
  unfold Unclamped at hun ⊢
  cases hf : s.funding with
  | wallet consumed =>
    simp only [hf] at hb hr
    obtain ⟨hsour,hdb,htkn,hcons⟩ := hb
    split at hr
    · cases hr
    next w' hdec =>
    cases hr
    obtain ⟨-,hfls,rfl⟩ := changeQuota_eq_ok.mp hdec
    simp only [Backed]
    refine ⟨⟨hfls,trivial,hsour,hdb,by omega,by omega⟩,fun hroll _ => ?_⟩
    have hback : increaseUserQuota env.rollbackFails delta { w with wallet := w.wallet-delta } =
        .ok { w with wallet := w.wallet-delta+delta } :=
      changeQuota_eq_ok.mpr ⟨Int.le_of_lt hpos,hroll,rfl⟩
    simp only [rollbackFundingReserve,hback]
    exact ⟨trivial,hsour,hdb,by omega,by omega⟩
  | subscription f =>
    simp only [hf] at hb hr hun
    obtain ⟨hsour,hwall,hid,hsub⟩ := hb
    split at hr
    · cases hr
    next w' hdec =>
    cases hr
    obtain ⟨hfls,db,hpost,rfl⟩ := postConsumeDelta_eq_ok.mp hdec
    have hnew := hsub.reserve hpos hlt (hun hfls) hpost
    simp only [Backed]
    refine ⟨⟨hfls,trivial,hsour,hwall,hid,hnew⟩,fun hroll hzero => ?_⟩
    obtain ⟨db',hback,hold⟩ := hsub.rollback hnew hpos hzero
    have hrl' : postConsumeDelta env.rollbackFails { w with db := db } f.subscriptionId (-delta) =
        .ok { w with db := db' } := postConsumeDelta_eq_ok.mpr ⟨hroll,db',hback,rfl⟩
    simp only [rollbackFundingReserve,hrl',orLog_ok]
    exact ⟨trivial,hsour,hwall,hid,hold⟩

lemma preConsumeTokenQuota_isOk (cfg : Config) (env : Env) (info : RelayInfo) (quota : ℤ) (w w' : World) :
    (preConsumeTokenQuota cfg info env quota w).isOk=(preConsumeTokenQuota cfg info env quota w').isOk := by
  unfold preConsumeTokenQuota
  split
  · rfl
  split
  · rfl
  cases env.tokenRead with
  | none => rfl
  | some remain =>
    simp only [decreaseTokenQuota,changeQuota]
    split
    · rfl
    split <;> rfl

lemma reserveToken_isOk (s : BillingSession) (delta : ℤ) (w w' : World) :
    (s.reserveToken cfg env delta w).isOk=(s.reserveToken cfg env delta w').isOk := by
  unfold BillingSession.reserveToken
  split
  · rfl
  have hsame := preConsumeTokenQuota_isOk cfg env s.relayInfo delta w w'
  cases hw : preConsumeTokenQuota cfg s.relayInfo env delta w <;>
    cases hw' : preConsumeTokenQuota cfg s.relayInfo env delta w' <;>
    rw [hw,hw'] at hsame
  · rfl
  · cases hsame
  · cases hsame
  · rfl

/-- What `Reserve` writes to the counter, each as the distance from the counter before the call: the
reservation and, where the token refuses, its rollback. -/
def reserveWrites (cfg : Config) (env : Env) (targetQuota : ℤ) (s : BillingSession) (w : World) : List ℤ :=
  if s.settled ∨ s.refunded ∨ s.trusted ∨ targetQuota ≤ s.preConsumedQuota ∨ env.fundingFails then []
  else if (s.reserveToken cfg env (targetQuota-s.preConsumedQuota) w).isOk then [targetQuota-s.preConsumedQuota]
  else [targetQuota-s.preConsumedQuota,0]

lemma Opened.reserve (h : Opened w₀ s w) (hroll : env.rollbackFails=false) {targetQuota : ℤ}
    (hlt : targetQuota<2^63) (hun : ∀ delta∈reserveWrites cfg env targetQuota s w, Unclamped s.funding w delta) :
    Opened w₀ (s.reserve cfg env targetQuota w).2.1 (s.reserve cfg env targetQuota w).2.2 := by
  unfold BillingSession.reserve
  split
  · exact h
  next hgo =>
  have hpos : 0<targetQuota-s.preConsumedQuota := by
    simp only [not_or] at hgo
    omega
  have hgo' : ∀ hfls : env.fundingFails=false, ¬(s.settled ∨ s.refunded ∨ s.trusted ∨
      targetQuota ≤ s.preConsumedQuota ∨ env.fundingFails) := by
    intro hfls
    simp only [not_or] at hgo ⊢
    exact ⟨hgo.1,hgo.2.1,hgo.2.2.1,hgo.2.2.2,by simp [hfls]⟩
  simp only
  split
  · exact h
  next funding w₁ hfund =>
  have hdlt : env.fundingFails=false → Unclamped s.funding w (targetQuota-s.preConsumedQuota) := by
    intro hfls
    apply hun
    rw [reserveWrites,if_neg (hgo' hfls)]
    split <;> simp
  obtain ⟨⟨hfls,htkn,hback⟩,hundo⟩ := h.reserveFunding hpos (by omega) hdlt hfund
  have ht := h.token
  split
  next e hres =>
    have hzero : Unclamped s.funding w 0 := by
      apply hun
      rw [reserveWrites,if_neg (hgo' hfls),reserveToken_isOk s _ w w₁,hres]
      simp [Except.isOk,Except.toBool]
    obtain ⟨htok',hbck'⟩ := hundo hroll hzero
    refine ⟨h.settled,h.refunded,h.fundingSettled,h.nonneg,h.consumed,?_,hbck'⟩
    simp only [tokenTaken,htok',htkn] at ht ⊢
    exact ht
  next w₂ hres =>
  have hw₂ := reserveToken_eq_ok hpos hres
  refine Opened.sync ⟨h.settled,h.refunded,h.fundingSettled,?_,?_,?_,?_⟩
  · have := h.nonneg
    simp only
    omega
  · have := h.consumed
    simp only
    omega
  · simp only [tokenTaken,hw₂,htkn,tokenShare_add] at ht ⊢
    omega
  · rw [hw₂]
    exact hback

lemma Opened.fundingSettle (h : Opened w₀ s w) {fails : Bool} (hdlt : delta≠0)
    (hlo : -2^63 ≤ s.preConsumedQuota+delta) (hlt : s.preConsumedQuota+delta<2^63)
    (hun : fails=false → Unclamped s.funding w delta) (hr : s.funding.settle fails delta w=.ok w₁) :
    w₁.token=w.token ∧ fundingTaken w₀ s.funding w₁=s.preConsumedQuota+delta ∧ OtherUntouched w₀ s.funding w₁ := by
  have hb := h.backed
  unfold Backed at hb
  unfold settle at hr
  unfold Unclamped at hun
  unfold OtherUntouched
  cases hf : s.funding with
  | wallet consumed =>
    simp only [hf,if_neg hdlt,fundingTaken] at hb hr ⊢
    obtain ⟨-,hdb,htkn,-⟩ := hb
    split at hr
    all_goals
      obtain ⟨-,-,rfl⟩ := changeQuota_eq_ok.mp hr
      exact ⟨rfl,by simp only; omega,hdb⟩
  | subscription f =>
    simp only [hf,if_neg hdlt] at hb hr hun ⊢
    obtain ⟨-,hwall,-,hsub⟩ := hb
    obtain ⟨hfls,db,hpost,rfl⟩ := postConsumeDelta_eq_ok.mp hr
    obtain ⟨sub,hfind,hused⟩ := hsub.settle hdlt (hun hfls) hpost
    exact ⟨rfl,fundingTaken_of_find w₀ hfind hused hlo hlt,hwall⟩

structure Settled (w₀ : World) (s : BillingSession) (w : World) (actual : ℤ) (tokenFailed : Bool) : Prop where
  settled : s.settled=true
  refunded : s.refunded=false
  taken : fundingTaken w₀ s.funding w=actual
  other : OtherUntouched w₀ s.funding w
  playground : s.relayInfo.isPlayground=true → tokenTaken w₀ w=0
  token : s.relayInfo.isPlayground=false → tokenFailed=false → tokenTaken w₀ w=actual

def failed {α ε : Type} (r : Except ε α) : Bool := !r.toBool

lemma close_isPlayground (s : BillingSession) (delta : ℤ) :
    (s.close delta).relayInfo.isPlayground=s.relayInfo.isPlayground := by
  unfold BillingSession.close
  split <;> rfl

/-- What `Settle` writes to the counter. -/
def settleWrites (env : Env) (actualQuota : ℤ) (s : BillingSession) : List ℤ :=
  if s.settled ∨ actualQuota=s.preConsumedQuota ∨ env.fundingFails then []
  else [actualQuota-s.preConsumedQuota]

lemma Opened.settle (env : Env) (h : Opened w₀ s w) (hlo : -2^63≤actual)
    (hlt : actual<2^63) (hun : ∀ delta∈settleWrites env actual s, Unclamped s.funding w delta) :
    ((s.settle env actual w).2.1.settled=false ∧ Opened w₀ (s.settle env actual w).2.1 (s.settle env actual w).2.2) ∨
      Settled w₀ (s.settle env actual w).2.1 (s.settle env actual w).2.2 actual (failed (s.settle env actual w).1) := by
  have htkn := h.token
  unfold BillingSession.settle
  rw [if_neg (by simp [h.settled])]
  simp only [h.fundingSettled,Bool.false_eq_true,if_false]
  split
  next hzero =>
    refine .inr ⟨rfl,h.refunded,?_,h.taken.2,fun hplay => ?_,fun hplay _ => ?_⟩
    · have := h.taken.1
      simp only
      omega
    · simp only at hplay ⊢
      rw [htkn,tokenShare,if_pos hplay]
    · simp only at hplay ⊢
      rw [htkn,tokenShare,if_neg (by simp [hplay])]
      omega
  next hdlt =>
  split
  · exact .inl ⟨h.settled,h⟩
  next w₁ hfund =>
  have hdlt' : env.fundingFails=false → Unclamped s.funding w (actual-s.preConsumedQuota) := by
    intro hfls
    have hne : actual≠s.preConsumedQuota := by omega
    apply hun
    simp [settleWrites,h.settled,hfls,hne]
  obtain ⟨ht₁,htaken,hoth⟩ := h.fundingSettle hdlt (by omega) (by omega) hdlt' hfund
  have htaken : fundingTaken w₀ s.funding w₁=actual := by omega
  have htok : tokenTaken w₀ w₁=tokenShare s.relayInfo s.preConsumedQuota := by rw [← htkn,tokenTaken,tokenTaken,ht₁]
  split
  · refine .inr ⟨rfl,h.refunded,htaken,hoth,fun hplay => ?_,fun _ hok => ?_⟩
    · rw [close_isPlayground] at hplay
      rw [htok,tokenShare,if_pos hplay]
    · cases hok
  next w₂ hres =>
  have hw₂ := settleToken_eq_ok hres
  have hshr : tokenTaken w₀ w₂=tokenShare s.relayInfo actual := by
    have hsplit := tokenShare_add s.relayInfo s.preConsumedQuota (actual-s.preConsumedQuota)
    rw [show s.preConsumedQuota+(actual-s.preConsumedQuota)=actual by omega] at hsplit
    rw [hsplit,← htok,hw₂]
    simp only [tokenTaken]
    omega
  rw [hw₂] at hshr ⊢
  obtain ⟨hsame,hiff⟩ := fundingTaken_token w₀ s.funding w₁
    (w₁.token-tokenShare s.relayInfo (actual-s.preConsumedQuota))
  refine .inr ⟨rfl,h.refunded,hsame.trans htaken,hiff.mpr hoth,fun hplay => ?_,fun hplay _ => ?_⟩
  · rw [close_isPlayground] at hplay
    rw [hshr,tokenShare,if_pos hplay]
  · rw [close_isPlayground] at hplay
    rw [hshr,tokenShare,if_neg (by simp [hplay])]

/-- What an effective `Refund` writes to the counter: first the pre-consume goes, then what was reserved
later. -/
def refundWrites (s : BillingSession) : List ℤ :=
  if s.needsRefund then [s.extraReserved-s.preConsumedQuota,-s.preConsumedQuota] else []

lemma Opened.fundingRefund (h : Opened w₀ s w) (hroll : env.rollbackFails=false)
    (hpre : Unclamped s.funding w (s.extraReserved-s.preConsumedQuota))
    (hall : Unclamped s.funding w (-s.preConsumedQuota)) :
    (s.refundFunding env w).token=w.token ∧ fundingTaken w₀ s.funding (s.refundFunding env w)=0 ∧
      OtherUntouched w₀ s.funding (s.refundFunding env w) := by
  have hb := h.backed
  have hnonn := h.nonneg
  unfold Backed at hb
  unfold BillingSession.refundFunding OtherUntouched
  cases hf : s.funding with
  | wallet consumed =>
    simp only [hf,fundingTaken] at hb ⊢
    obtain ⟨-,hdb,htkn,hcons⟩ := hb
    simp only [refund]
    split
    · exact ⟨rfl,by simp only [orLog_ok]; omega,hdb⟩
    next hpos =>
    have hback : increaseUserQuota env.rollbackFails consumed w = .ok { w with wallet := w.wallet+consumed } :=
      changeQuota_eq_ok.mpr ⟨by omega,hroll,rfl⟩
    rw [hback]
    exact ⟨rfl,by simp only [orLog_ok]; omega,hdb⟩
  | subscription f =>
    unfold Unclamped at hpre hall
    simp only [hf] at hb hpre hall ⊢
    obtain ⟨-,hwall,hid,hsub⟩ := hb
    have hsum := hsub.sum
    rw [show s.extraReserved-s.preConsumedQuota = -f.preConsumed by omega] at hpre
    obtain ⟨db',hback,sub,hfind,hcoun⟩ := hsub.refund hpre
    have href : refund env.rollbackFails w (.subscription f)=.ok { w with db := db' } := by
      rw [refund,if_neg (Int.not_le.mpr hsub.pos),hback]
      simp [hroll]
    simp only [href,orLog_ok,hid]
    split
    next hgive =>
      obtain ⟨db'',hpost,sub',hfnd',husd'⟩ := hsub.refundExtra hfind hcoun hgive.1 hall
      have hpst' : postConsumeDelta env.rollbackFails { w with db := db' } f.subscriptionId (-s.extraReserved) =
          .ok { w with db := db'' } := postConsumeDelta_eq_ok.mpr ⟨hroll,db'',hpost,rfl⟩
      rw [hpst',orLog_ok]
      exact ⟨rfl,fundingTaken_of_find w₀ hfnd' husd' (by omega) (by omega),hwall⟩
    next hgive =>
    have hid_pos : 0<f.subscriptionId := Nat.pos_of_ne_zero hsub.id_ne
    have hext := hsub.extra_nonneg
    have hnone : s.extraReserved=0 := by
      by_contra hne
      exact hgive ⟨by omega,hid_pos⟩
    rw [hnone] at hcoun
    exact ⟨rfl,fundingTaken_of_find w₀ hfind hcoun.used (by omega) (by omega),hwall⟩

structure Refunded (w₀ : World) (s : BillingSession) (w : World) : Prop where
  settled : s.settled=false
  refunded : s.refunded=true
  taken : fundingTaken w₀ s.funding w=0
  other : OtherUntouched w₀ s.funding w
  token : tokenTaken w₀ w=0

lemma Opened.refund (h : Opened w₀ s w) (hroll : env.rollbackFails=false)
    (hun : ∀ delta∈refundWrites s, Unclamped s.funding w delta) :
    Opened w₀ (s.refund env w).1 (s.refund env w).2 ∨ Refunded w₀ (s.refund env w).1 (s.refund env w).2 := by
  have hshr := h.token
  have hcons := h.consumed
  have hnonn := h.nonneg
  unfold BillingSession.refund
  split
  · exact .inl h
  next hnds =>
  have hnds : s.needsRefund=true := by simpa [h.settled,h.refunded] using hnds
  rw [refundWrites,if_pos hnds] at hun
  obtain ⟨htkn,htaken,hoth⟩ := h.fundingRefund hroll (hun _ (by simp)) (hun _ (by simp))
  refine .inr ?_
  simp only
  split
  next hgive =>
    have hback : increaseTokenQuota env.rollbackFails s.tokenConsumed (s.refundFunding env w) =
        .ok { s.refundFunding env w with token := (s.refundFunding env w).token+s.tokenConsumed } :=
      changeQuota_eq_ok.mpr ⟨Int.le_of_lt hgive.1,hroll,rfl⟩
    rw [hback,orLog_ok]
    obtain ⟨hsame,hiff⟩ := fundingTaken_token w₀ s.funding (s.refundFunding env w)
      ((s.refundFunding env w).token+s.tokenConsumed)
    refine ⟨h.settled,rfl,hsame.trans htaken,hiff.mpr hoth,?_⟩
    simp only [tokenShare,hgive.2,Bool.false_eq_true,if_false,tokenTaken] at hshr
    simp only [tokenTaken,htkn]
    omega
  next hgive =>
  refine ⟨h.settled,rfl,htaken,hoth,?_⟩
  rw [tokenTaken,htkn,← tokenTaken,hshr,tokenShare]
  split
  · rfl
  next hplay =>
  by_contra hne
  exact hgive ⟨by omega,Bool.eq_false_iff.mpr hplay⟩

inductive Call
  | reserve (env : Env) (targetQuota : ℤ)
  | settle (env : Env) (actualQuota : ℤ)
  | refund (env : Env)

/-- A session, the world around it, and what its calls have reported: the amount of the first settlement
that got past the funding source, and whether that one's write to the token failed. -/
structure Run where
  session : BillingSession
  world : World
  first : Option ℤ
  tokenFailed : Bool

def start (s : BillingSession) (w : World) : Run := ⟨s,w,none,false⟩

def step (cfg : Config) (r : Run) : Call → Option Run
  | .reserve env target =>
    let out := r.session.reserve cfg env target r.world
    some { r with session := out.2.1, world := out.2.2 }
  | .settle env actual =>
    let out := r.session.settle env actual r.world
    if r.session.settled=false ∧ out.2.1.settled then some ⟨out.2.1,out.2.2,some actual,failed out.1⟩
    else some { r with session := out.2.1, world := out.2.2 }
  | .refund env =>
    let out := r.session.refund env r.world
    some { r with session := out.1, world := out.2 }

def writes (cfg : Config) (r : Run) : Call → List ℤ
  | .reserve env target => reserveWrites cfg env target r.session r.world
  | .settle env actual => settleWrites env actual r.session
  | .refund _ => refundWrites r.session

/-- The amounts are `int`s, writes that take earlier ones back succeed, and nothing is settled after a
refund. -/
def Allowed (r : Run) : Call → Prop
  | .reserve env target => env.rollbackFails=false ∧ target<2^63
  | .settle _ actual => r.session.refunded=false ∧ -2^63≤actual ∧ actual<2^63
  | .refund env => env.rollbackFails=false

instance (r : Run) (c : Call) : Decidable (Allowed r c) :=
  match c with
  | .reserve _ _ => inferInstanceAs (Decidable (_ ∧ _))
  | .settle _ _ => inferInstanceAs (Decidable (_ ∧ _ ∧ _))
  | .refund env => inferInstanceAs (Decidable (env.rollbackFails=false))

def Proper (cfg : Config) (r : Run) (c : Call) : Prop :=
  Allowed r c ∧ ∀ delta∈writes cfg r c, Unclamped r.session.funding r.world delta

instance (r : Run) (c : Call) : Decidable (Proper cfg r c) := inferInstanceAs (Decidable (_ ∧ _))

inductive Stage (w₀ : World) (r : Run) : Prop
  | opened (h : Opened w₀ r.session r.world) (first : r.first=none)
  | settled (actual : ℤ) (h : Settled w₀ r.session r.world actual r.tokenFailed) (first : r.first=some actual)
  | refunded (h : Refunded w₀ r.session r.world) (first : r.first=none)

lemma reserve_of_closed (h : s.settled=true ∨ s.refunded=true) (target : ℤ) :
    s.reserve cfg env target w=(.ok (),s,w) := by
  unfold BillingSession.reserve
  rw [if_pos]
  rcases h with h | h <;> simp [h]

lemma refund_of_closed (h : s.settled=true ∨ s.refunded=true) : s.refund env w=(s,w) := by
  unfold BillingSession.refund
  rw [if_pos]
  rcases h with h | h <;> simp [h]

lemma settle_of_settled (h : s.settled=true) (actual : ℤ) : s.settle env actual w=(.ok (),s,w) := by
  unfold BillingSession.settle
  rw [if_pos h]

variable {r t : Run}
section
variable (h : Stage w₀ r)
include h
lemma Stage.opened_or_closed : (Opened w₀ r.session r.world ∧ r.first=none) ∨
    (r.session.settled=true ∨ r.session.refunded=true) := by
  cases h with
  | opened h first => exact .inl ⟨h,first⟩
  | settled actual h => exact .inr (.inl h.settled)
  | refunded h => exact .inr (.inr h.refunded)

lemma stage_reserve {target : ℤ} (hok : Proper cfg r (.reserve env target))
    (hs : step cfg r (.reserve env target)=some t) : Stage w₀ t := by
  cases hs
  obtain ⟨⟨hroll,hlt⟩,hun⟩ := hok
  obtain ⟨hope,first⟩ | hclosed := h.opened_or_closed
  · exact .opened (hope.reserve hroll hlt hun) first
  rw [reserve_of_closed hclosed]
  exact h

lemma stage_settle (hok : Proper cfg r (.settle env actual))
    (hs : step cfg r (.settle env actual)=some t) : Stage w₀ t := by
  obtain ⟨⟨hopen,hlo,hlt⟩,hun⟩ := hok
  simp only [step] at hs
  cases h with
  | opened h first =>
    rcases h.settle env hlo hlt hun with ⟨hstl,hope⟩ | hsett
    · rw [if_neg (by simp [hstl])] at hs
      cases hs
      exact .opened hope first
    rw [if_pos ⟨h.settled,hsett.settled⟩] at hs
    cases hs
    exact .settled actual hsett rfl
  | settled first h hfirst =>
    rw [if_neg (by simp [h.settled])] at hs
    cases hs
    refine .settled first ?_ hfirst
    rw [settle_of_settled h.settled]
    exact h
  | refunded h first =>
    rw [h.refunded] at hopen
    cases hopen

lemma stage_refund (hok : Proper cfg r (.refund env)) (hs : step cfg r (.refund env)=some t) : Stage w₀ t := by
  cases hs
  obtain ⟨hope,first⟩ | hclosed := h.opened_or_closed
  · rcases hope.refund hok.1 hok.2 with hopen | href
    · exact .opened hopen first
    · exact .refunded href first
  · rw [refund_of_closed hclosed]
    exact h

lemma stage_step {c : Call} (hok : Proper cfg r c) (hs : step cfg r c=some t) : Stage w₀ t := by
  cases c with
  | reserve env target => exact stage_reserve h hok hs
  | settle env actual => exact stage_settle h hok hs
  | refund env => exact stage_refund h hok hs

lemma Stage.token : (r.session.relayInfo.isPlayground=true → tokenTaken w₀ r.world=0) ∧
    (r.session.relayInfo.isPlayground=false → r.tokenFailed=false →
      tokenTaken w₀ r.world=fundingTaken w₀ r.session.funding r.world) := by
  cases h with
  | opened h first =>
    rw [h.token,h.taken.1,tokenShare]
    exact ⟨fun hplay => if_pos hplay,fun hplay _ => if_neg (by simp [hplay])⟩
  | settled actual h first => exact ⟨h.playground,fun hplay hok => (h.token hplay hok).trans h.taken.symm⟩
  | refunded h first => exact ⟨fun _ => h.token,fun _ _ => h.token.trans h.taken.symm⟩
end

def steadyPlan : SubscriptionPlan where
  id := 1
  durationUnit := .hour
  durationValue := 1
  totalAmount := 1000
  totalAmount_lt := thousand_lt_cap

def sampleInfo : RelayInfo where
  userId := 1
  requestId := "request"
  tokenQuota := 500

def sampleConfig : Config := ⟨500000,fun _ => ""⟩

def calm : Env := ⟨false,some 500,false,false,false⟩

def sampleOpen : OpenEnv := ⟨some 300,calm,calm,⟨utc,fun _ => some steadyPlan,1,200⟩,200,false,false⟩

/-- A user with 300 in the wallet, 500 on the token, and a subscription with 900 left. -/
def sampleWorld : World := ⟨300,500,⟨[⟨1,1,1,1000,100,100,3700,.active,"order",0,0,"","","",true⟩],[],2⟩⟩

/-- 50 is pre-consumed and raised to 80; the first settlement fails, the second one stands. -/
def settledAtSecond : List Call :=
  [.reserve calm 80,.settle { calm with fundingFails := true } 60,.settle calm 70,.settle calm 90,.refund calm]

end AronaApi.Billing
