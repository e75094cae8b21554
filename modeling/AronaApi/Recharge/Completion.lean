import AronaApi.Recharge.Order

/-! What a completed order is worth. The manual completion has to give what the order's own gateway would have
given, and the notification of an epay order, whose two writes share no transaction, has to give it at all. -/
namespace AronaApi.Recharge
open Decimal User

/-- What of an epay notification the handler acts upon: the signature, the trade status, and whether the order was
found under its number. -/
structure Notification where
  verified : Bool
  tradeSuccess : Bool
  found : Bool

/-- `EpayNotify` from the answer to the gateway on, with the failures of its two writes. -/
def epayNotify (cfg : Config) (n : Notification) (updateFails increaseFails : Bool) (topUp : TopUp) (u : User) :
    String × TopUp × User :=
  if n.verified=false then ("fail",topUp,u)
  else if n.tradeSuccess=false ∨ n.found=false then ("success",topUp,u)
  else if topUp.paymentProvider≠.epay ∨ topUp.status≠.pending ∨ updateFails then ("success",topUp,u)
  -- `IncreaseUserQuota` refuses negative amounts
  else if amountQuota cfg topUp<0 ∨ increaseFails then ("success",{ topUp with status := .success },u)
  else ("success",{ topUp with status := .success },u.addQuota (amountQuota cfg topUp))

/-! What the completions add. -/

/-- The amount in the `UPDATE` of the user's row. -/
def Delivery.amount (cfg : Config) (topUp : TopUp) : Delivery → ℚ
  | .recharge _ => moneyQuota cfg topUp
  | .rechargeCreem _ => topUp.amount
  | .rechargeWaffo | .rechargeWaffoPancake => amountQuota cfg topUp
  | .manualCompleteTopUp => manualQuota cfg topUp

/-- The quota that a completion adds, truncated; nothing if the order is refused. -/
def Delivery.adds (cfg : Config) (topUp : TopUp) (d : Delivery) : ℤ :=
  if d.examine cfg topUp=.proceed then intPart (d.amount cfg topUp) else 0

def ownAdds (cfg : Config) (topUp : TopUp) : Option ℤ :=
  match topUp.paymentProvider with
  | .epay => some ((epayNotify cfg ⟨true,true,true⟩ false false topUp (.blank "")).2.2.quota)
  | .stripe => some ((Delivery.recharge "").adds cfg topUp)
  | .creem => some ((Delivery.rechargeCreem "").adds cfg topUp)
  | .waffo => some (Delivery.rechargeWaffo.adds cfg topUp)
  | .waffoPancake => some (Delivery.rechargeWaffoPancake.adds cfg topUp)
  | .balance | .other _ => none

/-- A pending Stripe order is not worth a negative quota and no whole quota lies between its product in floating point
and the one in decimals, and a pending Creem order, whose amount is a quota already,
is worth nothing or is read with a unit of one quota. -/
def SameUnit (cfg : Config) (topUp : TopUp) : Prop :=
  topUp.status=.pending → match topUp.paymentProvider with
    | .stripe => -1 < moneyQuota cfg topUp ∧
        ∀ n : ℤ, 0<n → (n ≤ moneyQuota cfg topUp ↔ n≤topUp.money*cfg.quotaPerUnit)
    | .creem => topUp.amount=0 ∨
        0<topUp.amount ∧ 1 ≤ cfg.quotaPerUnit ∧ topUp.amount*cfg.quotaPerUnit<topUp.amount+1
    | _ => True

variable {cfg : Config} {topUp : TopUp}
lemma examine_eq_proceed_iff {provider : Option PaymentProvider} {early : Bool} {message : String} {quota : Option ℤ} :
    examine provider early message quota topUp=.proceed ↔
      (∀ p∈provider, topUp.paymentProvider=p) ∧ topUp.status=.pending ∧ ∀ q∈quota, 0<q := by
  unfold examine
  cases hstatus : topUp.status <;> split_ifs <;> simp_all

lemma credited_creem_iff {n : ℤ} {q : ℚ} : (if 0 < intPart (n*q) then intPart (n*q) else 0)=n ↔
    n=0 ∨ 0<n ∧ 1≤q ∧ n*q<n+1 := by
  rcases lt_trichotomy n 0 with hneg | rfl | hpos
  · constructor
    · intro h
      split at h <;> omega
    · omega
  · simp
  · have hcast : (0 : ℚ)<n := Int.cast_pos.mpr hpos
    have hunit := intPart_eq_iff_of_pos (q := n*q) hpos
    rw [le_mul_iff_one_le_right hcast] at hunit
    rw [or_iff_right hpos.ne',and_iff_right hpos,← hunit]
    split <;> omega

lemma credited_stripe_iff {p q : ℚ} : (if 0 < intPart q then intPart q else 0)=intPart p ↔
    -1<p ∧ ∀ n : ℤ, 0<n → (n≤p ↔ n≤q) := by
  rw [← intPart_nonneg_iff]
  constructor
  · refine fun h => ⟨by split at h <;> omega,fun n hn => ?_⟩
    rw [← le_intPart_iff hn,← le_intPart_iff hn]
    split at h <;> omega
  · rintro ⟨hnn,hall⟩
    have hle {n : ℤ} (hn : 0<n) : n ≤ intPart p ↔ n ≤ intPart q := by
      rw [le_intPart_iff hn,le_intPart_iff hn,hall n hn]
    have hp := fun h => (hle (n := intPart p) h).mp le_rfl
    have hq := fun h => (hle (n := intPart q) h).mpr le_rfl
    split <;> omega

/-- The order and the user's quota are as before, or the pending order is done and the user has its worth. -/
def PaidIfDone (cfg : Config) (topUp : TopUp) (u : User) (after : String × TopUp × User) : Prop :=
  (after.2.1.status=topUp.status ∧ after.2.2.quota=u.quota) ∨
    (topUp.status=.pending ∧ after.2.1.status=.success ∧ after.2.2.quota=u.quota+amountQuota cfg topUp)

instance (cfg : Config) (topUp : TopUp) (u : User) (after : String × TopUp × User) :
    Decidable (PaidIfDone cfg topUp u after) := inferInstanceAs (Decidable (_ ∨ _))

def Notification.Completes (n : Notification) (topUp : TopUp) : Prop :=
  n.verified=true ∧ n.tradeSuccess=true ∧ n.found=true ∧ topUp.paymentProvider=.epay ∧ topUp.status=.pending

/-- An order is done only with its credit exactly if, whenever a notification completes it and the order is written,
the order is worth nothing, or it is not negative and the user's row is written too. -/
theorem epay_paid_if_done_iff (cfg : Config) (n : Notification) (updateFails increaseFails : Bool) (topUp : TopUp)
    (u : User) : PaidIfDone cfg topUp u (epayNotify cfg n updateFails increaseFails topUp u) ↔
      (n.Completes topUp → updateFails=false →
        amountQuota cfg topUp=0 ∨ 0<amountQuota cfg topUp ∧ increaseFails=false) := by
  by_cases hdone : n.Completes topUp ∧ updateFails=false
  · obtain ⟨⟨hver,htrd,hfnd,hprov,hpending⟩,rfl⟩ := hdone
    have hcmp : n.Completes topUp := ⟨hver,htrd,hfnd,hprov,hpending⟩
    simp only [PaidIfDone,epayNotify,hcmp,hver,htrd,hfnd,hprov,hpending,ne_eq,reduceCtorEq,
      not_true_eq_false,or_self,if_false,forall_const,true_and]
    split_ifs with hcred
    · rcases hcred with hneg | rfl
      · simp; omega
      · simp
    · obtain ⟨hnonn,hwrit⟩ := not_or.mp hcred
      simp [addQuota,hwrit]; omega
  · have hsame : (epayNotify cfg n updateFails increaseFails topUp u).2=(topUp,u) := by
      unfold epayNotify
      split_ifs <;> simp_all [Notification.Completes]
    rw [PaidIfDone,hsame]
    tauto

/-- The second write fails: the order is done, the gateway has its answer, and neither another notification nor a
manual completion credits the user any more. -/
theorem done_without_credit :
    let cfg : Config := ⟨500000,.ideal,fun q => q.floor⟩
    let after := epayNotify cfg ⟨true,true,true⟩ false true ⟨1,10,10,.epay,0,.pending⟩ (.blank "user")
    after.1 = "success" ∧ after.2.1.status=.success ∧ after.2.2.quota=0 ∧
      (epayNotify cfg ⟨true,true,true⟩ false false after.2.1 after.2.2).2=after.2 ∧
      Delivery.manualCompleteTopUp.examine cfg after.2.1=.already ∧
      ¬PaidIfDone cfg ⟨1,10,10,.epay,0,.pending⟩ (.blank "user") after := by decide +kernel
end AronaApi.Recharge
