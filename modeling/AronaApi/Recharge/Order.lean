import AronaApi.Lib.FloatArith
import AronaApi.User.Row

/-! Top-up orders and the five functions that complete them (`model/topup.go`). Each function is an
instance of `examine`, the checks between the `SELECT` and the first write, and of `creditUser`, the
write to the user's row. -/
namespace AronaApi.Recharge
open Decimal

inductive TopUpStatus
  | pending | success | failed | expired
  deriving DecidableEq

inductive PaymentProvider
  | epay | stripe | creem | waffo | waffoPancake | balance | other (name : String)
  deriving DecidableEq

/-- `amount` is an integer column, `money` a floating-point one, given by the shortest decimal that denotes it. -/
structure TopUp where
  userId : ℕ
  amount : ℤ
  money : ℚ
  paymentProvider : PaymentProvider
  completeTime : ℤ
  status : TopUpStatus
  deriving DecidableEq

/-- `quotaPerUnit` is given by a decimal too; `dbAssign` is how the database stores a fractional value in the integer quota column. -/
structure Config where
  quotaPerUnit : ℚ
  float : FloatArith
  dbAssign : ℚ → ℤ

inductive Delivery
  | recharge (customerId : String)
  | rechargeCreem (customerEmail : String)
  | rechargeWaffo
  | rechargeWaffoPancake
  | manualCompleteTopUp

/-- What the checks after the `SELECT` decide: roll back with an error, return at once because the
order is completed already, or go on. -/
inductive Verdict
  | reject (message : String)
  | already
  | proceed
  deriving DecidableEq

/-- The checks, in the order of the source: the provider, a completed order (for the functions that
return early on it), any other status, and the sign of the credit where it is checked. -/
def examine (provider : Option PaymentProvider) (returnsOnSuccess : Bool) (statusMessage : String)
    (quotaToAdd : Option ℤ) (topUp : TopUp) : Verdict :=
  if ∃ p∈provider, topUp.paymentProvider≠p then .reject "payment method mismatch"
  else if returnsOnSuccess ∧ topUp.status=.success then .already
  else if topUp.status≠.pending then .reject statusMessage
  else if ∃ q∈quotaToAdd, q≤0 then .reject "无效的充值额度"
  else .proceed

/-- `amount * QuotaPerUnit`, the credit of an order priced in units. -/
def amountQuota (cfg : Config) (topUp : TopUp) : ℤ := intPart (topUp.amount*cfg.quotaPerUnit)

/-- `money * QuotaPerUnit` in floating point, the credit of a Stripe order. -/
def moneyQuota (cfg : Config) (topUp : TopUp) : ℚ :=
  cfg.float.mul (cfg.float.round topUp.money) (cfg.float.round cfg.quotaPerUnit)

/-- A Stripe order is priced in `money`, the others in `amount`, both as decimals. -/
def manualQuota (cfg : Config) (topUp : TopUp) : ℤ :=
  if topUp.paymentProvider=.stripe then intPart (topUp.money*cfg.quotaPerUnit) else amountQuota cfg topUp

def Delivery.examine (cfg : Config) (topUp : TopUp) : Delivery → Verdict
  | .recharge _ => Recharge.examine (some .stripe) false "充值订单状态错误" none topUp
  | .rechargeCreem _ => Recharge.examine (some .creem) false "充值订单状态错误" none topUp
  | .rechargeWaffo => Recharge.examine (some .waffo) true "充值订单状态错误" (amountQuota cfg topUp) topUp
  | .rechargeWaffoPancake =>
    Recharge.examine (some .waffoPancake) true "充值订单状态错误" (amountQuota cfg topUp) topUp
  | .manualCompleteTopUp =>
    Recharge.examine none true "订单状态不是待支付，无法补单" (manualQuota cfg topUp) topUp

/-- The error the caller sees: only the manual completion passes the inner one on. -/
def Delivery.report (message : String) : Delivery → String
  | .manualCompleteTopUp => message
  | _ => "充值失败，请稍后重试"

/-- The assignments of the `UPDATE` of the user's row; `setEmail` is what `RechargeCreem` decided
when it read the row. -/
def Delivery.creditUser (cfg : Config) (topUp : TopUp) (setEmail : Bool) (u : User) : Delivery → User
  | .recharge customerId =>
    { u with stripeCustomer := customerId, quota := cfg.dbAssign (u.quota+moneyQuota cfg topUp) }
  | .rechargeCreem customerEmail =>
    { u with quota := u.quota+topUp.amount, email := if setEmail then customerEmail else u.email }
  | .rechargeWaffo | .rechargeWaffoPancake => u.addQuota (amountQuota cfg topUp)
  | .manualCompleteTopUp => u.addQuota (manualQuota cfg topUp)

/-- Only `RechargeCreem` reads the user before it writes, and only for a customer with an email. -/
def Delivery.readsUser : Delivery → Bool
  | .rechargeCreem customerEmail => decide (customerEmail ≠ "")
  | _ => false

variable {topUp : TopUp}
lemma examine_pending {provider : Option PaymentProvider} {early : Bool} {message : String} {quotaToAdd : Option ℤ}
    (h : examine provider early message quotaToAdd topUp=.proceed) : topUp.status=.pending := by
  unfold examine at h
  by_contra hp
  split at h
  · cases h
  · split at h <;> cases h

lemma Delivery.pending_of_proceed {cfg : Config} {d : Delivery}
    (h : d.examine cfg topUp=.proceed) : topUp.status=.pending := by
  cases d <;> exact examine_pending h

def TopUp.complete (topUp : TopUp) (now : ℤ) : TopUp := { topUp with completeTime := now, status := .success }

@[simp] lemma Delivery.creditUser_complete (cfg : Config) (topUp : TopUp) (now : ℤ) (setEmail : Bool)
    (u : User) (d : Delivery) : d.creditUser cfg (topUp.complete now) setEmail u=d.creditUser cfg topUp setEmail u := by
  cases d <;> rfl
end AronaApi.Recharge
