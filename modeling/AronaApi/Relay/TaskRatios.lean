import AronaApi.Lib.Decimal
import Mathlib

/-! The price of a task (`relay/relay_task.go`): a quota per call, multiplied by the ratios of the request one after
another and cut down to an integer each time. -/
namespace AronaApi.TaskRatios
open Decimal

/-- A `map[string]float64`: its entries in the order in which a loop visits them. -/
abbrev Ratios := List (String × ℚ)

structure PriceData where
  freeModel : Bool := false
  quota : ℤ := 0
  otherRatios : Ratios := []

def setRatio (ratios : Ratios) (key : String) (ratio : ℚ) : Ratios := (key,ratio)::ratios.filter fun kv => kv.1≠key

def PriceData.addOtherRatio (p : PriceData) (kv : String × ℚ) : PriceData :=
  if kv.2≤0 then p else { p with otherRatios := setRatio p.otherRatios kv.1 kv.2 }

/-- The quota after the loop over `OtherRatios`. -/
def applyRatios (quota : ℤ) (ratios : Ratios) : ℤ :=
  ratios.foldl (fun quota kv => if kv.2≠1 then intPart (quota*kv.2) else quota) quota

def divideRatios (quota : ℤ) (ratios : Ratios) : ℤ :=
  ratios.foldl (fun baseQuota kv => if kv.2≠1 ∧ 0<kv.2 then intPart (baseQuota/kv.2) else baseQuota) quota

def recalcQuotaFromRatios (p : PriceData) (ratios : Ratios) : ℤ :=
  let baseQuota := divideRatios p.quota p.otherRatios
  intPart (ratios.foldl (fun result kv => if kv.2≠1 then result*kv.2 else result) (baseQuota : ℚ))

/-- What `ModelPriceHelperPerCall` reads. -/
structure CallPrice where
  modelPrice : Option ℚ
  defaultPrice : Option ℚ := none
  modelRatio : ℚ := 0
  ratioSuccess : Bool := false
  acceptUnsetRatio : Bool := false
  quotaPerUnit : ℚ
  groupRatio : ℚ
  enableFreeModelPreConsume : Bool := false

def modelPriceHelperPerCall (c : CallPrice) : Option PriceData :=
  let byRatio := if c.ratioSuccess || c.acceptUnsetRatio then some (c.modelRatio/2) else none
  (c.modelPrice <|> c.defaultPrice <|> byRatio).map fun price =>
    let freeModel := !c.enableFreeModelPreConsume && decide (c.groupRatio=0 ∨ price=0)
    { freeModel, quota := if freeModel then 0 else intPart (price*c.quotaPerUnit*c.groupRatio) }

/-- The task that a remix starts from: the ratios in its billing context, and the seconds (0 if they are no number) and
size in its data. -/
structure OriginTask where
  billingContext : Option Ratios
  seconds : ℤ := 0
  size : String := ""

/-- The end of `ResolveOriginTask`, for a remix. -/
def resolveOriginTask (origin : OriginTask) (p : PriceData) : PriceData :=
  match origin.billingContext with
  | some ratios => ratios.foldl PriceData.addOtherRatio p
  | none =>
    let seconds := if origin.seconds≤0 then 4 else origin.seconds
    let size := if origin.size = "1792x1024" ∨ origin.size = "1024x1792" then 1666667/1000000 else 1
    { p with otherRatios := setRatio (setRatio p.otherRatios "seconds" seconds) "size" size }

/-- A quota that was pre-consumed or settled, and the quota per call that it was computed from. -/
structure Charge where
  perCall : ℤ
  quota : ℤ
  deriving DecidableEq

structure TaskInfo where
  priceData : PriceData
  billing : Option Charge := none

/-- One attempt: what its adaptor estimates, and whether the steps before the price, the pre-consumption and the steps
after it succeed. -/
structure Attempt where
  modelName : String
  price : CallPrice
  estimateBilling : Ratios := []
  ready : Bool := true
  preConsumes : Bool := true
  answered : Bool := true

/-- Every adaptor embeds `BaseBilling`. -/
def adjustBillingOnSubmit : Ratios := []

def relayTaskSubmit (taskPricePatches : List String) (a : Attempt) (info : TaskInfo) : Option Charge × TaskInfo :=
  match if a.ready then modelPriceHelperPerCall a.price else none with
  | none => (none,info)
  | some priceData =>
    let p := a.estimateBilling.foldl PriceData.addOtherRatio priceData
    let p := if a.modelName∈taskPricePatches then p else { p with quota := applyRatios p.quota p.otherRatios }
    let charge : Charge := ⟨priceData.quota,p.quota⟩
    let info := { info with priceData := p }
    let bills := info.billing.isNone && !p.freeModel
    if bills && !a.preConsumes then (none,info)
    else
      let info := { info with billing := if bills then some charge else info.billing }
      if !a.answered then (none,info)
      else if adjustBillingOnSubmit.isEmpty then (some charge,info)
      else
        let finalQuota := recalcQuotaFromRatios p adjustBillingOnSubmit
        (some ⟨priceData.quota,finalQuota⟩,
          { info with priceData := { p with otherRatios := adjustBillingOnSubmit, quota := finalQuota } })

/-- The loop of `RelayTask`: the quota that is settled, and the info whose ratios go into the billing context. -/
def relayTask (taskPricePatches : List String) : List Attempt → TaskInfo → Option (Charge × TaskInfo)
  | [],_ => none
  | a::attempts,info =>
    match relayTaskSubmit taskPricePatches a info with
    | (some charge,info) => some (charge,info)
    | (none,info) => relayTask taskPricePatches attempts info

def Charge.Multiplied (ratios : Ratios) (c : Charge) : Prop := c.quota=applyRatios c.perCall ratios

def OriginTask.Unpriced (origin : OriginTask) :
    Prop := ∃ ratios, origin.billingContext=some ratios ∧ ∀ kv∈ratios, kv.2≤0

variable {patches : List String} {a : Attempt} {attempts : List Attempt} {info info' : TaskInfo} {charge : Charge}
lemma foldl_addOtherRatio_eq_nil (p : PriceData) (ratios : Ratios) :
    (ratios.foldl PriceData.addOtherRatio p).otherRatios=[] ↔ p.otherRatios=[] ∧ ∀ kv∈ratios, kv.2≤0 := by
  induction ratios generalizing p with
  | nil => simp
  | cons kv ratios ih =>
    rw [List.foldl_cons,ih,PriceData.addOtherRatio,List.forall_mem_cons]
    split
    next hle => simp [hle]
    next hpos => simp [hpos,setRatio]

lemma resolveOriginTask_eq_nil (origin : OriginTask) :
    (resolveOriginTask origin {}).otherRatios=[] ↔ origin.Unpriced := by
  unfold resolveOriginTask OriginTask.Unpriced
  cases origin.billingContext with
  | none => simp [setRatio]
  | some ratios => simp [foldl_addOtherRatio_eq_nil]

lemma relayTaskSubmit_plain (info : TaskInfo) (hmodel : a.modelName∉patches) (hest : a.estimateBilling=[]) :
    (∀ c∈(relayTaskSubmit patches a info).1, c.quota=c.perCall ∧
      (relayTaskSubmit patches a info).2.priceData.otherRatios=[]) ∧
    ∀ c∈(relayTaskSubmit patches a info).2.billing, c∈info.billing ∨ c.quota=c.perCall := by
  cases hprice : if a.ready then modelPriceHelperPerCall a.price else none with
  | none => simp +contextual [relayTaskSubmit,hprice]
  | some priceData =>
    have hnone : priceData.otherRatios=[] := by
      obtain ⟨hr,hp⟩ := Option.ite_none_right_eq_some.mp hprice
      obtain ⟨price,-,rfl⟩ := Option.map_eq_some_iff.mp hp
      rfl
    have hsame : applyRatios priceData.quota priceData.otherRatios=priceData.quota := by rw [hnone]; rfl
    have hadj : adjustBillingOnSubmit.isEmpty=true := rfl
    simp only [relayTaskSubmit,hprice,hest,List.foldl_nil,if_neg hmodel,hsame,hadj,if_true]
    split
    · exact ⟨fun c hc => (Option.not_mem_none c hc).elim,fun _ hc => .inl hc⟩
    have hnew : ∀ c∈if info.billing.isNone && !priceData.freeModel then some ⟨priceData.quota,priceData.quota⟩
        else info.billing, c∈info.billing ∨ c.quota=c.perCall := by
      intro c hc
      split at hc
      · exact .inr (Option.some.inj hc ▸ rfl)
      · exact .inl hc
    split
    · exact ⟨fun c hc => (Option.not_mem_none c hc).elim,hnew⟩
    · exact ⟨fun c hc => ⟨Option.some.inj hc ▸ rfl,hnone⟩,hnew⟩

lemma relayTask_plain (hmodel : ∀ a∈attempts, a.modelName∉patches) (hest : ∀ a∈attempts, a.estimateBilling=[])
    (h : relayTask patches attempts info=some (charge,info')) :
    charge.quota=charge.perCall ∧ info'.priceData.otherRatios=[] ∧
      ∀ c∈info'.billing, c∈info.billing ∨ c.quota=c.perCall := by
  induction attempts generalizing info with
  | nil => cases h
  | cons a attempts ih =>
    obtain ⟨hm,hmodel⟩ := List.forall_mem_cons.mp hmodel
    obtain ⟨he,hest⟩ := List.forall_mem_cons.mp hest
    obtain ⟨hres,hbill⟩ := relayTaskSubmit_plain info hm he
    rw [relayTask] at h
    split at h
    next c info₁ heq =>
      rw [heq] at hres hbill
      obtain ⟨rfl,rfl⟩ := Prod.mk.inj (Option.some.inj h)
      exact ⟨(hres _ rfl).1,(hres _ rfl).2,hbill⟩
    next info₁ heq =>
    rw [heq] at hbill
    obtain ⟨hq,hnone,hlater⟩ := ih hmodel hest h
    exact ⟨hq,hnone,fun c hc => (hlater c hc).elim (hbill c) .inr⟩

/-- The ratios of the original task reach neither the pre-consumption nor the settlement nor the billing context, so a
remix is billed by them only if there are none. -/
theorem remix_billed_iff (patches : List String) (origin : OriginTask) {attempts : List Attempt} {charge : Charge}
    {info : TaskInfo} (hmodel : ∀ a∈attempts, a.modelName∉patches) (hest : ∀ a∈attempts, a.estimateBilling=[])
    (h : relayTask patches attempts { priceData := resolveOriginTask origin {} }=some (charge,info)) :
    charge.Multiplied (resolveOriginTask origin {}).otherRatios ∧
      (∀ c∈info.billing, c.Multiplied (resolveOriginTask origin {}).otherRatios) ∧
      (∀ kv∈(resolveOriginTask origin {}).otherRatios, kv∈info.priceData.otherRatios) ↔ origin.Unpriced := by
  obtain ⟨hq,hnone,hbill⟩ := relayTask_plain hmodel hest h
  rw [← resolveOriginTask_eq_nil]
  constructor
  · rintro ⟨-,-,hkept⟩
    rw [hnone] at hkept
    exact List.eq_nil_iff_forall_not_mem.mpr fun kv hkv => List.not_mem_nil (hkept kv hkv)
  · intro hnil
    rw [hnil]
    refine ⟨hq,fun c hc => (hbill c hc).resolve_left ?_,fun kv hkv => (List.not_mem_nil hkv).elim⟩
    exact Option.not_mem_none c

/-- A price of 0.02 with half a million units each, and an attempt that the upstream refuses before one that it takes. -/
def retried : List Attempt :=
  [{ modelName := "sora-2", price := { modelPrice := some (1/50), quotaPerUnit := 500000, groupRatio := 1 },
     answered := false },
   { modelName := "sora-2", price := { modelPrice := some (1/50), quotaPerUnit := 500000, groupRatio := 1 } }]

theorem retried_without_ratios : ∃ charge info,
    relayTask [] retried { priceData := resolveOriginTask ⟨some [("seconds",0)],0,""⟩ {} }=some (charge,info) ∧ charge=⟨10000,10000⟩ ∧
      charge.Multiplied [] ∧ ∀ c∈info.billing, c.Multiplied [] := by
  have hsome : (relayTask [] retried { priceData := resolveOriginTask ⟨some [("seconds",0)],0,""⟩ {} }).map Prod.fst =
      some ⟨10000,10000⟩ := by decide +kernel
  obtain ⟨⟨charge,info⟩,h,hcharge⟩ := Option.map_eq_some_iff.mp hsome
  have hbilled := (remix_billed_iff [] ⟨some [("seconds",0)],0,""⟩ (by simp) (by decide) h).mpr ⟨_,rfl,by simp⟩
  exact ⟨charge,info,h,hcharge,hbilled.1,hbilled.2.1⟩

/-- A remix of a task of eight seconds costs as much as one of a second, and the next remix knows nothing of them. -/
theorem eight_seconds_unbilled :
    (relayTask [] retried { priceData := resolveOriginTask ⟨some [("seconds",8)],0,""⟩ {} }).map
      (fun r => (r.1,r.2.billing,r.2.priceData.otherRatios))=some (⟨10000,10000⟩,some ⟨10000,10000⟩,[]) ∧
    (resolveOriginTask ⟨some [("seconds",8)],0,""⟩ {}).otherRatios=[("seconds",8)] ∧
    ¬Charge.Multiplied [("seconds",8)] ⟨10000,10000⟩ := by
  refine ⟨by decide +kernel,by decide +kernel,?_⟩
  unfold Charge.Multiplied
  decide +kernel

open List

def product (ratios : Ratios) : ℚ := (ratios.map Prod.snd).prod

variable {n b : ℤ} {kv : String × ℚ} {ratios o o' : Ratios}
lemma applyRatios_cons : applyRatios b (kv::o)=applyRatios (intPart (b*kv.2)) o := by
  by_cases h : kv.2=1 <;> simp [applyRatios,h]

lemma divideRatios_cons (hr : 0<kv.2) : divideRatios b (kv::o)=divideRatios (intPart (b/kv.2)) o := by
  by_cases h : kv.2=1
  · simp [divideRatios,h]
  · simp [divideRatios,h,hr]

lemma product_cons : product (kv::o)=kv.2*product o := prod_cons

lemma product_perm (h : o.Perm o') : product o=product o' := (h.map Prod.snd).prod_eq

lemma product_pos (hpos : ∀ kv∈o, 0<kv.2) : 0<product o := prod_pos (forall_mem_map.mpr hpos)

lemma recalc_eq (p : PriceData) : recalcQuotaFromRatios p o=intPart (divideRatios p.quota p.otherRatios*product o) := by
  have hfold (x : ℚ) : o.foldl (fun result kv => if kv.2≠1 then result*kv.2 else result) x=x*product o := by
    induction o generalizing x with
    | nil => exact (mul_one x).symm
    | cons kv o ih =>
      rw [foldl_cons,ih,product_cons,← mul_assoc]
      split
      · rfl
      next h => rw [not_not.mp h,mul_one]
  rw [recalcQuotaFromRatios,hfold]

lemma applyRatios_neg : applyRatios (-b) o = -applyRatios b o := by
  induction o generalizing b with
  | nil => rfl
  | cons kv o ih => rw [applyRatios_cons,applyRatios_cons,Int.cast_neg,neg_mul,intPart_neg,ih]

lemma divideRatios_neg (hpos : ∀ kv∈o, 0<kv.2) : divideRatios (-b) o = -divideRatios b o := by
  induction o generalizing b with
  | nil => rfl
  | cons kv o ih =>
    obtain ⟨hr,hpos⟩ := forall_mem_cons.mp hpos
    rw [divideRatios_cons hr,divideRatios_cons hr,Int.cast_neg,neg_div,intPart_neg,ih hpos]

/-- No order of the loop matters, and a recalculation with the ratios that were applied changes nothing. -/
def Settled (base : ℤ) (ratios : Ratios) : Prop :=
  ∀ o o' o'', o.Perm ratios → o'.Perm ratios → o''.Perm ratios → applyRatios base o=applyRatios base o' ∧
      recalcQuotaFromRatios { quota := applyRatios base o, otherRatios := o' } o''=applyRatios base o

/-- The least quota of which ratios that are applied in this order leave anything. -/
def least : Ratios → ℤ
  | [] => 1
  | kv::o => ⌈least o/kv.2⌉

/-- A part of the quota gives a whole number with any of the ratios, and of the rest no order leaves anything. -/
def Whole (base : ℤ) (ratios : Ratios) : Prop :=
  ∃ kept rest : ℤ, base=kept+rest ∧ 0≤kept*rest ∧ (∀ part, part <+ ratios → ∃ n : ℤ, kept*product part=n) ∧
    ∀ o, o.Perm ratios → |rest|<least o

lemma least_pos (hpos : ∀ kv∈o, 0<kv.2) : 0<least o := by
  induction o with
  | nil => exact Int.one_pos
  | cons kv o ih =>
    obtain ⟨hr,hpos⟩ := forall_mem_cons.mp hpos
    exact Int.ceil_pos.mpr (div_pos (Int.cast_pos.mpr (ih hpos)) hr)

section
variable (hpos : ∀ kv∈o, 0<kv.2) (hb : 0≤b)
include hpos hb
lemma applyRatios_bounds : 0≤applyRatios b o ∧ (applyRatios b o : ℚ)≤b*product o := by
  induction o generalizing b with
  | nil => exact ⟨hb,(mul_one _).ge⟩
  | cons kv o ih =>
    obtain ⟨hr,hpos⟩ := forall_mem_cons.mp hpos
    obtain ⟨hnn,hle,-⟩ := intPart_bounds (mul_nonneg (Int.cast_nonneg hb) hr.le)
    rw [applyRatios_cons,product_cons,← mul_assoc]
    exact ⟨(ih hpos hnn).1,(ih hpos hnn).2.trans (mul_le_mul_of_nonneg_right hle (product_pos hpos).le)⟩

lemma applyRatios_eq_zero_iff : applyRatios b o=0 ↔ b<least o := by
  induction o generalizing b with
  | nil =>
    show b=0 ↔ b<1
    omega
  | cons kv o ih =>
    obtain ⟨hr,hpos⟩ := forall_mem_cons.mp hpos
    have hnn := mul_nonneg (Int.cast_nonneg hb) hr.le
    rw [applyRatios_cons,ih hpos (intPart_bounds hnn).1,least,Int.lt_ceil,lt_div_iff₀ hr,intPart_of_nonneg hnn,
      Rat.floor_lt_iff]

/-- What is whole passes the loop beside the rest. -/
lemma applyRatios_add (hn : 0≤n) (h : ∀ part, part <+ o → ∃ k : ℤ, n*product part=k) :
    (applyRatios (n+b) o : ℚ)=n*product o+applyRatios b o := by
  induction o generalizing n b with
  | nil => simp [applyRatios,product]
  | cons kv o ih =>
    obtain ⟨hr,hpos⟩ := forall_mem_cons.mp hpos
    obtain ⟨k,hk⟩ := h [kv] (singleton_sublist.mpr mem_cons_self)
    rw [product_cons,product,map_nil,prod_nil,mul_one] at hk
    have hknn : 0≤k := Int.cast_nonneg_iff.mp (hk ▸ mul_nonneg (Int.cast_nonneg hn) hr.le)
    obtain ⟨hnn,hle,hlt⟩ := intPart_bounds (mul_nonneg (Int.cast_nonneg hb) hr.le)
    have hcut : intPart ((n+b : ℤ)*kv.2)=k+intPart (b*kv.2) := by
      refine intPart_eq (Int.add_nonneg hknn hnn) ?_ ?_
      all_goals
        push_cast
        linarith
    rw [applyRatios_cons,applyRatios_cons,hcut,ih hpos hnn hknn,product_cons,← mul_assoc,hk]
    intro part hpart
    obtain ⟨j,hj⟩ := h (kv::part) (hpart.cons_cons kv)
    exact ⟨j,by rw [← hj,product_cons,← mul_assoc,hk]⟩

/-- Divisions that give the quota back were exact. -/
lemma divideRatios_exact : 0≤divideRatios b o ∧ divideRatios b o*product o≤b ∧
    (divideRatios b o*product o=b → ∀ done left, o=done++left → ∃ k : ℤ, (b : ℚ)=k*product done) := by
  induction o generalizing b with
  | nil =>
    refine ⟨hb,(mul_one _).le,fun _ done left h => ⟨b,?_⟩⟩
    rw [(append_eq_nil_iff.mp h.symm).1]
    exact (mul_one _).symm
  | cons kv o ih =>
    obtain ⟨hr,hpos⟩ := forall_mem_cons.mp hpos
    obtain ⟨hnn,hle,-⟩ := intPart_bounds (div_nonneg (Int.cast_nonneg hb) hr.le)
    obtain ⟨hdiv,hprod,hex⟩ := ih hpos hnn
    rw [divideRatios_cons hr,product_cons,mul_left_comm]
    rw [le_div_iff₀' hr] at hle
    refine ⟨hdiv,(mul_le_mul_of_nonneg_left hprod hr.le).trans hle,fun heq done left h => ?_⟩
    have hcut : kv.2*intPart (b/kv.2)=b := le_antisymm hle (heq.ge.trans (mul_le_mul_of_nonneg_left hprod hr.le))
    cases done with
    | nil => exact ⟨b,(mul_one _).symm⟩
    | cons kv' done =>
      obtain ⟨rfl,rfl⟩ := cons_eq_cons.mp h
      obtain ⟨k,hk⟩ := hex (mul_left_cancel₀ hr.ne' (heq.trans hcut.symm)) done left rfl
      exact ⟨k,by rw [← hcut,hk,product_cons,mul_left_comm]⟩
end

lemma divideRatios_whole (hpos : ∀ kv∈o, 0<kv.2) (h : ∀ part, part <+ o → ∃ k : ℤ, n*product part=k)
    (hb : (b : ℚ)=n*product o) : divideRatios b o=n := by
  induction o generalizing b with
  | nil => exact_mod_cast hb.trans (mul_one _)
  | cons kv o ih =>
    obtain ⟨hr,hpos⟩ := forall_mem_cons.mp hpos
    obtain ⟨k,hk⟩ := h o (sublist_cons_self kv o)
    have hq : (b : ℚ)/kv.2=k := by rw [hb,product_cons,mul_left_comm,mul_div_cancel_left₀ _ hr.ne',hk]
    rw [divideRatios_cons hr,hq,intPart_intCast]
    exact ih hpos (fun part hpart => h part (hpart.cons kv)) hk.symm

lemma whole_perm (ho : o.Perm ratios) (h : ∀ part, part <+ ratios → ∃ k : ℤ, n*product part=k) :
    ∀ part, part <+ o → ∃ k : ℤ, n*product part=k := by
  intro part hpart
  obtain ⟨same,hperm,hsub⟩ := hpart.subperm.trans ho.subperm
  obtain ⟨k,hk⟩ := h same hsub
  exact ⟨k,by rw [← product_perm hperm,hk]⟩

lemma Settled.neg (hpos : ∀ kv∈ratios, 0<kv.2) (h : Settled b ratios) : Settled (-b) ratios := by
  intro o o' o'' ho ho' ho''
  obtain ⟨heq,hrec⟩ := h o o' o'' ho ho' ho''
  rw [recalc_eq] at hrec
  rw [recalc_eq,applyRatios_neg,applyRatios_neg,divideRatios_neg fun kv hkv => hpos kv (ho'.mem_iff.mp hkv),
    Int.cast_neg,neg_mul,intPart_neg,hrec,heq]
  exact ⟨rfl,rfl⟩

lemma Whole.neg (h : Whole b ratios) : Whole (-b) ratios := by
  obtain ⟨kept,rest,hbase,hsign,hkept,hrest⟩ := h
  refine ⟨-kept,-rest,by rw [hbase,neg_add],by rwa [neg_mul_neg],fun part hpart => ?_,by rwa [abs_neg]⟩
  obtain ⟨k,hk⟩ := hkept part hpart
  exact ⟨-k,by rw [Int.cast_neg,neg_mul,hk,Int.cast_neg]⟩

lemma Settled.whole (hpos : ∀ kv∈ratios, 0<kv.2) (hb : 0≤b) (h : Settled b ratios) : Whole b ratios := by
  have hpo {o : Ratios} (ho : o.Perm ratios) : ∀ kv∈o, 0<kv.2 := fun kv h => hpos kv (ho.mem_iff.mp h)
  obtain ⟨hnn,hle⟩ := applyRatios_bounds hpos hb
  have hexact {o : Ratios} (ho : o.Perm ratios) :
      divideRatios (applyRatios b ratios) o*product o=applyRatios b ratios := by
    obtain ⟨hdiv,hprod,-⟩ := divideRatios_exact (hpo ho) hnn
    have hrec := (h ratios o o (Perm.refl _) ho ho).2
    rw [recalc_eq] at hrec
    have hcut := (intPart_bounds (mul_nonneg (Int.cast_nonneg hdiv) (product_pos (hpo ho)).le)).2.1
    rw [hrec] at hcut
    exact le_antisymm hprod hcut
  have hbase := hexact (Perm.refl ratios)
  set kept := divideRatios (applyRatios b ratios) ratios
  have hkept : 0≤kept := (divideRatios_exact hpos hnn).1
  have hwhole : ∀ part, part <+ ratios → ∃ k : ℤ, kept*product part=k := by
    intro part hpart
    obtain ⟨done,hperm⟩ := hpart.exists_perm_append
    have ho : (done++part).Perm ratios := (perm_append_comm.trans hperm.symm)
    obtain ⟨k,hk⟩ := (divideRatios_exact (hpo ho) hnn).2.2 (hexact ho) done part rfl
    refine ⟨k,?_⟩
    have hdone := (product_pos fun kv hkv => hpo ho kv (mem_append_left _ hkv)).ne'
    refine mul_right_cancel₀ hdone ?_
    rw [← hk,← hbase,mul_assoc,← product_perm ho,product,product,product,map_append,prod_append,mul_comm (prod _)]
  have hrest : 0≤b-kept := by
    have := le_of_mul_le_mul_right (hbase.trans_le hle) (product_pos hpos)
    exact sub_nonneg.mpr (Int.cast_le.mp this)
  refine ⟨kept,b-kept,by omega,Int.mul_nonneg hkept hrest,hwhole,fun o ho => ?_⟩
  have hadd := applyRatios_add (hpo ho) hrest hkept (whole_perm ho hwhole)
  rw [add_sub_cancel,(h o ratios o ho (Perm.refl _) ho).1,← hbase,product_perm ho,left_eq_add,Int.cast_eq_zero,
    applyRatios_eq_zero_iff (hpo ho) hrest] at hadd
  rwa [abs_of_nonneg hrest]

lemma Whole.settled (hpos : ∀ kv∈ratios, 0<kv.2) (hb : 0≤b) (h : Whole b ratios) : Settled b ratios := by
  obtain ⟨kept,rest,rfl,hsign,hwhole,hrest⟩ := h
  have hpo {o : Ratios} (ho : o.Perm ratios) : ∀ kv∈o, 0<kv.2 := fun kv h => hpos kv (ho.mem_iff.mp h)
  have hparts : 0≤kept ∧ 0≤rest := by
    rcases mul_nonneg_iff.mp hsign with hboth | hboth
    · exact hboth
    · omega
  have heq {o : Ratios} (ho : o.Perm ratios) : (applyRatios (kept+rest) o : ℚ)=kept*product ratios := by
    have hzero := (applyRatios_eq_zero_iff (hpo ho) hparts.2).mpr (abs_of_nonneg hparts.2 ▸ hrest o ho)
    rw [applyRatios_add (hpo ho) hparts.2 hparts.1 (whole_perm ho hwhole),hzero,product_perm ho,Int.cast_zero,add_zero]
  intro o o' o'' ho ho' ho''
  have hdiv : divideRatios (applyRatios (kept+rest) o) o'=kept :=
    divideRatios_whole (hpo ho') (whole_perm ho' hwhole) ((heq ho).trans (by rw [product_perm ho']))
  refine ⟨by exact_mod_cast (heq ho).trans (heq ho').symm,?_⟩
  rw [recalc_eq,hdiv,product_perm ho'',← heq ho,intPart_intCast]

/-- The order of the loop and a recalculation do not matter exactly when a part of the quota is whole with any of the
ratios and nothing is left of the rest. -/
theorem settled_iff_whole (base : ℤ) (ratios : Ratios) (hpos : ∀ kv∈ratios, 0<kv.2) :
    Settled base ratios ↔ Whole base ratios := by
  rcases le_total 0 base with hb | hb
  · exact ⟨Settled.whole hpos hb,Whole.settled hpos hb⟩
  have hnn : 0≤-base := neg_nonneg.mpr hb
  rw [← neg_neg base]
  exact ⟨fun h => (Settled.whole hpos hnn (neg_neg base ▸ h.neg hpos)).neg,
    fun h => (Whole.settled hpos hnn (neg_neg base ▸ h.neg)).neg hpos⟩

/-- Ten times 3/2 and 2 is whole in each order. -/
theorem ten_settled : Settled 10 [("size",3/2),("seconds",2)] := by
  have hpos : ∀ kv∈[(("size" : String),(3/2 : ℚ)),("seconds",2)], 0<kv.2 := by simp
  refine (settled_iff_whole 10 _ hpos).mpr ⟨10,0,rfl,le_rfl,fun part hpart => ?_,fun o ho => ?_⟩
  · rw [← mem_sublists] at hpart
    have hcases : part=[] ∨ part=[("size",3/2)] ∨ part=[("seconds",2)] ∨ part=[("size",3/2),("seconds",2)] := by
      simpa [sublists] using hpart
    rcases hcases with rfl | rfl | rfl | rfl
    · exact ⟨10,by norm_num [product]⟩
    · exact ⟨15,by norm_num [product]⟩
    · exact ⟨20,by norm_num [product]⟩
    · exact ⟨30,by norm_num [product]⟩
  · rw [abs_zero]
    exact least_pos fun kv hkv => hpos kv (ho.mem_iff.mp hkv)

theorem order_and_recalculation_matter :
    applyRatios 1 [("size",3/2),("seconds",2)]=2 ∧ applyRatios 1 [("seconds",2),("size",3/2)]=3 ∧
    applyRatios 1 [("size",3/2)]=1 ∧
      recalcQuotaFromRatios { quota := 1, otherRatios := [("size",3/2)] } [("size",3/2)]=0 := by decide +kernel
end AronaApi.TaskRatios
