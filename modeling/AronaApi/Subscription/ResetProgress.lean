import AronaApi.Lib.Calendar
import AronaApi.Subscription.Store

/-! Whether the replay of missed resets comes to an end. Each reset time has to lie after the one it is computed
from; custom periods are products of `int64` nanoseconds, and calendar periods depend on the clocks of the zone.

Whether a sold subscription ends after it starts (`calcPlanEndTime`): days, hours and seconds are products of `int64`
nanoseconds, years and months are `int64` seconds and depend on the clocks of the zone. -/
namespace AronaApi.Subscription
open GoStd

def ResetPeriod.text : ResetPeriod → String
  | .never => "never"
  | .daily => "daily"
  | .weekly => "weekly"
  | .monthly => "monthly"
  | .custom => "custom"

/-- The checks of `AdminCreateSubscriptionPlan` and what it stores; `groups` are the groups with a ratio.
`AdminUpdateSubscriptionPlan` makes the same checks. -/
def adminCreateSubscriptionPlan (groups : String → Bool) (plan : SubscriptionPlan) : Except String SubscriptionPlan :=
  let unit := if plan.durationUnit=.other "" then .month else plan.durationUnit
  let value := if plan.durationValue≤0 ∧ unit≠.custom then 1 else plan.durationValue
  let upgrade := trimSpace plan.upgradeGroup
  let downgrade := trimSpace plan.downgradeGroup
  if plan.maxPurchasePerUser<0 then .error "购买上限不能为负数"
  else if plan.totalAmount<0 then .error "总额度不能为负数"
  else if upgrade ≠ "" ∧ groups upgrade=false then .error "升级分组不存在"
  else if downgrade ≠ "" ∧ groups downgrade=false then .error "降级分组不存在"
  else if normalizeResetPeriod plan.quotaResetPeriod=.custom ∧ plan.quotaResetCustomSeconds≤0 then
    .error "自定义重置周期需大于0秒"
  else .ok { plan with
    durationUnit := unit
    durationValue := value
    allowWalletOverflow := some (plan.allowWalletOverflow.getD true)
    upgradeGroup := upgrade
    downgradeGroup := downgrade
    quotaResetPeriod := (normalizeResetPeriod plan.quotaResetPeriod).text }

/-! Where the next reset of a calendar period is aimed at. -/

section
variable (loc : Location) {plan : SubscriptionPlan}
/-- The midnight that begins the day, or the month, as `time.Date` places it. -/
def periodStart (period : ResetPeriod) (t : ℤ) : ℤ :=
  match period with
  | .monthly => dateInstant loc (firstOfMonth (monthOf (localDay loc t))*86400)
  | _ => dateInstant loc (localDay loc t*86400)

def daysAhead (period : ResetPeriod) (t : ℤ) : ℤ :=
  match period with
  | .weekly => 8-if weekday loc t=0 then 7 else weekday loc t
  | .monthly =>
    let month := monthOf (localDay loc (periodStart loc period t))
    firstOfMonth (month+1)-firstOfMonth month
  | _ => 1

/-- The local time of the next reset: a day, the days of the week or the days of the month after the midnight. -/
def aim (period : ResetPeriod) (t : ℤ) : ℤ :=
  localSeconds loc (periodStart loc period t)+daysAhead loc period t*86400

lemma startOfDay_eq (t : ℤ) : startOfDay loc t=dateInstant loc (localDay loc t*86400) := by
  simp only [startOfDay,localDate_eq,date_eq]
  generalize monthOf (localDay loc t)=n
  rw [show 12*(n/12)+(n%12+1)-1=n by omega]
  congr 1
  omega

def bounded (endUnix next : ℤ) : ℤ := if 0<endUnix ∧ endUnix<next then 0 else next

lemma calcNextResetTime_calendar {period : ResetPeriod}
    (h : normalizeResetPeriod plan.quotaResetPeriod=period) (hnvr : period≠.never) (hcust : period≠.custom)
    (base endUnix : ℤ) :
    calcNextResetTime loc base plan endUnix=bounded endUnix (dateInstant loc (aim loc period base)) := by
  unfold calcNextResetTime
  rw [h]
  cases period with
  | never => exact absurd rfl hnvr
  | custom => exact absurd rfl hcust
  | daily | weekly =>
    simp only [startOfDay_eq,addDate_days]
    rfl
  | monthly =>
    have hfrs : date loc (localDate loc base).1 (localDate loc base).2.1 1 0=periodStart loc .monthly base := by
      simp only [localDate_eq,date_eq,periodStart]
      generalize monthOf (localDay loc base)=n
      rw [show 12*(n/12)+(n%12+1)-1=n by omega]
      congr 1
      omega
    simp only [hfrs,addDate_months,Int.mul_zero,Int.zero_add]
    rfl

lemma calcNextResetTime_custom (h : normalizeResetPeriod plan.quotaResetPeriod=.custom) (base endUnix : ℤ) :
    calcNextResetTime loc base plan endUnix=if plan.quotaResetCustomSeconds≤0 then 0
      else bounded endUnix (base+wrap64 (plan.quotaResetCustomSeconds*secondNanos)/secondNanos) := by
  unfold calcNextResetTime
  rw [h]
  rfl
end

/-! Progress. -/

/-- The clocks are not put forward, up to a local time that is ahead, by as much as is left until then. The instant
0 stands for no reset. -/
def Reaches (loc : Location) (t unix : ℤ) : Prop :=
  dateOffset loc unix-(loc.lookup t).offset<unix-localSeconds loc t ∨ dateOffset loc unix=unix

/-- The plan never resets, or its custom period is at least a second as `int64` nanoseconds, or the clocks of the
zone reach every boundary of its calendar period. -/
def MovesOn (loc : Location) (plan : SubscriptionPlan) : Prop :=
  match normalizeResetPeriod plan.quotaResetPeriod with
  | .never => True
  | .custom => plan.quotaResetCustomSeconds≤0 ∨ secondNanos≤wrap64 (plan.quotaResetCustomSeconds*secondNanos)
  | period => ∀ t, Reaches loc t (aim loc period t)

variable {loc : Location} {plan : SubscriptionPlan}
lemma reaches_iff (t unix : ℤ) : Reaches loc t unix ↔ dateInstant loc unix=0 ∨ t<dateInstant loc unix := by
  unfold Reaches dateInstant localSeconds
  omega

lemma bounded_of_progress {base endUnix next : ℤ} (h : next=0 ∨ base<next) :
    bounded endUnix next=0 ∨ base<bounded endUnix next := by
  unfold bounded
  split
  · exact .inl rfl
  · exact h

lemma movesOn_iff : MovesOn loc plan ↔
    ∀ base endUnix, calcNextResetTime loc base plan endUnix=0 ∨ base<calcNextResetTime loc base plan endUnix := by
  have hcal : ∀ period, normalizeResetPeriod plan.quotaResetPeriod=period → period≠.never → period≠.custom →
      ((∀ t, Reaches loc t (aim loc period t)) ↔ ∀ base endUnix, calcNextResetTime loc base plan endUnix=0 ∨
        base<calcNextResetTime loc base plan endUnix) := by
    intro period hper hnvr hcust
    simp only [calcNextResetTime_calendar loc hper hnvr hcust,reaches_iff]
    exact ⟨fun h base endUnix => bounded_of_progress (h base),fun h t => h t 0⟩
  unfold MovesOn
  cases hper : normalizeResetPeriod plan.quotaResetPeriod with
  | never =>
    have hzero : ∀ base endUnix, calcNextResetTime loc base plan endUnix=0 := by
      intro base endUnix
      rw [calcNextResetTime,hper]
    exact ⟨fun _ base endUnix => .inl (hzero base endUnix),fun _ => trivial⟩
  | daily | weekly | monthly => exact hcal _ hper nofun nofun
  | custom =>
    simp only [calcNextResetTime_custom loc hper]
    by_cases hpst : plan.quotaResetCustomSeconds≤0
    · simp [hpst]
    simp only [hpst,if_false,false_or]
    unfold secondNanos
    constructor
    · intro h base endUnix
      exact bounded_of_progress (.inr (by omega))
    · -- two bases, so that one of the results is not 0
      intro h
      have hone := h 1 0
      have htwo := h 2 0
      simp only [bounded,Int.lt_irrefl,false_and,if_false] at hone htwo
      omega

lemma resetLoop_isSome {endTime now : ℤ} (h : MovesOn loc plan) {fuel : ℕ} {base next : ℤ} (advanced : Bool)
    (hfuel : 0<fuel) (hnext : next≤0 ∨ now+1<next+fuel) :
    (resetLoop loc plan endTime now fuel base next advanced).isSome := by
  -- what is left until now shrinks with every reset
  induction fuel generalizing base next advanced with
  | zero => exact absurd hfuel (Nat.lt_irrefl 0)
  | succ fuel ih =>
    unfold resetLoop
    split
    next hdue =>
      have hprog := movesOn_iff.mp h next endTime
      exact ih true (by omega) (by omega)
    · rfl

def Progresses (loc : Location) (plan : SubscriptionPlan) : Prop :=
  (∀ base endUnix, calcNextResetTime loc base plan endUnix=0 ∨ base<calcNextResetTime loc base plan endUnix) ∧
    ∀ sub now, ∃ fuel, (maybeReset loc fuel sub plan now).isSome

/-- The resets of a plan make progress, and their replay ends for every row at every time, exactly if the plan moves
on in the zone. -/
theorem resets_progress_iff (loc : Location) (plan : SubscriptionPlan) : Progresses loc plan ↔ MovesOn loc plan := by
  constructor
  · intro h
    exact movesOn_iff.mpr h.1
  · intro h
    refine ⟨movesOn_iff.mp h,fun sub now => ?_⟩
    obtain ⟨base,hbase⟩ : ∃ base, base=if sub.lastResetTime≤0 then sub.startTime else sub.lastResetTime := ⟨_,rfl⟩
    refine ⟨(now+2-calcNextResetTime loc base plan sub.endTime).toNat+1,?_⟩
    unfold maybeReset
    split
    · rfl
    split
    · rfl
    rw [Option.isSome_map,← hbase]
    exact resetLoop_isSome h false (Nat.succ_pos _) (by omega)

lemma resetLoop_stuck {endTime now b : ℤ} (h : calcNextResetTime loc b plan endTime=b) (hpos : 0<b) (hdue : b≤now)
    (fuel : ℕ) (base : ℤ) (advanced : Bool) : resetLoop loc plan endTime now fuel base b advanced=none := by
  induction fuel generalizing base advanced with
  | zero => rfl
  | succ fuel ih =>
    rw [resetLoop,if_pos ⟨hpos,hdue⟩,h]
    exact ih b true

def resettingPlan (period : String) (seconds : ℤ) : SubscriptionPlan where
  id := 1
  durationUnit := .year
  durationValue := 1
  allowWalletOverflow := some true
  totalAmount := 1000
  quotaResetPeriod := period
  quotaResetCustomSeconds := seconds
  totalAmount_lt := thousand_lt_cap

/-- The clocks of São Paulo in November 2018, which went from 0:00 on the 4th to 1:00. -/
def saoPaulo : Location :=
  ⟨fun t => if t<1541300400 then ⟨-10800,1518919200,1541300400⟩ else ⟨-7200,1541300400,1550368800⟩⟩

def resettingRow (start : ℤ) : UserSubscription where
  id := 1
  userId := 1
  planId := 1
  amountTotal := 1000
  amountUsed := 0
  startTime := start
  endTime := start+31536000
  status := .active
  source := "order"
  lastResetTime := start
  nextResetTime := start

/-- A custom period of 2^55 seconds is 0 nanoseconds, and in São Paulo the midnight of 4 November 2018 was placed at
23:00 of the day before. Both plans are accepted, and the replay from there on never ends. -/
theorem replay_never_ends :
    adminCreateSubscriptionPlan (fun _ => true) (resettingPlan "custom" (2^55))=.ok (resettingPlan "custom" (2^55)) ∧
    calcNextResetTime utc 1541296800 (resettingPlan "custom" (2^55)) 0=1541296800 ∧
    (∀ fuel, maybeReset utc fuel (resettingRow 1541296800) (resettingPlan "custom" (2^55)) 1541296800=none) ∧
    adminCreateSubscriptionPlan (fun _ => true) (resettingPlan "daily" 0)=.ok (resettingPlan "daily" 0) ∧
    calcNextResetTime saoPaulo 1541296800 (resettingPlan "daily" 0) 0=1541296800 ∧
    ∀ fuel, maybeReset saoPaulo fuel (resettingRow 1541296800) (resettingPlan "daily" 0) 1541296800=none := by
  have hstc : ∀ loc plan, normalizeResetPeriod plan.quotaResetPeriod≠.never →
      calcNextResetTime loc 1541296800 plan (1541296800+31536000)=1541296800 →
      ∀ fuel, maybeReset loc fuel (resettingRow 1541296800) plan 1541296800=none := by
    intro loc plan hnvr hnext fuel
    rw [maybeReset,if_neg (by decide),if_neg hnvr]
    simp only [resettingRow,show ¬(1541296800 : ℤ)≤0 by decide,if_false,hnext]
    rw [resetLoop_stuck hnext (by decide) (by decide) fuel 1541296800 false]
    rfl
  exact ⟨rfl,by decide +kernel,hstc _ _ (by decide +kernel) (by decide +kernel),rfl,by decide +kernel,
    hstc _ _ (by decide +kernel) (by decide +kernel)⟩

/-- What is left, in 64 bits, of the seconds of the next years or months, less those by which the clocks are put
forward. -/
def gain (loc : Location) (start years months : ℤ) : ℤ :=
  let (year,month) := monthAfter loc start years months
  wrap64 ((absDays year month-firstOfMonth (monthOf (localDay loc start)))*86400)-
    (dateOffset loc (addMonths loc start years months)-(loc.lookup start).offset)

/-- Something is left that does not lead beyond the last instant, or time turns around before the first. -/
def Passes (loc : Location) (start years months : ℤ) : Prop :=
  0<gain loc start years months ∧ start+gain loc start years months<2^63 ∨ start+gain loc start years months < -2^63

/-- A second or more is left of the duration when the product has wrapped around. -/
def Lasts (loc : Location) (start : ℤ) (plan : SubscriptionPlan) : Prop :=
  match plan.durationUnit with
  | .year => Passes loc start plan.durationValue 0
  | .month => Passes loc start 0 plan.durationValue
  | .day => secondNanos≤wrap64 (plan.durationValue*24*hourNanos)
  | .hour => secondNanos≤wrap64 (plan.durationValue*hourNanos)
  | .custom => 0<plan.customSeconds → secondNanos≤wrap64 (plan.customSeconds*secondNanos)
  | .other _ => True

variable {loc : Location} {start : ℤ}
lemma end_eq (years months : ℤ) : wrap64 (dateInstant loc (addMonths loc start years months)) =
    wrap64 (start+gain loc start years months) := by
  have hunix : addMonths loc start years months=wrap64 ((absDays (monthAfter loc start years months).1
      (monthAfter loc start years months).2-firstOfMonth (monthOf (localDay loc start)))*86400+localSeconds loc start) := by
    rw [addMonths,localDate_eq]
    dsimp only
    congr 1
    unfold localDay clock
    omega
  unfold gain dateInstant
  dsimp only
  generalize dateOffset loc (addMonths loc start years months)=offset
  rw [hunix,localSeconds]
  unfold wrap64
  omega

lemma lt_end_iff (hloc : ∀ t, -86400<(loc.lookup t).offset ∧ (loc.lookup t).offset<86400) (hlow : -2^63 ≤ start)
    (hhigh : start<2^63) (years months : ℤ) :
    start<wrap64 (dateInstant loc (addMonths loc start years months)) ↔ Passes loc start years months := by
  have hoffset : ∀ unix, -86400<dateOffset loc unix ∧ dateOffset loc unix<86400 := by
    intro unix
    unfold dateOffset
    dsimp only
    split
    · exact hloc _
    · exact hloc _
  rw [end_eq,Passes]
  have hzone := hoffset (addMonths loc start years months)
  have hstart := hloc start
  have hgain : -2^63-172800<gain loc start years months ∧ gain loc start years months<2^63+172800 := by
    unfold gain wrap64
    dsimp only
    omega
  unfold wrap64
  omega

lemma lt_addDuration_iff (d : ℤ) : start<addDuration start d ↔ secondNanos≤d := by
  unfold addDuration secondNanos
  omega

lemma value_pos_of_accepted {groups : String → Bool} {plan stored : SubscriptionPlan}
    (h : adminCreateSubscriptionPlan groups plan=.ok stored) (hunit : stored.durationUnit≠.custom) :
    0<stored.durationValue := by
  unfold adminCreateSubscriptionPlan at h
  dsimp only at h
  split_ifs at h <;> cases h <;> simp_all

end AronaApi.Subscription
