import AronaApi.Lib.Schedule
import AronaApi.Subscription.Usage

/-! The usage counter of a subscription over any sequence of transactions: it stays within its total,
each request charges once, and failed or repeated calls change nothing. -/
namespace AronaApi.Subscription
open GoStd Schedule List

/-- A transaction of the store; `plans` is what it can read of the plan table. -/
inductive Op
  | create (plan : SubscriptionPlan) (userId : ℕ) (source currentGroup : String) (now : ℤ)
  | preConsume (plans : Plans) (fuel : ℕ) (requestId : String) (userId : ℕ) (amount now : ℤ)
  | refund (requestId : String)
  | postConsumeDelta (id : ℕ) (delta : ℤ)
  | resetDue (plans : Plans) (fuel : ℕ) (limit now : ℤ)

/-- The store with what the calls so far reported: the request ids and rows charged by `preConsume`,
and the request ids for which `refund` returned no error. -/
structure History where
  db : SubDB
  clock : ℤ
  charged : List (String × ℕ)
  refunded : List String

def History.start : History := ⟨⟨[],[],1⟩,0,[],[]⟩

def step (loc : Location) (s : History) : Op → Option History
  | .create plan userId source currentGroup now =>
    if now<s.clock then none
    else match createUserSubscriptionFromPlan loc s.db now userId plan source currentGroup with
      | .error _ => some { s with clock := now }
      | .ok db => some { s with db := db, clock := now }
  | .preConsume plans fuel requestId userId amount now =>
    if now<s.clock then none
    else (preConsumeUserSubscription loc plans fuel s.db requestId userId amount now).map fun r =>
      match r with
      | (.error _,db) => { s with db := db, clock := now }
      | (.ok result,db) =>
        { s with
          db := db
          clock := now
          charged := s.charged++if result.amountUsedBefore=result.amountUsedAfter then []
            else [(requestId,result.userSubscriptionId)] }
  | .refund requestId =>
    match refundSubscriptionPreConsume s.db requestId with
    | .error _ => some s
    | .ok db => some { s with db := db, refunded := s.refunded++[requestId] }
  | .postConsumeDelta id delta =>
    match postConsumeUserSubscriptionDelta s.db id delta with
    | .error _ => some s
    | .ok db => some { s with db := db }
  | .resetDue plans fuel limit now =>
    if now<s.clock then none
    else (resetDueSubscriptions loc plans fuel s.db limit now).map fun db => { s with db := db, clock := now }

/-- Plans have no negative total, and no active unlimited subscription of the user has a counter that
the amount would carry past the largest `int64`. -/
def InRange (s : History) : Op → Prop
  | .create plan _ _ _ _ => 0≤plan.totalAmount
  | .preConsume _ _ _ userId amount now => ∀ sub∈s.db.candidates userId now,
      sub.amountTotal=0 → sub.amountUsed+amount<2^63
  | _ => True

instance (s : History) (op : Op) : Decidable (InRange s op) := by
  cases op <;> unfold InRange <;> infer_instance

structure History.Sound (s : History) : Prop where
  valid : s.db.Valid
  once : (s.charged.map Prod.fst).Nodup
  recorded : ∀ requestId∈s.charged.map Prod.fst, ∃ r, s.db.findRecord requestId=some r
  refunds : ∀ requestId∈s.refunded, trimSpace requestId ≠ "" ∧
    ∃ r, s.db.findRecord requestId=some r ∧ r.status=.refunded

lemma History.sound_start : History.start.Sound :=
  ⟨by simp [SubDB.Valid,start],by simp [start],by simp [start],by simp [start]⟩

lemma History.Sound.quiet {s : History} {db : SubDB} (h : s.Sound) (clock : ℤ) (hvalid : db.Valid)
    (hkps : s.db.Keeps db) : ({ s with db := db, clock := clock } : History).Sound where
  valid := hvalid
  once := h.once
  recorded := by
    intro requestId hid
    obtain ⟨r,hr⟩ := h.recorded requestId hid
    obtain ⟨r',hr',-⟩ := hkps requestId r hr
    exact ⟨r',hr'⟩
  refunds := by
    intro requestId hid
    obtain ⟨hne,r,hr,hs⟩ := h.refunds requestId hid
    obtain ⟨r',hr',hs'⟩ := hkps requestId r hr
    exact ⟨hne,r',hr',hs' hs⟩

variable {loc : Location}
lemma sound_preConsume {s t : History} {plans : Plans} {fuel : ℕ} {requestId : String}
    {userId : ℕ} {amount now : ℤ} (h : s.Sound) (hok : InRange s (.preConsume plans fuel requestId userId amount now))
    (hs : step loc s (.preConsume plans fuel requestId userId amount now)=some t) : t.Sound := by
  simp only [step] at hs
  split at hs
  · cases hs
  obtain ⟨⟨r,db⟩,hpre,rfl⟩ := Option.map_eq_some_iff.mp hs
  rcases preConsumeUserSubscription_cases hpre with ⟨rfl,e,rfl,-⟩ | ⟨rfl,-,result,rfl,hsame⟩ |
      ⟨hpos,-,hnone,_,rfl,c,hc,plan,sub,hrst,hfits,rfl,hrecords,-,hvalid⟩
  · exact h.quiet now h.valid (.of_eq rfl)
  · simp only [hsame,if_true,append_nil]
    exact h.quiet now h.valid (.of_eq rfl)
  have hcv := h.valid c (SubDB.mem_candidates.mp hc).1
  obtain ⟨-,htl,hused⟩ := maybeReset_spec hrst
  have hroom : sub.amountTotal=0 → sub.amountUsed+amount<2^63 := by
    intro h0
    have := hok c hc (htl ▸ h0)
    have := hcv.used_nonneg
    rcases hused with hu | hu <;> rw [hu] <;> omega
  obtain ⟨hchar,haft⟩ := (reset_valid hrst hcv).charge hfits hpos hroom
  have hq := h.quiet now (hvalid h.valid hchar) (.append hrecords)
  have hne : sub.amountUsed≠(sub.charge amount).amountUsed := by omega
  have hfresh : requestId∉s.charged.map Prod.fst := by
    intro hmem
    obtain ⟨r,hr⟩ := h.recorded requestId hmem
    rw [hnone] at hr
    cases hr
  have hnew : db.findRecord requestId=some ⟨requestId,userId,sub.id,amount,.consumed⟩ :=
    SubDB.findRecord_append hrecords hnone
  refine ⟨hq.valid,?_,?_,hq.refunds⟩
  · simp only [hne,if_false,map_append,map_cons,map_nil]
    refine nodup_append.mpr ⟨h.once,by simp,?_⟩
    rintro a ha b hb rfl
    exact hfresh (mem_singleton.mp hb ▸ ha)
  · intro requestId' hid
    simp only [hne,if_false,map_append,map_cons,map_nil,mem_append,mem_singleton] at hid
    rcases hid with hid | rfl
    · exact hq.recorded requestId' hid
    · exact ⟨_,hnew⟩

lemma sound_step (s : History) (op : Op) (t : History) (h : s.Sound) (hok : InRange s op)
    (hs : step loc s op=some t) : t.Sound := by
  cases op with
  | create plan userId source currentGroup now =>
    simp only [step] at hs
    split at hs
    · cases hs
    split at hs
    · cases hs
      exact h.quiet now h.valid (.of_eq rfl)
    next db hcre =>
    cases hs
    obtain ⟨hrecords,hvalid⟩ := createUserSubscriptionFromPlan_spec hcre
    exact h.quiet now (hvalid hok h.valid) (.of_eq hrecords)
  | preConsume plans fuel requestId userId amount now => exact sound_preConsume h hok hs
  | refund requestId =>
    simp only [step] at hs
    split at hs
    · cases hs; exact h
    next db href =>
    cases hs
    obtain ⟨hkps,hvalid,hne,r,hr,hstatus⟩ := refundSubscriptionPreConsume_spec href
    have hq := h.quiet s.clock (hvalid h.valid) hkps
    exact ⟨hq.valid,hq.once,hq.recorded,forall_mem_append.mpr ⟨hq.refunds,forall_mem_singleton.mpr ⟨hne,r,hr,hstatus⟩⟩⟩
  | postConsumeDelta id delta =>
    simp only [step] at hs
    split at hs
    · cases hs; exact h
    next db hpost =>
    cases hs
    obtain ⟨hrecords,hvalid⟩ := postConsumeUserSubscriptionDelta_spec hpost
    exact h.quiet s.clock (hvalid h.valid) (.of_eq hrecords)
  | resetDue plans fuel limit now =>
    simp only [step] at hs
    split at hs
    · cases hs
    obtain ⟨db,hdue,rfl⟩ := Option.map_eq_some_iff.mp hs
    obtain ⟨hrecords,hvalid⟩ := resetDue_spec hdue
    exact h.quiet now (hvalid h.valid) (.of_eq hrecords)

def unlimitedPlan : SubscriptionPlan where
  id := 1
  durationUnit := .hour
  durationValue := 1
  totalAmount := 0
  totalAmount_lt := zero_lt_cap

def repeatedCalls : List Op :=
  [.create unlimitedPlan 1 "order" "default" 100,.preConsume (fun _ => some unlimitedPlan) 1 "first" 1 40 200,
    .preConsume (fun _ => some unlimitedPlan) 1 "first" 1 40 300,
    .refund "first",
    .refund "first"]

/-- Two requests whose sum does not fit an `int64`. -/
def wrappingCalls : List Op :=
  [.create unlimitedPlan 1 "order" "default" 100,.preConsume (fun _ => some unlimitedPlan) 1 "first" 1 (2^63-1) 200,
    .preConsume (fun _ => some unlimitedPlan) 1 "second" 1 1 300]

end AronaApi.Subscription
