import AronaApi.Billing.Ledger
import AronaApi.Lib.Schedule
import AronaApi.Subscription.Resets
import Mathlib

/-! Billing sessions across quota resets. A settlement or a refund is a bare delta on the counter and
does not know in which period its session was opened. -/
namespace AronaApi.Billing.Period
open GoStd Subscription Schedule List UserSubscription BillingSession SubDB

/-- A session on a subscription: the row it was charged to, how often that row had been reset by then,
and what the session holds of it now. Sessions are named by their request ids. -/
structure Entry where
  requestId : String
  session : BillingSession
  id : ℕ
  period : ℕ
  held : ℤ

/-- All sessions of the subscriptions, and the number of resets of each row. The wallet and the token in
the world are those of the request being served; nothing here depends on them. -/
structure State where
  world : World
  entries : List Entry
  period : ℕ → ℕ

def State.start : State := ⟨⟨0,0,⟨[],[],1⟩⟩,[],fun _ => 0⟩

def State.find (s : State) (requestId : String) : Option Entry := Table.lookup (·.requestId) requestId s.entries

/-- What a session counts for in period `period` of row `id`. -/
def Entry.counts (id period : ℕ) (e : Entry) : ℤ := if e.id=id ∧ e.period=period then e.held else 0

/-- What the sessions opened since the last reset of row `id` hold. -/
def State.usage (s : State) (id : ℕ) : ℤ := (s.entries.map (Entry.counts id (s.period id))).sum

inductive Op
  | create (loc : Location) (plan : SubscriptionPlan) (userId : ℕ) (source currentGroup : String) (now : ℤ)
  | preConsume (cfg : Config) (env : OpenEnv) (info : RelayInfo) (preConsumedQuota : ℤ)
  | settle (requestId : String) (env : Env) (actualQuota : ℤ)
  | refund (requestId : String)
  | resetDue (loc : Location) (plans : Plans) (fuel : ℕ) (limit now : ℤ)

def noFailure : Env := ⟨false,none,false,false,false⟩

def openResets (env : OpenEnv) (info : RelayInfo) (preConsumedQuota : ℤ) (w : World) : List ℕ :=
  preConsumeResets env.plan.loc env.plan.plans env.plan.fuel w.db info.requestId info.userId
    (if preConsumedQuota≤0 then 1 else preConsumedQuota) env.plan.now

def after (period : ℕ → ℕ) (resets : List ℕ) (id : ℕ) : ℕ := period id+resets.count id

/-- One call. A request id is used for one session; a session is settled or refunded, and not settled
after a refund. -/
def step (s : State) : Op → Option State
  | .create loc plan userId source currentGroup now =>
    match createUserSubscriptionFromPlan loc s.world.db now userId plan source currentGroup with
    | .error _ => some s
    | .ok db => some { s with world := { s.world with db := db } }
  | .preConsume cfg env info preConsumedQuota =>
    if (s.find info.requestId).isSome then none
    else (trySubscription cfg env info preConsumedQuota s.world).map fun r =>
      match r with
      | (.error _,w) => { s with world := w }
      | (.ok session,w) =>
        let period := after s.period (openResets env info preConsumedQuota s.world)
        let id := session.relayInfo.subscriptionId
        ⟨w,s.entries++[⟨info.requestId,session,id,period id,session.preConsumedQuota⟩],period⟩
  | .settle requestId env actualQuota =>
    match s.find requestId with
    | none => none
    | some e =>
      if e.session.refunded then none
      else
        let r := e.session.settle env actualQuota s.world
        let held := if e.session.settled=false ∧ r.2.1.settled then actualQuota else e.held
        some { s with
          world := r.2.2
          entries := Table.replace (·.requestId) { e with session := r.2.1, held := held } s.entries }
  | .refund requestId =>
    match s.find requestId with
    | none => none
    | some e =>
      let r := e.session.refund noFailure s.world
      let held := if r.1.refunded then 0 else e.held
      some { s with
        world := r.2
        entries := Table.replace (·.requestId) { e with session := r.1, held := held } s.entries }
  | .resetDue loc plans fuel limit now =>
    (resetDueSubscriptions loc plans fuel s.world.db limit now).map fun db =>
      { s with
        world := { s.world with db := db }
        period := after s.period (dueResets loc plans fuel now (s.world.db.due limit now) s.world.db) }

def Idle (row : UserSubscription) (delta : ℤ) : Prop :=
  row.newUsed delta=row.amountUsed ∨ row.amountTotal < row.newUsed delta

instance (row : UserSubscription) (delta : ℤ) : Decidable (Idle row delta) := inferInstanceAs (Decidable (_ ∨ _))

/-- The delta that session `e` brings to its row, if that is limited, does not overflow the counter; and it
leaves the counter alone if the row has been reset since. -/
def Timely (s : State) (e : Entry) (delta : ℤ) : Prop :=
  ∀ row∈s.world.db.find e.id, 0 < row.amountTotal →
    if e.period=s.period e.id then row.amountUsed+delta<2^63 else Idle row delta

instance (s : State) (e : Entry) (delta : ℤ) : Decidable (Timely s e delta) :=
  inferInstanceAs (Decidable (∀ row∈s.world.db.find e.id, _))

def Safe (s : State) : Op → Prop
  | .settle requestId env actualQuota => ∀ e∈s.find requestId,
      e.session.settled=false → env.fundingFails=false →
        0≤actualQuota ∧ Timely s e (actualQuota-e.session.preConsumedQuota)
  | .refund requestId => ∀ e∈s.find requestId,
      e.session.needsRefund=true → Timely s e (wrap64 (-e.session.preConsumedQuota))
  | _ => True

instance (s : State) (op : Op) : Decidable (Safe s op) := by
  cases op <;> unfold Safe <;> infer_instance

structure Entry.Backed (e : Entry) (db : SubDB) : Prop where
  funding : ∃ f, e.session.funding=.subscription f ∧ f.requestId=e.requestId ∧ f.subscriptionId=e.id ∧
    f.preConsumed=e.session.preConsumedQuota
  row : e.id≠0 ∧ e.id<db.nextId
  request : trimSpace e.requestId ≠ ""
  pos : 0<e.session.preConsumedQuota
  extra : e.session.extraReserved=0
  held_nonneg : 0≤e.held
  refunded : e.session.refunded=true → e.held=0
  live : e.session.settled=false → e.session.refunded=false →
    e.session.fundingSettled=false ∧ e.held=e.session.preConsumedQuota ∧
      ∃ userId, db.findRecord e.requestId=some ⟨e.requestId,userId,e.id,e.session.preConsumedQuota,.consumed⟩

structure Metered (s : State) (id : ℕ) (row : UserSubscription) : Prop where
  total_lt : row.amountTotal<2^63
  used_nonneg : 0 ≤ row.amountUsed
  used_le : row.amountUsed ≤ row.amountTotal
  used_eq : row.amountUsed=s.usage id

structure Exact (s : State) : Prop where
  distinct : s.world.db.Distinct
  keys : (s.entries.map (·.requestId)).Nodup
  rows : ∀ id row, s.world.db.find id=some row → 0 < row.amountTotal → Metered s id row
  past : ∀ e∈s.entries, e.period ≤ s.period e.id
  recorded : ∀ requestId r, s.world.db.findRecord requestId=some r → requestId∈s.entries.map (·.requestId)
  backed : ∀ e∈s.entries, e.Backed s.world.db

lemma exact_start : Exact .start := by
  constructor
  · exact ⟨by simp [State.start],by simp [State.start],Nat.one_pos⟩
  · simp [State.start]
  · intro id row hrow
    cases hrow
  · simp [State.start]
  · intro requestId r hr
    cases hr
  · simp [State.start]

variable {entries : List Entry} {period : ℕ → ℕ} {resets : List ℕ} {id : ℕ}
lemma after_of_notMem (h : id∉resets) : after period resets id=period id := by simp [after,count_eq_zero_of_not_mem h]

lemma lt_after (h : id∈resets) : period id<after period resets id := by
  have := count_pos_iff.mpr h
  simp only [after]
  omega

lemma sum_counts_after (hpast : ∀ e∈entries, e.period≤period e.id) :
    (entries.map (Entry.counts id (after period resets id))).sum =
      if id∈resets then 0 else (entries.map (Entry.counts id (period id))).sum := by
  by_cases hid : id∈resets
  · rw [if_pos hid]
    apply sum_eq_zero
    intro n hn
    obtain ⟨e,he,rfl⟩ := mem_map.mp hn
    refine if_neg ?_
    rintro ⟨rfl,hper⟩
    have := hpast e he
    have : period e.id<after period resets e.id := lt_after hid
    omega
  · rw [if_neg hid,after_of_notMem hid]

lemma held_le_usage {s : State} (h : Exact s) {e : Entry} (he : e∈s.entries)
    (hcurr : e.period=s.period e.id) : e.held ≤ s.usage e.id := by
  have hcoun : e.counts e.id (s.period e.id)=e.held := if_pos ⟨rfl,hcurr⟩
  rw [← hcoun]
  refine single_le_sum ?_ _ (mem_map_of_mem he)
  intro n hn
  obtain ⟨e',he',rfl⟩ := mem_map.mp hn
  unfold Entry.counts
  split
  · exact (h.backed e' he').held_nonneg
  · exact Int.le_refl 0

variable {s t : State} {actual quota amount now : ℤ} {row : UserSubscription}
/-- The rows of `db` are those of `s`, with the counters moved by what session `e` holds more as `e'`. -/
def Moved (s : State) (db : SubDB) (e e' : Entry) : Prop :=
  ∀ j row', db.find j=some row' → ∃ row, s.world.db.find j=some row ∧ row'.amountTotal=row.amountTotal ∧
    (0 < row.amountTotal → 0 ≤ row'.amountUsed ∧ row'.amountUsed ≤ row.amountTotal ∧
      row'.amountUsed=row.amountUsed+(e'.counts j (s.period j)-e.counts j (s.period j)))

variable {e e' : Entry} {w : World} {db db' : SubDB} {requestId : String} {env : Env}
lemma Entry.Backed.congr (h : e.Backed db) (hnext : db'.nextId=db.nextId)
    (hrecords : db'.findRecord e.requestId=db.findRecord e.requestId) : e.Backed db' :=
  ⟨h.funding,hnext ▸ h.row,h.request,h.pos,h.extra,h.held_nonneg,h.refunded,hrecords ▸ h.live⟩

lemma Exact.update (h : Exact s) (hfind : s.find e.requestId=some e)
    (hrq : e'.requestId=e.requestId) (hid : e'.id=e.id) (hper : e'.period=e.period) (hkeys : s.world.db.SameKeys w.db)
    (hrecords : ∀ requestId, requestId≠e.requestId → w.db.findRecord requestId=s.world.db.findRecord requestId)
    (hrows : Moved s w.db e e') (hback : e'.Backed w.db) :
    Exact { s with world := w, entries := Table.replace (·.requestId) e' s.entries } := by
  have hlook : Table.lookup (·.requestId) e'.requestId s.entries=some e := hrq ▸ hfind
  have hmem : e∈s.entries := Table.mem_of_lookup hfind
  have hnames : (Table.replace (·.requestId) e' s.entries).map (·.requestId)=s.entries.map (·.requestId) :=
    Table.map_key_replace e' s.entries
  constructor
  · exact h.distinct.congr hkeys
  · exact hnames.symm ▸ h.keys
  · intro j row' hrow' hlim
    obtain ⟨row,hrow,htl,hused⟩ := hrows j row' hrow'
    rw [htl] at hlim
    obtain ⟨hlo,hhi,heq⟩ := hused hlim
    have hm := h.rows j row hrow hlim
    refine ⟨htl ▸ hm.total_lt,hlo,htl ▸ hhi,?_⟩
    have hsum := Table.sum_map_replace (Entry.counts j (s.period j)) h.keys hlook
    rw [heq,hm.used_eq]
    exact hsum.symm
  · refine Table.forall_replace h.past ?_
    rw [hper,hid]
    exact h.past e hmem
  · intro requestId r hr
    rw [hnames]
    by_cases hreq : requestId=e.requestId
    · exact hreq ▸ mem_map_of_mem hmem
    · exact h.recorded requestId r (hrecords requestId hreq ▸ hr)
  · intro d hd
    obtain ⟨old,hold,rfl⟩ := mem_map.mp hd
    split
    · exact hback
    next hne => exact (h.backed old hold).congr hkeys.2 (hrecords old.requestId (hrq ▸ hne))

lemma Exact.same_rows (h : Exact s) (e : Entry) : Moved s s.world.db e e := by
  intro j row' hrow'
  refine ⟨row',hrow',rfl,fun hlim => ?_⟩
  have hm := h.rows j row' hrow' hlim
  exact ⟨hm.used_nonneg,hm.used_le,by omega⟩

lemma Exact.applied {delta : ℤ} (h : Exact s) (he : e∈s.entries) (hid : e'.id=e.id)
    (hper : e'.period=e.period) (hnonn : 0≤e'.held) (htim : Timely s e delta)
    (hmvs : ∀ row, s.world.db.find e.id=some row → 0 < row.amountTotal → e.period=s.period e.id →
      e'.held=e.held+delta ∧ row.newUsed delta ≤ row.amountTotal)
    (hsubs : db.subs=((postConsumeUserSubscriptionDelta s.world.db e.id delta).toOption.getD s.world.db).subs) :
    Moved s db e e' := by
  intro j row' hrow'
  rw [SubDB.find,hsubs] at hrow'
  obtain ⟨row,hrow,htl,hused⟩ := applied_row (h.backed e he).row.1 hrow'
  refine ⟨row,hrow,htl,fun hlim => ?_⟩
  have hm := h.rows j row hrow hlim
  obtain ⟨hlt,hlo,hhi,heq⟩ := hm
  have hused := hused hlim hlo (by omega)
  unfold Entry.counts
  rw [hid,hper]
  by_cases hj : j=e.id
  · subst hj
    have htim := htim row hrow hlim
    by_cases hcurr : e.period=s.period e.id
    · -- in the current period the delta reaches the counter in full
      obtain ⟨hheld,hle⟩ := hmvs row hrow hlim hcurr
      rw [if_pos hcurr] at htim
      have hflr := held_le_usage h he hcurr
      have hnew : row.newUsed delta=row.amountUsed+delta := by
        rw [newUsed_eq (by omega) htim]
        omega
      rw [if_pos ⟨rfl,hle⟩,hnew] at hused
      simp only [hcurr,and_self,if_true]
      omega
    · rw [if_neg hcurr] at htim
      have hsame : row'.amountUsed=row.amountUsed := by
        rcases htim with hidle | hrej
        · rw [hused,hidle,ite_self]
        · rw [hused,if_neg (by omega)]
      simp only [hcurr,and_false,if_false]
      omega
  · rw [if_neg fun h => hj h.1] at hused
    simp only [Ne.symm hj,false_and,if_false]
    omega

lemma settle_cases (hb : e.Backed db) (href : e.session.refunded=false)
    {r : Except String Unit × BillingSession × World} (h : e.session.settle env actual w=r) :
    (r.2.1=e.session ∧ r.2.2=w) ∨ (e.session.settled=false ∧ actual=e.session.preConsumedQuota ∧
        r.2.1={ e.session with settled := true } ∧ r.2.2=w) ∨
      (e.session.settled=false ∧ env.fundingFails=false ∧ r.2.1=e.session.close (actual-e.session.preConsumedQuota) ∧
        postConsumeUserSubscriptionDelta w.db e.id (actual-e.session.preConsumedQuota)=.ok r.2.2.db) := by
  obtain ⟨f,hf,-,hid,-⟩ := hb.funding
  unfold settle at h
  split at h
  · subst h
    exact .inl ⟨rfl,rfl⟩
  next hsett =>
  have hsett : e.session.settled=false := Bool.eq_false_iff.mpr hsett
  have hfs := (hb.live hsett href).1
  simp only at h
  split at h
  next hzero =>
    subst h
    exact .inr (.inl ⟨hsett,by omega,rfl,rfl⟩)
  next hzero =>
  rw [hfs] at h
  simp only [Bool.false_eq_true,if_false,hf,FundingSource.settle,hzero] at h
  split at h
  · subst h
    exact .inl ⟨rfl,rfl⟩
  next w₁ hpost =>
  obtain ⟨hfls,db',hdb,rfl⟩ := postConsumeDelta_eq_ok.mp hpost
  rw [hid] at hdb
  right; right
  split at h
  · subst h
    exact ⟨hsett,hfls,rfl,hdb⟩
  next w₂ htkn =>
  subst h
  have hw₂ := settleToken_eq_ok htkn
  exact ⟨hsett,hfls,rfl,hw₂ ▸ hdb⟩

lemma Entry.Backed.settled {session : BillingSession} {held : ℤ} (hb : e.Backed db)
    (hnext : db'.nextId=db.nextId) (hsett : session.settled=true) (href : session.refunded=false)
    (hfund : session.funding=e.session.funding) (hpre : session.preConsumedQuota=e.session.preConsumedQuota)
    (hext : session.extraReserved=e.session.extraReserved) (hheld : 0≤held) :
    ({ e with session := session, held := held } : Entry).Backed db' := by
  refine ⟨?_,hnext ▸ hb.row,hb.request,hpre ▸ hb.pos,hext ▸ hb.extra,hheld,?_,?_⟩
  · obtain ⟨f,hf,hrest⟩ := hb.funding
    exact ⟨f,hfund.trans hf,hrest.1,hrest.2.1,hrest.2.2.trans hpre.symm⟩
  · intro h
    rw [href] at h
    cases h
  · intro h
    rw [hsett] at h
    cases h

lemma exact_settle (h : Exact s) (hok : Safe s (.settle requestId env actual))
    (hs : step s (.settle requestId env actual)=some t) : Exact t := by
  simp only [step] at hs
  split at hs
  · cases hs
  next e hfind =>
  split at hs
  · cases hs
  next href =>
  have href : e.session.refunded=false := Bool.eq_false_iff.mpr href
  have hkey : e.requestId=requestId := Table.key_of_lookup hfind
  subst hkey
  have hmem : e∈s.entries := Table.mem_of_lookup hfind
  have hb := h.backed e hmem
  have hok := hok e hfind
  cases hs
  rcases settle_cases hb href rfl with ⟨hsess,hwrl⟩ | ⟨hsett,hact,hsess,hwrl⟩ |
      ⟨hsett,hfls,hsess,hpost⟩
  · rw [hsess,hwrl,if_neg (by rintro ⟨h₁,h₂⟩; rw [h₁] at h₂; cases h₂)]
    exact h.update hfind rfl rfl rfl ⟨rfl,rfl⟩ (fun _ _ => rfl) (h.same_rows e) hb
  · obtain ⟨-,hheld,-⟩ := hb.live hsett href
    rw [hsess,hwrl,if_pos ⟨hsett,rfl⟩,hact,← hheld]
    exact h.update hfind rfl rfl rfl ⟨rfl,rfl⟩ (fun _ _ => rfl) (h.same_rows e)
      (hb.settled rfl rfl href rfl rfl rfl hb.held_nonneg)
  · obtain ⟨hnonn,htim⟩ := hok hsett hfls
    obtain ⟨-,hheld,-⟩ := hb.live hsett href
    have hdb : (postConsumeUserSubscriptionDelta s.world.db e.id (actual-e.session.preConsumedQuota)).toOption.getD
        s.world.db=(e.session.settle env actual s.world).2.2.db := by
      rw [hpost]
      rfl
    have hkeys : s.world.db.SameKeys (e.session.settle env actual s.world).2.2.db := hdb ▸ postConsume_sameKeys
    have hrecords := (postConsumeUserSubscriptionDelta_spec hpost).1
    rw [hsess,if_pos ⟨hsett,rfl⟩]
    refine h.update hfind rfl rfl rfl hkeys (fun _ _ => by rw [findRecord,hrecords]; rfl) ?_
      (hb.settled hkeys.2 rfl href rfl rfl rfl hnonn)
    refine h.applied hmem rfl rfl hnonn htim (fun row hrow hlim _ => ⟨by simp only; omega,?_⟩) (hdb ▸ rfl)
    rcases postConsume_cases hpost with ⟨hzero,-⟩ | ⟨row',hrow',-,hle⟩
    · have hm := h.rows e.id row hrow hlim
      have hlo := hm.used_nonneg
      have hhi := hm.used_le
      have hlt := hm.total_lt
      rw [hzero,newUsed_eq (by omega) (by omega)]
      omega
    · rw [hrow] at hrow'
      cases hrow'
      exact hle hlim

section
variable (hb : e.Backed w.db) (hsett : e.session.settled=false) (href : e.session.refunded=false)
include hb hsett href
lemma refundFunding_db :
    ∃ record : PreConsumeRecord, record.requestId=e.requestId ∧ (e.session.refundFunding noFailure w).db =
      match postConsumeUserSubscriptionDelta w.db e.id (wrap64 (-e.session.preConsumedQuota)) with
      | .error _ => w.db
      | .ok db => db.saveRecord record := by
  obtain ⟨f,hf,hreq,-,hpre⟩ := hb.funding
  obtain ⟨-,-,userId,hrec⟩ := hb.live hsett href
  have hpos := hb.pos
  refine ⟨⟨e.requestId,userId,e.id,e.session.preConsumedQuota,.refunded⟩,rfl,?_⟩
  have hnone : ¬(0<e.session.extraReserved ∧ 0<e.session.relayInfo.subscriptionId) := by
    rw [hb.extra]
    omega
  have hfls : noFailure.rollbackFails=false := rfl
  simp only [refundFunding,hf,hnone,if_false,FundingSource.refund,hfls,Bool.false_eq_true]
  rw [if_neg (by omega),hreq,refundSubscriptionPreConsume,if_neg hb.request,hrec]
  simp only [reduceCtorEq,if_false,Int.not_le.mpr hpos]
  cases postConsumeUserSubscriptionDelta w.db e.id (wrap64 (-e.session.preConsumedQuota)) <;> rfl

lemma refundFunding_writes : (e.session.refundFunding noFailure w).db.subs =
        ((postConsumeUserSubscriptionDelta w.db e.id (wrap64 (-e.session.preConsumedQuota))).toOption.getD w.db).subs ∧
      w.db.SameKeys (e.session.refundFunding noFailure w).db ∧ ∀ requestId, requestId≠e.requestId →
        (e.session.refundFunding noFailure w).db.findRecord requestId=w.db.findRecord requestId := by
  obtain ⟨record,hreq,hdb⟩ := refundFunding_db hb hsett href
  have hkeys : w.db.SameKeys ((postConsumeUserSubscriptionDelta w.db e.id
      (wrap64 (-e.session.preConsumedQuota))).toOption.getD w.db) := postConsume_sameKeys
  rw [hdb]
  cases hp : postConsumeUserSubscriptionDelta w.db e.id (wrap64 (-e.session.preConsumedQuota)) with
  | error err => exact ⟨rfl,⟨rfl,rfl⟩,fun _ _ => rfl⟩
  | ok db =>
    rw [hp] at hkeys
    refine ⟨rfl,hkeys,fun requestId hne => ?_⟩
    simp only
    rw [findRecord_saveRecord,if_neg (hreq ▸ hne),findRecord,(postConsumeUserSubscriptionDelta_spec hp).1]
    rfl
end

lemma refund_cases (e : Entry) (w : World) : e.session.refund noFailure w=(e.session,w) ∨
      e.session.settled=false ∧ e.session.refunded=false ∧ e.session.needsRefund=true ∧
        (e.session.refund noFailure w).1={ e.session with refunded := true } ∧
        (e.session.refund noFailure w).2.db=(e.session.refundFunding noFailure w).db := by
  unfold refund
  split
  · exact .inl rfl
  next hopen =>
  simp only [Bool.or_eq_true,Bool.not_eq_true',not_or,Bool.not_eq_true,Bool.not_eq_false] at hopen
  obtain ⟨⟨hsett,href⟩,hnds⟩ := hopen
  refine .inr ⟨hsett,href,hnds,rfl,?_⟩
  simp only
  split
  · simp only [increaseTokenQuota,changeQuota,noFailure]
    split <;> rfl
  · rfl

lemma exact_refund (h : Exact s) (hok : Safe s (.refund requestId)) (hs : step s (.refund requestId)=some t) :
    Exact t := by
  simp only [step] at hs
  split at hs
  · cases hs
  next e hfind =>
  have hkey : e.requestId=requestId := Table.key_of_lookup hfind
  subst hkey
  have hmem : e∈s.entries := Table.mem_of_lookup hfind
  have hb := h.backed e hmem
  have hok := hok e hfind
  cases hs
  rcases refund_cases e s.world with hsame | ⟨hsett,href,hnds,hsess,hwrl⟩
  · rw [hsame]
    have hheld : (if e.session.refunded then 0 else e.held)=e.held := by
      split
      next hr => exact (hb.refunded hr).symm
      · rfl
    simp only [hheld]
    exact h.update hfind rfl rfl rfl ⟨rfl,rfl⟩ (fun _ _ => rfl) (h.same_rows e) hb
  obtain ⟨-,hheld,-⟩ := hb.live hsett href
  obtain ⟨hpost,hkeys,hrecords⟩ := refundFunding_writes hb hsett href
  rw [← hwrl] at hpost hkeys hrecords
  rw [hsess,if_pos rfl]
  have hpos := hb.pos
  refine h.update hfind rfl rfl rfl hkeys hrecords ?_ ?_
  · refine h.applied hmem rfl rfl (Int.le_refl 0) (hok hnds) (fun row hrow hlim hcurr => ?_) hpost
    -- what the session holds is in the counter, so the delta is exact and within the limit
    have hflr := held_le_usage h hmem hcurr
    have hm := h.rows e.id row hrow hlim
    obtain ⟨hlt,hlo,hhi,heq⟩ := hm
    have hdlt : wrap64 (-e.session.preConsumedQuota) = -e.session.preConsumedQuota :=
      wrap64_of_bounds (by omega) (by omega)
    rw [hdlt]
    refine ⟨by simp only; omega,?_⟩
    rw [newUsed_eq (by omega) (by omega)]
    omega
  · obtain ⟨f,hf,hrest⟩ := hb.funding
    refine ⟨⟨f,hf,hrest⟩,hkeys.2 ▸ hb.row,hb.request,hpos,hb.extra,Int.le_refl 0,fun _ => rfl,?_⟩
    intro _ hfls
    cases hfls

variable {cfg : Config} {env : OpenEnv} {info : RelayInfo}
lemma trySubscription_cases {w' : World}
    {r : Except ApiError BillingSession} (h : trySubscription cfg env info quota w=some (r,w')) :
    (∃ e, r=.error e) ∧ w'.db=w.db ∨ ∃ session res, r=.ok session ∧
        preConsumeUserSubscription env.plan.loc env.plan.plans env.plan.fuel w.db info.requestId info.userId
          (if quota≤0 then 1 else quota) env.plan.now=some (.ok res,w'.db) ∧
        (∃ f, session.funding=.subscription f ∧ f.requestId=info.requestId ∧
          f.subscriptionId=res.userSubscriptionId ∧ f.preConsumed=res.preConsumed) ∧
        session.relayInfo.subscriptionId=res.userSubscriptionId ∧
        session.preConsumedQuota=(if quota≤0 then 1 else quota) ∧ session.extraReserved=0 ∧
        session.settled=false ∧ session.refunded=false ∧ session.fundingSettled=false := by
  unfold trySubscription at h
  simp only at h
  generalize hamount : (if quota≤0 then 1 else quota)=amount at h ⊢
  have hpos : 0<amount := by
    subst hamount
    split <;> omega
  generalize hf : (⟨info.requestId,info.userId,amount,0,0,0,0⟩ : SubscriptionFunding)=f at h
  have htrs : (fresh info (.subscription f)).shouldTrust cfg=false := by
    unfold shouldTrust
    split
    · rfl
    split
    · rfl
    split <;> rfl
  simp only [preConsume,htrs,Bool.false_eq_true,if_false,hpos,if_true] at h
  split at h
  · cases h
    exact .inl ⟨⟨_,rfl⟩,rfl⟩
  next w₁ htkn =>
  have hw₁ : w₁.db=w.db := by rw [preConsumeTokenQuota_eq_ok htkn]
  obtain ⟨out,hout,hr⟩ := Option.map_eq_some_iff.mp h
  split at hr
  next message =>
    cases hr
    refine .inl ⟨⟨_,rfl⟩,?_⟩
    split
    · rw [← hw₁]
      cases hinc : increaseTokenQuota env.subscription.rollbackFails amount w₁ with
      | error e => rfl
      | ok w₂ => rw [(changeQuota_eq_ok.mp hinc).2.2]; rfl
    · exact hw₁
  next funding w₂ =>
  cases hr
  simp only [fresh,FundingSource.preConsume] at hout
  split at hout
  · cases hout
  obtain ⟨⟨r',db⟩,hpre,hr'⟩ := Option.map_eq_some_iff.mp hout
  subst hf
  cases r' with
  | error e => cases hr'
  | ok res =>
    cases hr'
    obtain ⟨info',heq,-,-,hid⟩ := sync_eq _
    refine .inr ⟨_,res,rfl,hw₁ ▸ hpre,?_⟩
    rw [heq]
    exact ⟨⟨_,rfl,rfl,rfl,rfl⟩,hid _ rfl,rfl,rfl,rfl,rfl,rfl⟩

/-- What the sessions count of a row after some resets is what the row is cleared to. -/
lemma Exact.sum_counts (h : Exact s) {old : UserSubscription} (hold : s.world.db.find id=some old)
    (hlim : 0<old.amountTotal) (resets : List ℕ) :
    (s.entries.map (Entry.counts id (after s.period resets id))).sum=old.cleared resets ∧
      0≤old.cleared resets ∧ old.cleared resets≤old.amountTotal ∧ old.amountTotal<2^63 := by
  obtain ⟨hlt,hlo,hhi,heq⟩ := h.rows id old hold hlim
  have hkey : old.id=id := Table.key_of_lookup hold
  refine ⟨?_,?_,?_,hlt⟩
  · rw [sum_counts_after h.past,cleared,hkey,heq]
    rfl
  all_goals
    unfold cleared
    split <;> omega

lemma Metered.clears (h : Exact s) (hcle : Clears s.world.db db resets id)
    (hrow : db.find id=some row) (hlim : 0 < row.amountTotal) (ht : t.period=after s.period resets)
    (hentr : t.entries=s.entries) : Metered t id row := by
  obtain ⟨old,hold,htl,hused⟩ := hcle row hrow
  obtain ⟨hsum,hlo,hhi,hlt⟩ := h.sum_counts hold (htl ▸ hlim) resets
  have husg : t.usage id=old.cleared resets := by rw [State.usage,ht,hentr,hsum]
  exact ⟨by omega,by omega,by omega,by omega⟩

lemma Metered.leaves (h : Exact s)
    (hleav : Leaves s.world.db db resets e.id amount id) (hpos : 0<amount) (hrow : db.find id=some row)
    (hlim : 0 < row.amountTotal) (ht : t.period=after s.period resets) (hentr : t.entries=s.entries++[e])
    (hper : e.period=after s.period resets e.id) (hheld : e.held=amount) : Metered t id row := by
  obtain ⟨old,hold,htl,hused⟩ := hleav row hrow
  obtain ⟨hsum,hlo,hhi,hlt⟩ := h.sum_counts hold (htl ▸ hlim) resets
  have husg : t.usage id=old.cleared resets+e.counts id (after s.period resets id) := by
    rw [State.usage,ht,hentr,map_append,sum_append,hsum]
    simp
  by_cases hid : id=e.id
  · subst hid
    rw [if_pos rfl] at hused
    obtain ⟨hused,hfits⟩ := hused
    have hfits := hfits (htl ▸ hlim)
    rw [wrap64_of_bounds (by omega) (by omega)] at hfits
    rw [wrap64_of_bounds (by omega) (by omega)] at hused
    have hcoun : e.counts e.id (after s.period resets e.id)=amount := (if_pos ⟨rfl,hper⟩).trans hheld
    exact ⟨by omega,by omega,by omega,by omega⟩
  · rw [if_neg hid] at hused
    have hcoun : e.counts id (after s.period resets id)=0 := if_neg fun hc => hid hc.1.symm
    exact ⟨by omega,by omega,by omega,by omega⟩

lemma le_after (period : ℕ → ℕ) (resets : List ℕ) (id : ℕ) : period id≤after period resets id :=
  Nat.le_add_right _ _

variable {loc : Location}
lemma exact_resetDue {plans : Plans} {fuel : ℕ} {limit : ℤ} (h : Exact s)
    (hs : step s (.resetDue loc plans fuel limit now)=some t) : Exact t := by
  obtain ⟨db,hdb,rfl⟩ := Option.map_eq_some_iff.mp hs
  obtain ⟨hkeys,hcle⟩ := resetDue_clears hdb
  have hrecords : db.records=s.world.db.records := (resetDue_spec hdb).1
  have hfind : ∀ requestId, db.findRecord requestId=s.world.db.findRecord requestId := by
    intro requestId
    rw [findRecord,findRecord,hrecords]
  constructor
  · exact h.distinct.congr hkeys
  · exact h.keys
  · intro id row hrow hlim
    exact .clears h (hcle id) hrow hlim rfl rfl
  · intro e he
    exact (h.past e he).trans (le_after _ _ _)
  · intro requestId r hr
    exact h.recorded requestId r (hfind requestId ▸ hr)
  · intro e he
    exact (h.backed e he).congr hkeys.2 (hfind e.requestId)

lemma exact_create {plan : SubscriptionPlan} {userId : ℕ} {source group : String}
    (h : Exact s) (hs : step s (.create loc plan userId source group now)=some t) : Exact t := by
  simp only [step] at hs
  split at hs
  · cases hs
    exact h
  next db hcre =>
  cases hs
  unfold createUserSubscriptionFromPlan at hcre
  obtain ⟨⟨sub,target⟩,hnew,rfl⟩ := map_eq_ok hcre
  obtain ⟨-,-,htl,hused,hid⟩ := newUserSubscription_spec hnew
  have hlt := plan.totalAmount_lt
  constructor
  · exact h.distinct.insert hid
  · exact h.keys
  · intro id row hrow hlim
    rcases SubDB.Distinct.find_insert hid hrow with hold | ⟨rfl,rfl⟩
    · have hm := h.rows id row hold hlim
      exact ⟨hm.total_lt,hm.used_nonneg,hm.used_le,hm.used_eq⟩
    -- no session has the new row
    have hzero : s.usage s.world.db.nextId=0 := by
      apply sum_eq_zero
      intro n hn
      obtain ⟨e,he,rfl⟩ := mem_map.mp hn
      refine if_neg ?_
      rintro ⟨heq,-⟩
      have := (h.backed e he).row.2
      omega
    exact ⟨by omega,by omega,by omega,hused.trans hzero.symm⟩
  · exact h.past
  · exact h.recorded
  · intro e he
    have hb := h.backed e he
    exact ⟨hb.funding,⟨hb.row.1,Nat.lt_succ_of_lt hb.row.2⟩,hb.request,hb.pos,hb.extra,hb.held_nonneg,hb.refunded,
      hb.live⟩

lemma Exact.opened (h : Exact s) (hfresh : e.requestId∉s.entries.map (·.requestId))
    (hkeys : s.world.db.SameKeys w.db) (hleav : ∀ id, Leaves s.world.db w.db resets e.id amount id)
    (hpos : 0<amount) (hheld : e.held=amount) (hper : e.period=after s.period resets e.id)
    (hrecords : ∀ requestId, requestId≠e.requestId → w.db.findRecord requestId=s.world.db.findRecord requestId)
    (hback : e.Backed w.db) : Exact ⟨w,s.entries++[e],after s.period resets⟩ := by
  constructor
  · exact h.distinct.congr hkeys
  · rw [map_append]
    refine nodup_append.mpr ⟨h.keys,nodup_singleton _,?_⟩
    intro a ha b hb hab
    have he : a=e.requestId := hab.trans (mem_singleton.mp hb)
    exact hfresh (he ▸ ha)
  · intro id row hrow hlim
    exact .leaves h (hleav id) hpos hrow hlim rfl rfl hper hheld
  · exact forall_mem_append.mpr ⟨fun d hd => (h.past d hd).trans (le_after _ _ _),forall_mem_singleton.mpr hper.le⟩
  · intro requestId r hr
    rw [map_append,mem_append]
    by_cases hreq : requestId=e.requestId
    · exact .inr (mem_singleton.mpr hreq)
    · exact .inl (h.recorded requestId r (hrecords requestId hreq ▸ hr))
  · intro d hd
    rcases mem_append.mp hd with hd | hd
    · refine (h.backed d hd).congr hkeys.2 (hrecords d.requestId ?_)
      rintro heq
      exact hfresh (heq ▸ mem_map_of_mem hd)
    · cases mem_singleton.mp hd
      exact hback

lemma Exact.fresh (h : Exact s) (hfind : ¬(s.find requestId).isSome=true) :
    requestId∉s.entries.map (·.requestId) ∧ s.world.db.findRecord requestId=none := by
  have hfresh : requestId∉s.entries.map (·.requestId) := by
    intro hmem
    obtain ⟨e,he,rfl⟩ := mem_map.mp hmem
    obtain ⟨e',he'⟩ := Table.exists_lookup Entry.requestId he
    exact hfind (Option.isSome_iff_exists.mpr ⟨e',he'⟩)
  refine ⟨hfresh,?_⟩
  cases hr : s.world.db.findRecord requestId with
  | none => rfl
  | some r => exact absurd (h.recorded _ _ hr) hfresh

lemma exact_preConsume (h : Exact s) (hs : step s (.preConsume cfg env info quota)=some t) : Exact t := by
  simp only [step] at hs
  split at hs
  · cases hs
  next hfind =>
  obtain ⟨hfresh,hnew⟩ := h.fresh hfind
  obtain ⟨⟨r,w⟩,htry,rfl⟩ := Option.map_eq_some_iff.mp hs
  rcases trySubscription_cases htry with ⟨⟨e,rfl⟩,hdb⟩ | ⟨session,res,rfl,hpre,hfund,hid,hqt,hext,hsettled,href,hfs⟩
  · have hfind : ∀ id, w.db.find id=s.world.db.find id := fun id => by rw [hdb]
    exact ⟨hdb ▸ h.distinct,h.keys,fun id row hrow hlim => by
        have hm := h.rows id row (hfind id ▸ hrow) hlim
        exact ⟨hm.total_lt,hm.used_nonneg,hm.used_le,hm.used_eq⟩,h.past,hdb ▸ h.recorded,hdb ▸ h.backed⟩
  obtain ⟨hkeys,hleav⟩ := preConsume_leaves hpre h.distinct hnew
  rcases preConsumeUserSubscription_cases hpre with ⟨-,e,he,-⟩ | ⟨-,⟨r,hr⟩,-⟩ |
      ⟨hpos,hbln,-,_,hres,c,hc,plan,sub,hrst,-,rfl,hrecords,-⟩
  · cases he
  · rw [hnew] at hr
    cases hr
  cases hres
  have hrow : sub.id≠0 ∧ sub.id<w.db.nextId := by
    have := h.distinct.below c.id (mem_map_of_mem (mem_candidates.mp hc).1)
    rw [(maybeReset_spec hrst).1,hkeys.2]
    omega
  refine h.opened hfresh hkeys (hid.symm ▸ hleav) hpos hqt rfl (fun requestId hne => ?_) ?_
  · rw [findRecord,hrecords,Table.lookup_append]
    simp [findRecord,Table.lookup,Ne.symm hne]
  · obtain ⟨f,hf,hreq,hfid,hfpre⟩ := hfund
    refine ⟨⟨f,hf,hreq,hfid.trans hid.symm,hfpre.trans hqt.symm⟩,hid.symm ▸ hrow,hbln,hqt.symm ▸ hpos,hext,
      hqt.symm ▸ hpos.le,?_,?_⟩
    · intro hr
      rw [href] at hr
      cases hr
    · intro _ _
      refine ⟨hfs,rfl,info.userId,?_⟩
      rw [hid,hqt]
      exact findRecord_append hrecords hnew

lemma exact_step (s : State) (op : Op) (t : State) (h : Exact s) (hok : Safe s op) (hs : step s op=some t) :
    Exact t := by
  cases op with
  | create loc plan userId source currentGroup now => exact exact_create h hs
  | preConsume cfg env info preConsumedQuota => exact exact_preConsume h hs
  | settle requestId env actualQuota => exact exact_settle h hok hs
  | refund requestId => exact exact_refund h hok hs
  | resetDue loc plans fuel limit now => exact exact_resetDue h hs

/-- In every run in which a session that was opened before its row's last reset leaves the counter alone
when it ends, the counter of every limited subscription is what the sessions opened since that reset
hold. -/
theorem used_eq_held_of_safe {ops : List Op} {s : State} (h : Runs step Safe .start ops s) :
    ∀ sub∈s.world.db.subs, 0<sub.amountTotal → sub.amountUsed=s.usage sub.id := by
  have hs : Exact s := h.invariant Exact exact_step exact_start
  intro sub hsub hlim
  exact (hs.rows sub.id sub (hs.distinct.find hsub) hlim).used_eq

def meteredPlan : SubscriptionPlan where
  id := 1
  durationUnit := .day
  durationValue := 30
  totalAmount := 1000
  quotaResetPeriod := "custom"
  quotaResetCustomSeconds := 100
  totalAmount_lt := thousand_lt_cap

def meteredPlans : Plans := fun id => if id=1 then some meteredPlan else none

def plainConfig : Config := ⟨500000,fun _ => ""⟩

def requestInfo (requestId : String) : RelayInfo :=
  ⟨1,requestId,false,true,0,false,"subscription_only",0,0,.unset,0,0,0,0,0⟩

/-- A request of user 1 at time `now`, with an unlimited token. -/
def request (requestId : String) (quota now : ℤ) : Op :=
  .preConsume plainConfig ⟨none,noFailure,⟨false,some 0,false,false,false⟩,⟨utc,meteredPlans,5,now⟩,now,false,false⟩
    (requestInfo requestId) quota

/-- One session ends in time, a second one after a reset but before any new charge. -/
def endedInTime : List Op :=
  [.create utc meteredPlan 1 "order" "default" 1000,request "first" 300 1010,.settle "first" noFailure 250,
    request "second" 200 1020,.resetDue utc meteredPlans 5 0 1150,.refund "second",request "third" 120 1160]

/-- What is left at the end is the charge of the third request. -/
theorem endedInTime_holds_third : ∃ s, exec step .start endedInTime=some s ∧
    (∀ sub∈s.world.db.subs, 0<sub.amountTotal → sub.amountUsed=s.usage sub.id) ∧
      s.world.db.subs.map (·.amountUsed)=[120] := by
  obtain ⟨s,hexec,hruns,hused⟩ := checked_run step Safe .start endedInTime (fun s => s.world.db.subs.map (·.amountUsed)=[120])
    (by decide +kernel)
  exact ⟨s,hexec,used_eq_held_of_safe hruns,hused⟩

def acrossReset : List Op :=
  [.create utc meteredPlan 1 "order" "default" 1000,request "before" 300 1010,
    .resetDue utc meteredPlans 5 0 1150,request "after" 200 1160,.refund "before"]

/-- The refund of the old session takes the new session's charge out of the counter. -/
theorem acrossReset_erases_charge : ∃ s, exec step .start acrossReset=some s ∧
    ∃ sub∈s.world.db.subs, 0<sub.amountTotal ∧ s.usage sub.id=200 ∧ sub.amountUsed=0 := exists_of_any (by decide +kernel)
end AronaApi.Billing.Period
