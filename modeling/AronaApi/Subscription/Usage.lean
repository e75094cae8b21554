import AronaApi.Subscription.Store

/-! What each transaction on the subscription tables does to the usage counters and to the pre-consume
records. -/
namespace AronaApi.Subscription
open GoStd List SubDB

/-- A row whose counter is in range; all columns are `int64`. -/
structure UserSubscription.Valid (sub : UserSubscription) : Prop where
  total_nonneg : 0 ≤ sub.amountTotal
  total_lt : sub.amountTotal<2^63
  used_nonneg : 0 ≤ sub.amountUsed
  used_lt : sub.amountUsed<2^63
  used_le : 0<sub.amountTotal → sub.amountUsed ≤ sub.amountTotal

namespace UserSubscription
variable {sub sub' : UserSubscription} {amount : ℤ}
lemma Valid.congr (h : sub.Valid) (htl : sub'.amountTotal=sub.amountTotal)
    (hused : sub'.amountUsed=sub.amountUsed ∨ sub'.amountUsed=0) : sub'.Valid := by
  obtain ⟨h₁,h₂,h₃,h₄,h₅⟩ := h
  constructor <;> rcases hused with hu | hu <;> simp only [htl,hu] <;> omega

lemma Valid.fits_iff (h : sub.Valid) :
    sub.Fits amount ↔ sub.amountTotal=0 ∨ amount ≤ sub.amountTotal-sub.amountUsed := by
  have h₁ := h.total_nonneg
  have h₂ := h.total_lt
  have h₃ := h.used_nonneg
  have h₄ := h.used_lt
  unfold Fits
  rw [wrap64_of_bounds (by omega) (by omega)]
  omega

lemma Valid.charge (h : sub.Valid) (hfits : sub.Fits amount) (hpos : 0<amount)
    (hroom : sub.amountTotal=0 → sub.amountUsed+amount<2^63) :
    (sub.charge amount).Valid ∧ (sub.charge amount).amountUsed=sub.amountUsed+amount := by
  have hfits := h.fits_iff.mp hfits
  obtain ⟨h₁,h₂,h₃,h₄,h₅⟩ := h
  have hlt : sub.amountUsed+amount<2^63 := by
    rcases hfits with h0 | hle
    · exact hroom h0
    · omega
  have hsum : wrap64 (sub.amountUsed+amount)=sub.amountUsed+amount := wrap64_of_bounds (by omega) hlt
  refine ⟨⟨h₁,h₂,?_,?_,?_⟩,hsum⟩ <;> simp only [UserSubscription.charge,hsum] <;> omega

lemma newUsed_nonneg (sub : UserSubscription) (delta : ℤ) : 0 ≤ sub.newUsed delta := by
  simp only [newUsed]
  split <;> omega

lemma newUsed_lt (sub : UserSubscription) (delta : ℤ) : sub.newUsed delta<2^63 := by
  have h := wrap64_lt (sub.amountUsed+delta)
  simp only [newUsed]
  split <;> omega

lemma Valid.with_newUsed (h : sub.Valid) {delta : ℤ} (hle : 0<sub.amountTotal → sub.newUsed delta ≤ sub.amountTotal) :
    ({ sub with amountUsed := sub.newUsed delta } : UserSubscription).Valid :=
  ⟨h.total_nonneg,h.total_lt,sub.newUsed_nonneg delta,sub.newUsed_lt delta,hle⟩

lemma newUsed_eq {delta : ℤ} (hlo : -2^63 ≤ sub.amountUsed+delta) (hhi : sub.amountUsed+delta<2^63) :
    sub.newUsed delta=max 0 (sub.amountUsed+delta) := by
  simp only [newUsed]
  rw [wrap64_of_bounds hlo hhi]
  split <;> omega
end UserSubscription

variable {fuel count : ℕ} {now amount delta : ℤ} {sub sub' : UserSubscription} {loc : Location}
  {plan : SubscriptionPlan}

lemma maybeReset_spec (h : maybeReset loc fuel sub plan now=some sub') :
    sub'.id=sub.id ∧ sub'.amountTotal=sub.amountTotal ∧ (sub'.amountUsed=sub.amountUsed ∨ sub'.amountUsed=0) := by
  unfold maybeReset at h
  split at h
  · cases h; exact ⟨rfl,rfl,.inl rfl⟩
  split at h
  · cases h; exact ⟨rfl,rfl,.inl rfl⟩
  obtain ⟨⟨base,next,advanced⟩,-,rfl⟩ := Option.map_eq_some_iff.mp h
  simp only
  split
  · exact ⟨rfl,rfl,.inr rfl⟩
  · split <;> exact ⟨rfl,rfl,.inl rfl⟩

lemma reset_valid (h : maybeReset loc fuel sub plan now=some sub') (hs : sub.Valid) : sub'.Valid := by
  obtain ⟨-,htl,hused⟩ := maybeReset_spec h
  exact hs.congr htl hused

def SubDB.Valid (db : SubDB) : Prop := ∀ sub∈db.subs, sub.Valid

variable {db : SubDB}
lemma SubDB.Valid.save (h : db.Valid) (hs : sub.Valid) : (db.save sub).Valid := Table.forall_replace h hs

lemma SubDB.Valid.find (h : db.Valid) {id : ℕ} (hf : db.find id=some sub) : sub.Valid := h sub (Table.mem_of_lookup hf)

lemma SubDB.find_save (db : SubDB) (sub : UserSubscription) (id : ℕ) :
    (db.save sub).find id=if id=sub.id then (db.find id).map fun _ => sub else db.find id :=
  Table.lookup_replace id sub db.subs

lemma SubDB.map_find_save (db : SubDB) (sub row : UserSubscription) (id : ℕ) :
    ((db.save sub).find id).map (fun _ => row)=(db.find id).map fun _ => row := by
  rw [find_save]
  split
  · exact Option.map_map _ _ _
  · rfl

def NoneFits (loc : Location) (plans : Plans) (fuel : ℕ) (candidates : List UserSubscription)
    (amount now : ℤ) : Prop :=
  ∀ c∈candidates, ∃ plan sub, getSubscriptionPlanById plans c.planId=.ok plan ∧
    maybeReset loc fuel c plan now=some sub ∧ ¬sub.Fits amount

variable {r : Except SubError (PreConsumeResult × SubDB)}
/-- What the candidate loop can end with: the amount fits no candidate, a plan is unreadable, or one
candidate is charged and one record is written. -/
lemma preConsumeLoop_cases {plans : Plans} {requestId : String} {userId : ℕ} {candidates : List UserSubscription}
    (h : preConsumeLoop loc plans fuel requestId userId amount now candidates db=some r) :
    (r=.error (.insufficient amount) ∧ NoneFits loc plans fuel candidates amount now) ∨
      (∃ c∈candidates, ∃ e, r=.error e ∧ getSubscriptionPlanById plans c.planId=.error e) ∨
      ∃ c∈candidates, ∃ plan sub db',
        getSubscriptionPlanById plans c.planId=.ok plan ∧ maybeReset loc fuel c plan now=some sub ∧ sub.Fits amount ∧
          r=.ok (⟨sub.id,amount,sub.amountTotal,sub.amountUsed,(sub.charge amount).amountUsed⟩,db') ∧
          db'.records=db.records++[⟨requestId,userId,sub.id,amount,.consumed⟩] ∧
          db'.find sub.id=(db.find sub.id).map (fun _ => sub.charge amount) ∧
          (db.Valid → (∀ c∈candidates, c.Valid) → (sub.charge amount).Valid → db'.Valid) := by
  induction candidates generalizing db with
  | nil =>
    cases h
    exact .inl ⟨rfl,by simp [NoneFits]⟩
  | cons c rest ih =>
    unfold preConsumeLoop at h
    split at h
    next e hplan =>
      cases h
      exact .inr (.inl ⟨c,by simp,e,rfl,hplan⟩)
    next plan hplan =>
    obtain ⟨sub,hsub,h⟩ := Option.bind_eq_some_iff.mp h
    simp only at h
    split at h
    next hfits =>
      cases h
      refine .inr (.inr ⟨c,by simp,plan,sub,_,hplan,hsub,hfits,rfl,rfl,?_,fun hdb hcs hchar => ?_⟩)
      · refine (find_save _ _ _).trans ((if_pos rfl).trans ?_)
        exact db.map_find_save sub _ _
      · exact (hdb.save (reset_valid hsub (hcs c (by simp)))).save hchar
    next hfits =>
    rcases ih h with ⟨rfl,hall⟩ | ⟨c',hc',e,rfl,he⟩ | ⟨c',hc',rest'⟩
    · refine .inl ⟨rfl,?_⟩
      intro c' hc'
      rcases mem_cons.mp hc' with rfl | hc'
      · exact ⟨plan,sub,hplan,hsub,hfits⟩
      · exact hall c' hc'
    · exact .inr (.inl ⟨c',mem_cons_of_mem _ hc',e,rfl,he⟩)
    · obtain ⟨plan',sub',db',hpln',hsub',hfts',hr,hrecords,hfind,hvalid⟩ := rest'
      refine .inr (.inr ⟨c',mem_cons_of_mem _ hc',plan',sub',db',hpln',hsub',hfts',hr,hrecords,
        hfind.trans (db.map_find_save sub _ _),?_⟩)
      intro hdb hcs hchar
      exact hvalid (hdb.save (reset_valid hsub (hcs c (by simp))))
        (fun c hc => hcs c (mem_cons_of_mem _ hc)) hchar

def SubDB.Keeps (db db' : SubDB) : Prop := ∀ requestId r, db.findRecord requestId=some r →
  ∃ r', db'.findRecord requestId=some r' ∧ (r.status=.refunded → r'.status=.refunded)

namespace SubDB
variable {db' : SubDB}
lemma Keeps.of_eq (h : db'.records=db.records) : db.Keeps db' := by
  intro requestId r hr
  refine ⟨r,?_,id⟩
  rw [← hr,findRecord,findRecord,h]

variable {r : PreConsumeRecord}
lemma Keeps.append (h : db'.records=db.records++[r]) : db.Keeps db' := by
  intro requestId r' hr
  refine ⟨r',?_,id⟩
  rw [findRecord,h,Table.lookup_append]
  rw [findRecord] at hr
  rw [hr,Option.some_or]

lemma findRecord_append (h : db'.records=db.records++[r]) (hnone : db.findRecord r.requestId=none) :
    db'.findRecord r.requestId=some r := by
  rw [findRecord] at hnone
  rw [findRecord,h,Table.lookup_append,hnone,Option.none_or]
  simp [Table.lookup]

lemma findRecord_saveRecord (r : PreConsumeRecord) (requestId : String) :
    (db.saveRecord r).findRecord requestId =
      if requestId=r.requestId then (db.findRecord requestId).map fun _ => r else db.findRecord requestId :=
  Table.lookup_replace requestId r db.records

lemma Keeps.saveRecord (hr : r.status=.refunded) : db.Keeps (db.saveRecord r) := by
  intro requestId r' hr'
  rw [findRecord_saveRecord]
  by_cases hid : requestId=r.requestId
  · exact ⟨r,by simp [hid.symm,hr'],fun _ => hr⟩
  · exact ⟨r',by simp [hid,hr'],id⟩

lemma Keeps.trans {db'' : SubDB} (h : db.Keeps db') (h' : db'.Keeps db'') : db.Keeps db'' := by
  intro requestId r hr
  obtain ⟨r',hr',hs⟩ := h requestId r hr
  obtain ⟨r'',hr'',hs'⟩ := h' requestId r' hr'
  exact ⟨r'',hr'',fun h => hs' (hs h)⟩

lemma mem_candidates {userId : ℕ} {now : ℤ} {sub : UserSubscription} : sub∈db.candidates userId now ↔
      sub∈db.subs ∧ sub.userId=userId ∧ sub.status=.active ∧ now<sub.endTime := by simp [candidates,mem_mergeSort]
end SubDB

variable {id userId : ℕ} {source currentGroup : String} {db' : SubDB} {requestId : String} {plans : Plans}
section
variable {group : Option String}
  (h : newUserSubscription loc now id userId plan source currentGroup count=.ok (sub,group))
include h
lemma newUserSubscription_spec :
    sub.userId=userId ∧ sub.planId=plan.id ∧ sub.amountTotal=plan.totalAmount ∧ sub.amountUsed=0 ∧ sub.id=id := by
  unfold newUserSubscription at h
  split at h
  · cases h
  split at h
  · cases h
  split at h
  · cases h
  split at h
  · cases h
  · cases h; exact ⟨rfl,rfl,rfl,rfl,rfl⟩

lemma newUserSubscription_groups : sub.status=.active ∧ sub.upgradeGroup=trimSpace plan.upgradeGroup ∧
      sub.downgradeGroup=trimSpace plan.downgradeGroup ∧
      (sub.upgradeGroup ≠ "" ∧ currentGroup≠sub.upgradeGroup ∧ sub.prevUserGroup=currentGroup ∧
          group=some sub.upgradeGroup ∨
        (sub.upgradeGroup = "" ∨ currentGroup=sub.upgradeGroup) ∧ sub.prevUserGroup = "" ∧ group=none) := by
  unfold newUserSubscription at h
  split at h
  · cases h
  split at h
  · cases h
  split at h
  · cases h
  split at h
  · cases h
  cases h
  refine ⟨rfl,rfl,rfl,?_⟩
  by_cases hmvs : trimSpace plan.upgradeGroup ≠ "" ∧ currentGroup≠trimSpace plan.upgradeGroup
  · exact .inl ⟨hmvs.1,hmvs.2,if_pos hmvs,if_pos hmvs⟩
  · exact .inr ⟨by tauto,if_neg hmvs,if_neg hmvs⟩
end

lemma createUserSubscriptionFromPlan_spec
    (h : createUserSubscriptionFromPlan loc db now userId plan source currentGroup=.ok db') :
    db'.records=db.records ∧ (0≤plan.totalAmount → db.Valid → db'.Valid) := by
  unfold createUserSubscriptionFromPlan at h
  simp only at h
  cases hnew : newUserSubscription loc now db.nextId userId plan source currentGroup
      (db.subs.filter fun s => s.userId=userId ∧ s.planId=plan.id).length with
  | error e => rw [hnew] at h; cases h
  | ok r =>
    rw [hnew] at h
    cases h
    obtain ⟨-,-,htl,hused,-⟩ := newUserSubscription_spec hnew
    have hlt := plan.totalAmount_lt
    refine ⟨rfl,fun hnonn hdb sub hsub => ?_⟩
    rcases mem_append.mp hsub with hsub | hsub
    · exact hdb sub hsub
    cases mem_singleton.mp hsub
    constructor <;> omega

lemma postConsume_cases (h : postConsumeUserSubscriptionDelta db id delta=.ok db') :
    (delta=0 ∧ db'=db) ∨ ∃ sub, db.find id=some sub ∧ db'=db.save { sub with amountUsed := sub.newUsed delta } ∧
      (0<sub.amountTotal → sub.newUsed delta ≤ sub.amountTotal) := by
  unfold postConsumeUserSubscriptionDelta at h
  split at h
  · cases h
  split at h
  next hzero => exact .inl ⟨hzero,(Except.ok.inj h).symm⟩
  split at h
  · cases h
  next sub hsub =>
  simp only at h
  split at h
  · cases h
  next hle => exact .inr ⟨sub,hsub,(Except.ok.inj h).symm,by omega⟩

lemma postConsume_of_le (hsub : db.find id=some sub) (hid : id≠0) (hdlt : delta≠0)
    (hle : 0<sub.amountTotal → sub.newUsed delta ≤ sub.amountTotal) : postConsumeUserSubscriptionDelta db id delta =
      .ok (db.save { sub with amountUsed := sub.newUsed delta }) := by
  rw [postConsumeUserSubscriptionDelta,if_neg hid,if_neg hdlt,hsub]
  simp only
  rw [if_neg (by omega)]

lemma postConsumeUserSubscriptionDelta_spec (h : postConsumeUserSubscriptionDelta db id delta=.ok db') :
    db'.records=db.records ∧ (db.Valid → db'.Valid) := by
  rcases postConsume_cases h with ⟨-,rfl⟩ | ⟨sub,hsub,rfl,hle⟩
  · exact ⟨rfl,fun hdb => hdb⟩
  · exact ⟨rfl,fun hdb => hdb.save ((hdb.find hsub).with_newUsed hle)⟩

lemma SubDB.find_save_self (h : db.find id=some sub) (sub' : UserSubscription) (hid : sub'.id=sub.id) :
    (db.save sub').find id=some sub' := by
  have hkey : sub.id=id := Table.key_of_lookup h
  rw [find_save,if_pos (hkey.symm.trans hid.symm),h]
  rfl

lemma refund_of_consumed {r : PreConsumeRecord} (hbln : trimSpace requestId ≠ "")
    (hr : db.findRecord requestId=some r) (hs : r.status=.consumed) (hpos : 0 < r.preConsumed)
    (hrng : r.preConsumed<2^63)
    (hpost : postConsumeUserSubscriptionDelta db r.userSubscriptionId (-r.preConsumed)=.ok db') :
    refundSubscriptionPreConsume db requestId=.ok (db'.saveRecord { r with status := .refunded }) := by
  unfold refundSubscriptionPreConsume
  rw [if_neg hbln,hr]
  simp only [hs,reduceCtorEq,if_false,Int.not_le.mpr hpos]
  rw [wrap64_of_bounds (by omega) (by omega),hpost]
  rfl

lemma resetDueOne_spec (h : resetDueOne loc plans fuel now db sub=some db') :
    db'.records=db.records ∧ (db.Valid → db'.Valid) := by
  have hsame : db=db' → db'.records=db.records ∧ (db.Valid → db'.Valid) := by
    rintro rfl
    exact ⟨rfl,fun hdb => hdb⟩
  unfold resetDueOne at h
  split at h
  · exact hsame (Option.some.inj h)
  split at h
  · exact hsame (Option.some.inj h)
  next locked hlock =>
  split at h
  · obtain ⟨sub',hrst,rfl⟩ := Option.map_eq_some_iff.mp h
    exact ⟨rfl,fun hdb => hdb.save (reset_valid hrst (hdb.find hlock))⟩
  · exact hsame (Option.some.inj h)

lemma resetDue_spec {due : List UserSubscription} (h : due.foldlM (resetDueOne loc plans fuel now) db=some db') :
    db'.records=db.records ∧ (db.Valid → db'.Valid) := by
  induction due generalizing db with
  | nil =>
    cases h
    exact ⟨rfl,fun hdb => hdb⟩
  | cons sub due ih =>
    rw [foldlM_cons] at h
    obtain ⟨db₁,hone,hrest⟩ := Option.bind_eq_some_iff.mp h
    obtain ⟨hrecords,hvalid⟩ := resetDueOne_spec hone
    obtain ⟨hrec',hval'⟩ := ih hrest
    exact ⟨hrec'.trans hrecords,fun hdb => hval' (hvalid hdb)⟩

lemma refundSubscriptionPreConsume_spec (h : refundSubscriptionPreConsume db requestId=.ok db') :
    db.Keeps db' ∧ (db.Valid → db'.Valid) ∧ trimSpace requestId ≠ "" ∧
      ∃ r, db'.findRecord requestId=some r ∧ r.status=.refunded := by
  unfold refundSubscriptionPreConsume at h
  split at h
  · cases h
  next hid =>
  split at h
  · cases h
  next record hrec =>
  have hkey : record.requestId=requestId := Table.key_of_lookup hrec
  split at h
  next href =>
    cases h
    exact ⟨.of_eq rfl,fun hdb => hdb,hid,record,hrec,href⟩
  · split at h
    · cases h
      refine ⟨.saveRecord rfl,fun hdb => hdb,hid,{ record with status := .refunded },?_,rfl⟩
      rw [findRecord_saveRecord]
      simp [hkey,hrec]
    obtain ⟨db₁,hpost,rfl⟩ := map_eq_ok h
    obtain ⟨hrecords,hvalid⟩ := postConsumeUserSubscriptionDelta_spec hpost
    refine ⟨(SubDB.Keeps.of_eq hrecords).trans (.saveRecord rfl),hvalid,hid,{ record with status := .refunded },?_,rfl⟩
    have hrec' : db₁.findRecord requestId=some record := by rw [← hrec,findRecord,findRecord,hrecords]
    rw [findRecord_saveRecord]
    simp [hkey,hrec']

lemma refund_of_refunded {r : PreConsumeRecord} (hid : trimSpace requestId ≠ "")
    (hr : db.findRecord requestId=some r) (hs : r.status=.refunded) :
    refundSubscriptionPreConsume db requestId=.ok db := by
  unfold refundSubscriptionPreConsume
  rw [if_neg hid,hr]
  exact if_pos hs

lemma getSubscriptionPlanById_ne_insufficient (plans : Plans) (id : ℕ) (need : ℤ) :
    getSubscriptionPlanById plans id≠.error (.insufficient need) := by
  unfold getSubscriptionPlanById
  split
  · simp
  · split <;> simp

/-- The store `db'` has one charged candidate more than `db`, with its record, and `result` says so. -/
def Charges (loc : Location) (fuel : ℕ) (db : SubDB) (requestId : String) (userId : ℕ) (amount now : ℤ)
    (result : PreConsumeResult) (db' : SubDB) : Prop :=
  ∃ c∈db.candidates userId now, ∃ plan sub,maybeReset loc fuel c plan now=some sub ∧ sub.Fits amount ∧
      result=⟨sub.id,amount,sub.amountTotal,sub.amountUsed,(sub.charge amount).amountUsed⟩ ∧
      db'.records=db.records++[⟨requestId,userId,sub.id,amount,.consumed⟩] ∧
      db'.find sub.id=some (sub.charge amount) ∧
      (db.Valid → (sub.charge amount).Valid → db'.Valid)

lemma preConsumeTx_cases (h : preConsumeTx loc plans fuel db requestId userId amount now=some r) :
    (∃ e, r=.error e ∧ ∀ need, e=.insufficient need → NoneFits loc plans fuel (db.candidates userId now) amount now) ∨
      ((∃ existing, db.findRecord requestId=some existing) ∧
        ∃ result, r=.ok (result,db) ∧ result.amountUsedBefore=result.amountUsedAfter) ∨ db.findRecord requestId=none ∧
        ∃ result db', r=.ok (result,db') ∧ Charges loc fuel db requestId userId amount now result db' := by
  unfold preConsumeTx at h
  split at h
  next existing hexis =>
    split at h
    · cases h
      exact .inl ⟨_,rfl,by simp⟩
    split at h <;> cases h
    · exact .inl ⟨_,rfl,by simp⟩
    · exact .inr (.inl ⟨⟨existing,hexis⟩,_,rfl,rfl⟩)
  next hnone =>
  split at h
  · cases h
    exact .inl ⟨_,rfl,by simp⟩
  rcases preConsumeLoop_cases h with ⟨rfl,hall⟩ | ⟨c,hc,e,rfl,he⟩ | hchar
  · exact .inl ⟨_,rfl,fun _ _ => hall⟩
  · refine .inl ⟨e,rfl,?_⟩
    rintro need rfl
    exact absurd he (getSubscriptionPlanById_ne_insufficient _ _ _)
  obtain ⟨c,hc,plan,sub,db',-,hrst,hfits,rfl,hrecords,hfind,hvalid⟩ := hchar
  refine .inr (.inr ⟨hnone,_,db',rfl,c,hc,plan,sub,hrst,hfits,rfl,hrecords,?_,fun hdb => ?_⟩)
  · obtain ⟨row,hrow⟩ := Table.exists_lookup UserSubscription.id (mem_candidates.mp hc).1
    rw [hfind,(maybeReset_spec hrst).1,SubDB.find,hrow]
    rfl
  · exact hvalid hdb fun c hc => hdb c (mem_candidates.mp hc).1

lemma preConsumeUserSubscription_cases {r : Except SubError PreConsumeResult}
    (h : preConsumeUserSubscription loc plans fuel db requestId userId amount now=some (r,db')) :
    (db'=db ∧ ∃ e, r=.error e ∧
        ∀ need, e=.insufficient need → NoneFits loc plans fuel (db.candidates userId now) amount now) ∨
      (db'=db ∧ (∃ existing, db.findRecord requestId=some existing) ∧
        ∃ result, r=.ok result ∧ result.amountUsedBefore=result.amountUsedAfter) ∨
      0<amount ∧ trimSpace requestId ≠ "" ∧ db.findRecord requestId=none ∧
        ∃ result, r=.ok result ∧ Charges loc fuel db requestId userId amount now result db' := by
  unfold preConsumeUserSubscription at h
  split at h
  · cases h
    exact .inl ⟨rfl,_,rfl,by simp⟩
  split at h
  · cases h
    exact .inl ⟨rfl,_,rfl,by simp⟩
  next hbln =>
  split at h
  · cases h
    exact .inl ⟨rfl,_,rfl,by simp⟩
  next hamo =>
  obtain ⟨out,htx,hout⟩ := Option.map_eq_some_iff.mp h
  rcases preConsumeTx_cases htx with ⟨e,rfl,he⟩ | ⟨hexis,result,rfl,hsame⟩ | ⟨hnone,result,db₁,rfl,hchar⟩
  · cases hout
    exact .inl ⟨rfl,e,rfl,he⟩
  · cases hout
    exact .inr (.inl ⟨rfl,hexis,result,rfl,hsame⟩)
  · cases hout
    exact .inr (.inr ⟨by omega,hbln,hnone,result,rfl,hchar⟩)
end AronaApi.Subscription
