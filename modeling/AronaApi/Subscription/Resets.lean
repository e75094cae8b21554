import AronaApi.Subscription.Usage

/-! Which rows a transaction resets, and what it leaves in every row's counter. -/
namespace AronaApi.Subscription
open GoStd List UserSubscription SubDB
open Table (key_of_lookup)

/-- Whether `maybeReset` clears the counter: a reset time has passed. -/
def resetsNow (loc : Location) (fuel : ℕ) (sub : UserSubscription) (plan : SubscriptionPlan) (now : ℤ) : Bool :=
  if 0<sub.nextResetTime ∧ now<sub.nextResetTime then false
  else if normalizeResetPeriod plan.quotaResetPeriod=.never then false
  else
    let base := if sub.lastResetTime≤0 then sub.startTime else sub.lastResetTime
    match resetLoop loc plan sub.endTime now fuel base (calcNextResetTime loc base plan sub.endTime) false with
    | none => false
    | some (_,_,advanced) => advanced

def loopResets (loc : Location) (plans : Plans) (fuel : ℕ) (amount now : ℤ) : List UserSubscription → List ℕ
  | [] => []
  | candidate::rest =>
    match getSubscriptionPlanById plans candidate.planId with
    | .error _ => []
    | .ok plan =>
      match maybeReset loc fuel candidate plan now with
      | none => []
      | some sub => (if resetsNow loc fuel candidate plan now then [candidate.id] else []) ++
          if sub.Fits amount then [] else loopResets loc plans fuel amount now rest

/-- The rows a successful `PreConsumeUserSubscription` resets. -/
def preConsumeResets (loc : Location) (plans : Plans) (fuel : ℕ) (db : SubDB) (requestId : String)
    (userId : ℕ) (amount now : ℤ) : List ℕ :=
  match db.findRecord requestId with
  | some _ => []
  | none => loopResets loc plans fuel amount now (db.candidates userId now)

/-- Whether `resetDueOne` clears the counter of the row it looks at. -/
def oneResets (loc : Location) (plans : Plans) (fuel : ℕ) (now : ℤ) (db : SubDB) (sub : UserSubscription) :
    List ℕ :=
  match getSubscriptionPlanById plans sub.planId,db.find sub.id with
  | .ok plan,some locked =>
    if (0<locked.nextResetTime ∧ locked.nextResetTime≤now) ∧ resetsNow loc fuel locked plan now then [sub.id]
    else []
  | _,_ => []

def dueResets (loc : Location) (plans : Plans) (fuel : ℕ) (now : ℤ) : List UserSubscription → SubDB → List ℕ
  | [],_ => []
  | sub::due,db => oneResets loc plans fuel now db sub ++
      match resetDueOne loc plans fuel now db sub with
      | none => []
      | some db => dueResets loc plans fuel now due db

variable {loc : Location} {plans : Plans} {fuel : ℕ} {now : ℤ} {db db' : SubDB} {id userId : ℕ}
  {res : PreConsumeResult} {requestId : String}

variable {sub : UserSubscription} {plan : SubscriptionPlan} {resets : List ℕ} {amount : ℤ}
variable {sub' c : UserSubscription}
lemma maybeReset_used (h : maybeReset loc fuel sub plan now=some sub') :
    sub'.amountUsed=if resetsNow loc fuel sub plan now then 0 else sub.amountUsed := by
  unfold maybeReset at h
  unfold resetsNow
  split at h
  next herl =>
    cases h
    simp [herl]
  next herl =>
  split at h
  next hnvr =>
    cases h
    simp [hnvr]
  next hnvr =>
  simp only at h
  obtain ⟨⟨base,next,advanced⟩,hloop,rfl⟩ := Option.map_eq_some_iff.mp h
  simp only [herl,hnvr,if_false,hloop]
  cases advanced with
  | true => simp
  | false =>
    simp only [Bool.false_eq_true,if_false]
    split <;> rfl

def UserSubscription.cleared (sub : UserSubscription) (resets : List ℕ) : ℤ :=
  if sub.id∈resets then 0 else sub.amountUsed

lemma UserSubscription.cleared_of_notMem (h : sub.id∉resets) : sub.cleared resets=sub.amountUsed := if_neg h

lemma mem_loopResets {candidates : List UserSubscription}
    (h : id∈loopResets loc plans fuel amount now candidates) : id∈candidates.map (·.id) := by
  induction candidates with
  | nil => cases h
  | cons c rest ih =>
    unfold loopResets at h
    split at h
    · cases h
    split at h
    · cases h
    rcases mem_append.mp h with h | h
    · split at h
      · simp [mem_singleton.mp h]
      · cases h
    split at h
    · cases h
    · exact mem_cons_of_mem _ (ih h)

lemma cleared_of_reset (h : maybeReset loc fuel sub plan now=some sub') (hmem : sub.id∉resets) :
    sub.cleared ((if resetsNow loc fuel sub plan now then [sub.id] else [])++resets)=sub'.amountUsed := by
  rw [maybeReset_used h,cleared]
  by_cases hr : resetsNow loc fuel sub plan now=true <;> simp [hr,hmem]

lemma cleared_of_ne {p : Prop} [Decidable p] (h : sub.id≠id) :
    sub.cleared ((if p then [id] else [])++resets)=sub.cleared resets := by
  unfold cleared
  by_cases hp : p <;> simp [hp,h]

/-- What a transaction that resets `resets` and charges row `charged` leaves in row `id`. -/
def Leaves (db db' : SubDB) (resets : List ℕ) (charged : ℕ) (amount : ℤ) (id : ℕ) : Prop :=
  ∀ row', db'.find id=some row' → ∃ row, db.find id=some row ∧ row'.amountTotal=row.amountTotal ∧ if id=charged then
      row'.amountUsed=wrap64 (row.cleared resets+amount) ∧
        (0 < row.amountTotal → amount≤wrap64 (row.amountTotal-row.cleared resets))
    else row'.amountUsed=row.cleared resets

lemma leaves_charge (hsub : maybeReset loc fuel c plan now=some sub)
    (hfind : db.find c.id=some c) (hfits : sub.Fits amount)
    (hsubs : db'.subs=((db.save sub).save (sub.charge amount)).subs) (id : ℕ) :
    Leaves db db' (if resetsNow loc fuel c plan now then [c.id] else []) sub.id amount id := by
  intro row' hrow'
  obtain ⟨hid,htl,-⟩ := maybeReset_spec hsub
  have hsave : ((db.save sub).save (sub.charge amount)).find id=some row' := by rw [← hrow',SubDB.find,SubDB.find,hsubs]
  rw [find_save,find_save] at hsave
  by_cases hidc : id=c.id
  · subst hidc
    have hcle := cleared_of_reset hsub (not_mem_nil (a := c.id))
    rw [append_nil] at hcle
    rw [if_pos (c := c.id=(sub.charge amount).id) hid.symm] at hsave
    obtain ⟨_,-,rfl⟩ := Option.map_eq_some_iff.mp hsave
    refine ⟨c,hfind,htl,?_⟩
    rw [if_pos hid.symm,hcle,← htl]
    refine ⟨rfl,fun hlim => ?_⟩
    unfold UserSubscription.Fits at hfits
    omega
  · have hne : id≠sub.id := fun he => hidc (he.trans hid)
    rw [if_neg (c := id=(sub.charge amount).id) hne,if_neg hne] at hsave
    have hkey : row'.id≠c.id := fun he => hidc ((key_of_lookup hsave).symm.trans he)
    have hcle : row'.cleared ((if resetsNow loc fuel c plan now then [c.id] else [])++[])=row'.cleared [] :=
      cleared_of_ne hkey
    rw [append_nil] at hcle
    refine ⟨row',hsave,rfl,?_⟩
    rw [if_neg hne,hcle]
    rfl

lemma leaves_skip {charged : ℕ} (hsub : maybeReset loc fuel c plan now=some sub)
    (hfind : db.find c.id=some c) (hmem : c.id∉resets) (h : Leaves (db.save sub) db' resets charged amount id) :
    Leaves db db' ((if resetsNow loc fuel c plan now then [c.id] else [])++resets) charged amount id := by
  intro row' hrow'
  obtain ⟨hid,htl,-⟩ := maybeReset_spec hsub
  obtain ⟨row,hrow,htot',hused⟩ := h row' hrow'
  by_cases hidc : id=c.id
  · subst hidc
    rw [find_save_self hfind sub hid] at hrow
    cases hrow
    refine ⟨c,hfind,htot'.trans htl,?_⟩
    rw [cleared_of_reset hsub hmem,← htl]
    rwa [cleared_of_notMem (hid.symm ▸ hmem)] at hused
  rw [find_save,if_neg fun he => hidc (he.trans hid)] at hrow
  have hkey : row.id≠c.id := fun he => hidc ((key_of_lookup hrow).symm.trans he)
  refine ⟨row,hrow,htot',?_⟩
  rw [cleared_of_ne hkey]
  exact hused

lemma preConsumeLoop_leaves {userId : ℕ} {candidates : List UserSubscription}
    (h : preConsumeLoop loc plans fuel requestId userId amount now candidates db=some (.ok (res,db')))
    (hndp : (candidates.map (·.id)).Nodup) (hfind : ∀ c∈candidates, db.find c.id=some c) (id : ℕ) :
    Leaves db db' (loopResets loc plans fuel amount now candidates) res.userSubscriptionId amount id := by
  induction candidates generalizing db with
  | nil => cases h
  | cons c rest ih =>
    rw [map_cons,nodup_cons] at hndp
    obtain ⟨hc,hndp⟩ := hndp
    have hcfn := hfind c (by simp)
    unfold preConsumeLoop at h
    unfold loopResets
    split at h
    · cases h
    next plan hplan =>
    obtain ⟨sub,hsub,h⟩ := Option.bind_eq_some_iff.mp h
    simp only at h
    simp only [hplan,hsub]
    split at h
    next hfits =>
      cases h
      simp only [hfits,if_true,append_nil]
      exact leaves_charge hsub hcfn hfits rfl id
    next hfits =>
    simp only [hfits,if_false]
    refine leaves_skip hsub hcfn (fun hm => hc (mem_loopResets hm)) (ih h hndp fun c' hc' => ?_)
    -- the other candidates are still as they were read
    have hne : c'.id≠sub.id := fun he => hc (mem_map.mpr ⟨c',hc',he.trans (maybeReset_spec hsub).1⟩)
    rw [find_save,if_neg hne]
    exact hfind c' (mem_cons_of_mem _ hc')

def SubDB.SameKeys (db db' : SubDB) : Prop :=
  db'.subs.map (·.id)=db.subs.map (·.id) ∧ db'.nextId=db.nextId

lemma SubDB.SameKeys.trans {db'' : SubDB} (h : db.SameKeys db') (h' : db'.SameKeys db'') : db.SameKeys db'' :=
  ⟨h'.1.trans h.1,h'.2.trans h.2⟩

lemma SubDB.sameKeys_save (db : SubDB) (sub : UserSubscription) : db.SameKeys (db.save sub) :=
  ⟨Table.map_key_replace sub db.subs,rfl⟩

structure SubDB.Distinct (db : SubDB) : Prop where
  nodup : (db.subs.map (·.id)).Nodup
  below : ∀ id∈db.subs.map (·.id), 0 < id ∧ id<db.nextId
  next_pos : 0<db.nextId

namespace SubDB.Distinct

section
variable (h : db.Distinct)
include h
lemma find (hsub : sub∈db.subs) : db.find sub.id=some sub :=
  Table.lookup_of_mem h.nodup hsub

lemma congr (hkeys : db.SameKeys db') : db'.Distinct := by
  obtain ⟨hids,hnext⟩ := hkeys
  constructor
  · rw [hids]
    exact h.nodup
  · rw [hids,hnext]
    exact h.below
  · rw [hnext]
    exact h.next_pos

lemma insert (hid : sub.id=db.nextId) :
    ({ db with subs := db.subs++[sub], nextId := db.nextId+1 } : SubDB).Distinct := by
  constructor
  · simp only [map_append,map_cons,map_nil]
    refine nodup_append.mpr ⟨h.nodup,by simp,?_⟩
    intro a ha b hb
    have := (h.below a ha).2
    rw [mem_singleton.mp hb,hid]
    omega
  · intro id hmem
    simp only [map_append,map_cons,map_nil,mem_append,mem_singleton] at hmem
    rcases hmem with hmem | rfl
    · have := h.below id hmem
      exact ⟨this.1,Nat.lt_succ_of_lt this.2⟩
    · rw [hid]
      exact ⟨h.next_pos,Nat.lt_succ_self _⟩
  · exact Nat.succ_pos _

lemma filter (kept : UserSubscription → Bool) : ({ db with subs := db.subs.filter kept } : SubDB).Distinct := by
  have hsub := List.Sublist.map (·.id) (filter_sublist (p := kept) (l := db.subs))
  exact ⟨h.nodup.sublist hsub,fun id hid => h.below id (hsub.subset hid),h.next_pos⟩

omit h in
lemma find_insert {row : UserSubscription} (hid : sub.id=db.nextId) {id : ℕ}
    (hrow : ({ db with subs := db.subs++[sub], nextId := db.nextId+1 } : SubDB).find id=some row) :
    db.find id=some row ∨ id=db.nextId ∧ row=sub := by
  rw [SubDB.find,Table.lookup_append] at hrow
  cases hold : Table.lookup (·.id) id db.subs with
  | some old =>
    rw [hold] at hrow
    exact .inl (hold.trans hrow)
  | none =>
    rw [hold,Option.none_or] at hrow
    have hmem := Table.mem_of_lookup hrow
    have hkey : row.id=id := key_of_lookup hrow
    rw [mem_singleton.mp hmem] at hkey
    exact .inr ⟨hkey.symm.trans hid,mem_singleton.mp hmem⟩

lemma candidates (userId : ℕ) (now : ℤ) : ((db.candidates userId now).map (·.id)).Nodup := by
  have hperm := mergeSort_perm (db.subs.filter fun s => s.userId=userId ∧ s.status=.active ∧ now<s.endTime)
    fun a b => decide (a.endTime<b.endTime) || (decide (a.endTime=b.endTime) && decide (a.id≤b.id))
  refine ((hperm.map _).nodup_iff).mpr (h.nodup.sublist ?_)
  exact filter_sublist.map _
end
end SubDB.Distinct

lemma preConsumeLoop_sameKeys {candidates : List UserSubscription}
    (h : preConsumeLoop loc plans fuel requestId userId amount now candidates db=some (.ok (res,db'))) :
    db.SameKeys db' := by
  induction candidates generalizing db with
  | nil => cases h
  | cons c rest ih =>
    unfold preConsumeLoop at h
    split at h
    · cases h
    obtain ⟨sub,-,h⟩ := Option.bind_eq_some_iff.mp h
    simp only at h
    split at h
    · cases h
      exact (db.sameKeys_save sub).trans ((db.save sub).sameKeys_save (sub.charge amount))
    · exact (db.sameKeys_save sub).trans (ih h)

lemma preConsume_leaves
    (h : preConsumeUserSubscription loc plans fuel db requestId userId amount now=some (.ok res,db'))
    (hd : db.Distinct) (hnew : db.findRecord requestId=none) :
    db.SameKeys db' ∧ ∀ id, Leaves db db' (preConsumeResets loc plans fuel db requestId userId amount now)
      res.userSubscriptionId amount id := by
  have hloop : preConsumeLoop loc plans fuel requestId userId amount now (db.candidates userId now) db =
      some (.ok (res,db')) := by
    unfold preConsumeUserSubscription at h
    split at h
    · cases h
    split at h
    · cases h
    split at h
    · cases h
    obtain ⟨out,htx,hout⟩ := Option.map_eq_some_iff.mp h
    unfold preConsumeTx at htx
    rw [hnew] at htx
    simp only at htx
    split at htx
    · cases htx
      cases hout
    cases out with
    | error e => cases hout
    | ok r =>
      cases hout
      exact htx
  refine ⟨preConsumeLoop_sameKeys hloop,fun id => ?_⟩
  rw [preConsumeResets,hnew]
  exact preConsumeLoop_leaves hloop (hd.candidates userId now)
    (fun c hc => hd.find (mem_candidates.mp hc).1) id

/-- What a sweep that resets `resets` leaves in row `id`. -/
def Clears (db db' : SubDB) (resets : List ℕ) (id : ℕ) : Prop :=
  ∀ row', db'.find id=some row' → ∃ row, db.find id=some row ∧ row'.amountTotal=row.amountTotal ∧
    row'.amountUsed=row.cleared resets

lemma Clears.of_eq (h : db'=db) (id : ℕ) : Clears db db' [] id := by
  subst h
  intro row hrow
  exact ⟨row,hrow,rfl,rfl⟩

lemma Clears.append {db'' : SubDB} {resets' : List ℕ} (h : Clears db db' resets id)
    (h' : Clears db' db'' resets' id) : Clears db db'' (resets++resets') id := by
  intro row'' hrw''
  obtain ⟨row',hrow',htot',husd'⟩ := h' row'' hrw''
  obtain ⟨row,hrow,htl,hused⟩ := h row' hrow'
  refine ⟨row,hrow,htot'.trans htl,?_⟩
  have hid : row.id=id := key_of_lookup hrow
  have hid' : row'.id=id := key_of_lookup hrow'
  rw [husd',cleared,hused,cleared,cleared,hid,hid']
  by_cases h₁ : id∈resets <;> by_cases h₂ : id∈resets' <;> simp [h₁,h₂]

lemma resetDueOne_clears (h : resetDueOne loc plans fuel now db sub=some db')
    (id : ℕ) : Clears db db' (oneResets loc plans fuel now db sub) id := by
  unfold resetDueOne at h
  unfold oneResets
  split at h
  next e hplan =>
    simp only [hplan]
    exact .of_eq (Option.some.inj h).symm id
  next plan hplan =>
  split at h
  next hnone =>
    simp only [hplan,hnone]
    exact .of_eq (Option.some.inj h).symm id
  next locked hlock =>
  simp only [hplan,hlock]
  split at h
  next hdue =>
    obtain ⟨sub',hrst,rfl⟩ := Option.map_eq_some_iff.mp h
    obtain ⟨hid,htl,-⟩ := maybeReset_spec hrst
    have hkey : locked.id=sub.id := key_of_lookup hlock
    intro row' hrow'
    rw [find_save] at hrow'
    by_cases hrow : id=sub.id
    · subst hrow
      rw [if_pos (hkey.symm.trans hid.symm),hlock] at hrow'
      cases hrow'
      refine ⟨locked,hlock,htl,?_⟩
      rw [maybeReset_used hrst,cleared,hkey]
      by_cases hr : resetsNow loc fuel locked plan now=true <;> simp [hr,hdue]
    rw [if_neg fun he => hrow (he.trans (hid.trans hkey))] at hrow'
    refine ⟨row',hrow',rfl,?_⟩
    have hne : row'.id≠sub.id := fun he => hrow ((key_of_lookup hrow').symm.trans he)
    unfold cleared
    split <;> simp [hne]
  next hdue =>
  simp only [hdue,false_and,if_false]
  exact .of_eq (Option.some.inj h).symm id

lemma resetDueOne_sameKeys (h : resetDueOne loc plans fuel now db sub=some db') : db.SameKeys db' := by
  unfold resetDueOne at h
  split at h
  · exact Option.some.inj h ▸ ⟨rfl,rfl⟩
  split at h
  · exact Option.some.inj h ▸ ⟨rfl,rfl⟩
  split at h
  · obtain ⟨sub',-,rfl⟩ := Option.map_eq_some_iff.mp h
    exact db.sameKeys_save sub'
  · exact Option.some.inj h ▸ ⟨rfl,rfl⟩

lemma resetDue_clears {due : List UserSubscription} (h : due.foldlM (resetDueOne loc plans fuel now) db=some db') :
    db.SameKeys db' ∧ ∀ id, Clears db db' (dueResets loc plans fuel now due db) id := by
  induction due generalizing db with
  | nil =>
    cases h
    exact ⟨⟨rfl,rfl⟩,.of_eq rfl⟩
  | cons sub due ih =>
    rw [foldlM_cons] at h
    obtain ⟨db₁,hone,hrest⟩ := Option.bind_eq_some_iff.mp h
    obtain ⟨hkeys,hcle⟩ := ih hrest
    refine ⟨(resetDueOne_sameKeys hone).trans hkeys,fun id => ?_⟩
    rw [dueResets,hone]
    exact (resetDueOne_clears hone id).append (hcle id)

/-- What a delta leaves in a limited row whose counter is in range: the new counter if it is within the
limit, else the old one. Other rows are not touched. -/
lemma applied_row {j : ℕ} {delta : ℤ} {row' : UserSubscription} (hid : id≠0)
    (hrow' : ((postConsumeUserSubscriptionDelta db id delta).toOption.getD db).find j=some row') :
    ∃ row, db.find j=some row ∧ row'.amountTotal=row.amountTotal ∧
      (0 < row.amountTotal → 0 ≤ row.amountUsed → row.amountUsed<2^63 →
        row'.amountUsed=if j=id ∧ row.newUsed delta ≤ row.amountTotal then row.newUsed delta else row.amountUsed) := by
  cases hpost : postConsumeUserSubscriptionDelta db id delta with
  | error e =>
    rw [hpost] at hrow'
    change db.find j=some row' at hrow'
    refine ⟨row',hrow',rfl,fun hlim hlo hhi => ?_⟩
    rw [if_neg]
    rintro ⟨rfl,hle⟩
    have hdlt : delta≠0 := by
      rintro rfl
      simp [postConsumeUserSubscriptionDelta,hid] at hpost
    rw [postConsume_of_le hrow' hid hdlt fun _ => hle] at hpost
    cases hpost
  | ok db' =>
    rw [hpost] at hrow'
    change db'.find j=some row' at hrow'
    rcases postConsume_cases hpost with ⟨rfl,rfl⟩ | ⟨sub,hsub,rfl,hle⟩
    · refine ⟨row',hrow',rfl,fun _ hlo hhi => ?_⟩
      have hnew : row'.newUsed 0=row'.amountUsed := by
        rw [newUsed_eq (by omega) (by omega)]
        omega
      rw [hnew,ite_self]
    have hkey : sub.id=id := key_of_lookup hsub
    rw [find_save] at hrow'
    by_cases hj : j=id
    · subst hj
      rw [if_pos hkey.symm,hsub] at hrow'
      cases hrow'
      exact ⟨sub,hsub,rfl,fun hlim _ _ => (if_pos ⟨rfl,hle hlim⟩).symm⟩
    · rw [if_neg fun he => hj (he.trans hkey)] at hrow'
      exact ⟨row',hrow',rfl,fun _ _ _ => (if_neg fun h => hj h.1).symm⟩

lemma postConsume_sameKeys {delta : ℤ} :
    db.SameKeys ((postConsumeUserSubscriptionDelta db id delta).toOption.getD db) := by
  cases hpost : postConsumeUserSubscriptionDelta db id delta with
  | error e => exact ⟨rfl,rfl⟩
  | ok db' =>
    rcases postConsume_cases hpost with ⟨-,rfl⟩ | ⟨sub,-,rfl,-⟩
    · exact ⟨rfl,rfl⟩
    · exact db.sameKeys_save _
end AronaApi.Subscription
