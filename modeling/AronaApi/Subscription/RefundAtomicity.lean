import AronaApi.Lib.Interleave
import AronaApi.Subscription.Usage

/-! `SubscriptionFunding.Refund` under database failures. The refund runs in one transaction and the
decrease of the counter in another, on a handle of its own, so the two commit separately. -/
namespace AronaApi.Subscription
open GoStd SubDB PreConsumeRecord

/-- How a commit ends. A lost one has taken effect although the client is told that it failed. -/
inductive Commit
  | done | failed | lost
  deriving DecidableEq

/-- The failures during one attempt. A failing `BEGIN` ends a transaction as a failing `SELECT` does. -/
structure Faults where
  selectRecord : Bool
  selectSub : Bool
  saveSub : Bool
  commitSub : Commit
  saveRecord : Bool
  commitRecord : Commit
  deriving DecidableEq

inductive RefundError
  | database
  | model (e : SubError)

structure RefundState where
  db : SubDB
  decreases : ℕ

def Commit.finish (c : Commit) (s s' : RefundState) : Except RefundError Unit × RefundState :=
  match c with
  | .done => (.ok (),s')
  | .failed => (.error .database,s)
  | .lost => (.error .database,s')

/-- `PostConsumeUserSubscriptionDelta` as the refund calls it, in a transaction of `DB`. -/
def decreaseAttempt (f : Faults) (id : ℕ) (delta : ℤ) (s : RefundState) :
    Except RefundError Unit × RefundState :=
  if id=0 then (.error (.model .invalidSubscriptionId),s)
  else if delta=0 then (.ok (),s)
  else if f.selectSub then (.error .database,s)
  else match postConsumeUserSubscriptionDelta s.db id delta with
    | .error e => (.error (.model e),s)
    | .ok db =>
      if f.saveSub then (.error .database,s) else f.commitSub.finish s ⟨db,s.decreases+1⟩

/-- `RefundSubscriptionPreConsume`; the record is saved and committed in the outer transaction. -/
def refundAttempt (requestId : String) (f : Faults) (s : RefundState) : Except RefundError Unit × RefundState :=
  if trimSpace requestId = "" then (.error (.model .requestIdEmpty),s)
  else if f.selectRecord then (.error .database,s)
  else match s.db.findRecord requestId with
    | none => (.error (.model .recordNotFound),s)
    | some record =>
      let mark (s : RefundState) :=
        if f.saveRecord then (.error .database,s)
        else f.commitRecord.finish s { s with db := s.db.saveRecord { record with status := .refunded } }
      if record.status=.refunded then f.commitRecord.finish s s
      else if record.preConsumed≤0 then mark s
      else match decreaseAttempt f record.userSubscriptionId (wrap64 (-record.preConsumed)) s with
        | (.error e,s) => (.error e,s)
        | (.ok _,s) => mark s

/-- `refundWithRetry`, given the failures of the attempts it may make. -/
def refundWithRetry {σ ε : Type} (fn : Faults → σ → Except ε Unit × σ) :
    List Faults → Except ε Unit → σ → Except ε Unit × σ
  | [],lastErr,s => (lastErr,s)
  | f::fs,_,s =>
    match fn f s with
    | (.ok _,s) => (.ok (),s)
    | (.error e,s) => refundWithRetry fn fs (.error e) s

/-- `SubscriptionFunding.Refund`, with at most three attempts. -/
def SubscriptionFunding.refund (funding : SubscriptionFunding) (faults : Fin 3 → Faults) (db : SubDB) :
    Except RefundError Unit × RefundState :=
  if funding.preConsumed≤0 then (.ok (),⟨db,0⟩)
  else refundWithRetry (refundAttempt funding.requestId) [faults 0,faults 1,faults 2] (.ok ()) ⟨db,0⟩

def Faults.Decreases (f : Faults) : Prop :=
  f.selectRecord=false ∧ f.selectSub=false ∧ f.saveSub=false ∧ f.commitSub≠.failed

instance (f : Faults) : Decidable f.Decreases := inferInstanceAs (Decidable (_ ∧ _))

/-- The failures let the new status of the record be committed after the decrease. -/
def Faults.Marks (f : Faults) : Prop :=
  f.commitSub=.done ∧ f.saveRecord=false ∧ f.commitRecord≠.failed

instance (f : Faults) : Decidable f.Marks := inferInstanceAs (Decidable (_ ∧ _))

def SubDB.recordStatus (db : SubDB) (requestId : String) : Option RecordStatus :=
  (db.findRecord requestId).map (·.status)

variable {requestId : String} {record : PreConsumeRecord} {f : Faults} {s : RefundState} {db db' : SubDB}
lemma recordStatus_mark (h : db.findRecord requestId=some record) :
    (db.saveRecord { record with status := .refunded }).recordStatus requestId=some .refunded := by
  have hkey : record.requestId=requestId := Table.key_of_lookup h
  rw [recordStatus,findRecord_saveRecord]
  simp [hkey,h]

lemma refundAttempt_of_refunded (h : s.db.recordStatus requestId=some .refunded) :
    (refundAttempt requestId f s).2=s := by
  obtain ⟨record,hrec,hstatus⟩ := Option.map_eq_some_iff.mp h
  unfold refundAttempt
  split
  · rfl
  split
  · rfl
  rw [hrec]
  simp only [hstatus,if_true]
  cases f.commitRecord <;> rfl

def PreConsumeRecord.decrease (record : PreConsumeRecord) (db : SubDB) : Except SubError SubDB :=
  postConsumeUserSubscriptionDelta db record.userSubscriptionId (wrap64 (-record.preConsumed))

def PreConsumeRecord.Refundable (record : PreConsumeRecord) (db : SubDB) : Prop :=
  trimSpace record.requestId ≠ "" ∧ (record.decrease db).isOk=true

lemma decreaseAttempt_cases {id : ℕ} {delta : ℤ} (hdlt : delta≠0) :
    ((∃ e, decreaseAttempt f id delta s=(.error e,s)) ∧ ¬(f.selectSub=false ∧ f.saveSub=false ∧ f.commitSub≠.failed ∧
          (postConsumeUserSubscriptionDelta s.db id delta).isOk=true)) ∨
      ∃ db, postConsumeUserSubscriptionDelta s.db id delta=.ok db ∧
        f.selectSub=false ∧ f.saveSub=false ∧ f.commitSub≠.failed ∧
        decreaseAttempt f id delta s = (if f.commitSub=.done then .ok () else .error .database,⟨db,s.decreases+1⟩) := by
  unfold decreaseAttempt
  by_cases hid : id=0
  · exact .inl ⟨⟨_,if_pos hid⟩,by simp [postConsumeUserSubscriptionDelta,hid,Except.isOk,Except.toBool]⟩
  rw [if_neg hid,if_neg hdlt]
  cases hselect : f.selectSub with
  | true => exact .inl ⟨⟨_,rfl⟩,by simp⟩
  | false =>
    cases hpost : postConsumeUserSubscriptionDelta s.db id delta with
    | error e => exact .inl ⟨⟨_,rfl⟩,by simp [Except.isOk,Except.toBool]⟩
    | ok db =>
      cases hsave : f.saveSub with
      | true => exact .inl ⟨⟨_,rfl⟩,by simp⟩
      | false =>
        cases hcommit : f.commitSub with
        | done => exact .inr ⟨db,rfl,rfl,rfl,by simp,rfl⟩
        | failed => exact .inl ⟨⟨_,rfl⟩,by simp⟩
        | lost => exact .inr ⟨db,rfl,rfl,rfl,by simp,rfl⟩

lemma refundAttempt_cases (hrec : s.db.findRecord requestId=some record)
    (hcons : record.status=.consumed) (hpos : 0 < record.preConsumed) (hrng : record.preConsumed<2^63) :
    (¬(f.Decreases ∧ record.Refundable s.db) ∧ ∃ e, refundAttempt requestId f s=(.error e,s)) ∨
      (f.Decreases ∧ record.Refundable s.db ∧ ∃ db, record.decrease s.db=.ok db ∧
        ((¬f.Marks ∧ ∃ e, refundAttempt requestId f s=(.error e,⟨db,s.decreases+1⟩)) ∨
          f.Marks ∧ ∃ r, refundAttempt requestId f s =
            (r,⟨db.saveRecord { record with status := .refunded },s.decreases+1⟩))) := by
  have hkey : record.requestId=requestId := Table.key_of_lookup hrec
  have hdlt : wrap64 (-record.preConsumed)≠0 := by
    rw [wrap64_of_bounds (by omega) (by omega)]
    omega
  unfold refundAttempt
  by_cases hid : trimSpace requestId = ""
  · exact .inl ⟨fun h => h.2.1 (hkey ▸ hid),_,if_pos hid⟩
  rw [if_neg hid,hrec]
  cases hsel : f.selectRecord with
  | true => exact .inl ⟨fun h => by simp [h.1.1] at hsel,_,rfl⟩
  | false =>
    simp only [hcons,reduceCtorEq,Bool.false_eq_true,if_false,Int.not_le.mpr hpos]
    rcases decreaseAttempt_cases hdlt with ⟨⟨e,he⟩,hnot⟩ | ⟨db,hpost,hsub,hsave,hcommit,hatt⟩
    · rw [he]
      exact .inl ⟨fun h => hnot ⟨h.1.2.1,h.1.2.2.1,h.1.2.2.2,h.2.2⟩,e,rfl⟩
    refine .inr ⟨⟨hsel,hsub,hsave,hcommit⟩,⟨hkey ▸ hid,?_⟩,db,hpost,?_⟩
    · rw [decrease,hpost]
      rfl
    · rw [hatt]
      cases hdone : f.commitSub with
      | failed => exact absurd hdone hcommit
      | lost => exact .inl ⟨fun h => by simp [h.1] at hdone,_,rfl⟩
      | done =>
        cases hmark : f.saveRecord with
        | true => exact .inl ⟨fun h => by simp [h.2.1] at hmark,_,rfl⟩
        | false =>
          cases hend : f.commitRecord with
          | failed => exact .inl ⟨fun h => h.2.2 hend,_,rfl⟩
          | done | lost => exact .inr ⟨⟨hdone,hmark,by simp [hend]⟩,_,rfl⟩

variable {σ ε : Type} {fn : Faults → σ → Except ε Unit × σ}
lemma retry_cons_error {s t : σ} {e : ε} (h : fn f s=(.error e,t)) (fs : List Faults) (lastErr : Except ε Unit) :
    refundWithRetry fn (f::fs) lastErr s=refundWithRetry fn fs (.error e) t := by rw [refundWithRetry,h]

lemma retry_cons_ok {s t : σ} (h : fn f s=(.ok (),t)) (fs : List Faults) (lastErr : Except ε Unit) :
    refundWithRetry fn (f::fs) lastErr s=(.ok (),t) := by rw [refundWithRetry,h]

lemma retry_of_refunded (h : s.db.recordStatus requestId=some .refunded) (fs : List Faults)
    (lastErr : Except RefundError Unit) : (refundWithRetry (refundAttempt requestId) fs lastErr s).2=s := by
  induction fs generalizing lastErr with
  | nil => rfl
  | cons f fs ih =>
    have hsame := refundAttempt_of_refunded (f := f) h
    rcases hattempt : refundAttempt requestId f s with ⟨r,t⟩
    rw [hattempt] at hsame
    subst hsame
    cases r with
    | ok _ => rw [retry_cons_ok hattempt]
    | error e => rw [retry_cons_error hattempt,ih]

lemma retry_of_marks {r : Except RefundError Unit} {t : RefundState}
    (hr : refundAttempt requestId f s=(r,t)) (hmark : t.db.recordStatus requestId=some .refunded)
    (fs : List Faults) (lastErr : Except RefundError Unit) :
    (refundWithRetry (refundAttempt requestId) (f::fs) lastErr s).2=t := by
  cases r with
  | ok _ => rw [retry_cons_ok hr]
  | error e => rw [retry_cons_error hr,retry_of_refunded hmark]

lemma findRecord_decrease (h : record.decrease db=.ok db')
    (hrec : db.findRecord requestId=some record) : db'.findRecord requestId=some record := by
  rw [← hrec,findRecord,findRecord,(postConsumeUserSubscriptionDelta_spec h).1]

def PreConsumeRecord.decreased (record : PreConsumeRecord) (db : SubDB) : SubDB :=
  (record.decrease db).toOption.getD db

lemma decreased_of_ok (h : record.decrease db=.ok db') : record.decreased db=db' := by
  rw [decreased,h]
  rfl

lemma retry_counts (hrec : s.db.findRecord requestId=some record)
    (hcons : record.status=.consumed) (hpos : 0 < record.preConsumed)
    (hrng : record.preConsumed<2^63) (fs : List Faults) (lastErr : Except RefundError Unit) :
    let t := (refundWithRetry (refundAttempt requestId) fs lastErr s).2
    ∃ n, t.decreases=s.decreases+n ∧ t.db.subs=(record.decreased^[n] s.db).subs ∧
      (t.db.recordStatus requestId=some .refunded → 0<n) := by
  induction fs generalizing s lastErr with
  | nil =>
    refine ⟨0,rfl,rfl,fun h => ?_⟩
    simp [refundWithRetry,recordStatus,hrec,hcons] at h
  | cons f fs ih =>
    rcases refundAttempt_cases (f := f) hrec hcons hpos hrng with ⟨-,e,he⟩ |
        ⟨-,-,db,hdb,⟨-,e,he⟩ | ⟨-,r,hr⟩⟩
    · rw [retry_cons_error he]
      exact ih hrec _
    · obtain ⟨n,hn,hsubs,-⟩ := ih (s := ⟨db,s.decreases+1⟩) (findRecord_decrease hdb hrec) (.error e)
      rw [retry_cons_error he]
      refine ⟨n+1,?_,?_,fun _ => n.succ_pos⟩
      · rw [hn]
        simp only
        omega
      · rw [hsubs,Function.iterate_succ_apply,decreased_of_ok hdb]
    · rw [retry_of_marks hr (recordStatus_mark (findRecord_decrease hdb hrec))]
      refine ⟨1,rfl,?_,fun _ => Nat.one_pos⟩
      rw [Function.iterate_one,decreased_of_ok hdb]
      rfl

/-- The refund took effect at most once, and the record says so exactly when it did. -/
def Atomic (requestId : String) (t : RefundState) : Prop :=
  t.decreases≤1 ∧ (t.db.recordStatus requestId=some .refunded ↔ t.decreases=1)

def FirstMarks (fs : List Faults) : Prop :=
  ∀ f, fs.find? (fun f => f.Decreases)=some f → f.Marks

lemma retry_atomic_iff (hrec : s.db.findRecord requestId=some record)
    (hcons : record.status=.consumed) (hpos : 0 < record.preConsumed)
    (hrng : record.preConsumed<2^63) (hstr : s.decreases=0) (fs : List Faults) (lastErr : Except RefundError Unit) :
    Atomic requestId (refundWithRetry (refundAttempt requestId) fs lastErr s).2 ↔
      (record.Refundable s.db → FirstMarks fs) := by
  induction fs generalizing lastErr with
  | nil => simp [refundWithRetry,Atomic,FirstMarks,recordStatus,hrec,hcons,hstr]
  | cons f fs ih =>
    rcases refundAttempt_cases (f := f) hrec hcons hpos hrng with ⟨hnot,e,he⟩ |
        ⟨hdec,hable,db,hdb,⟨hmrk,e,he⟩ | ⟨hmrk,r,hr⟩⟩
    · rw [retry_cons_error he,ih]
      refine forall_congr' fun hable => ?_
      have hdec : ¬f.Decreases := fun h => hnot ⟨h,hable⟩
      simp [FirstMarks,hdec]
    · obtain ⟨n,hn,-,hgt⟩ := retry_counts (s := ⟨db,s.decreases+1⟩) (findRecord_decrease hdb hrec) hcons
        hpos hrng fs (.error e)
      rw [retry_cons_error he]
      refine iff_of_false ?_ fun h => hmrk (h hable f (by simp [hdec]))
      rintro ⟨hle,hiff⟩
      have htwo := hgt (hiff.mpr (by simp only at hn; omega))
      simp only at hn
      omega
    · have hmark := recordStatus_mark (findRecord_decrease hdb hrec)
      rw [retry_of_marks hr hmark]
      refine iff_of_true ⟨by simp [hstr],by simp [hmark,hstr]⟩ fun _ g hg => ?_
      simp only [List.find?_cons,hdec,decide_true,Option.some.injEq] at hg
      exact hg ▸ hmrk

/-- A refund applies its committed decreases to the rows and nothing else. It is atomic under failures
and retries exactly when the first attempt whose decrease commits also marks the record. -/
theorem refund_atomic_iff_firstMarks {db : SubDB} {funding : SubscriptionFunding}
    (hrecord : db.findRecord funding.requestId=some record) (hconsumed : record.status=.consumed)
    (hfunding : funding.preConsumed=record.preConsumed) (hrange : record.preConsumed<2^63)
    (faults : Fin 3 → Faults) :
    let t := (funding.refund faults db).2
    t.db.subs=(record.decreased^[t.decreases] db).subs ∧ (Atomic funding.requestId t ↔
        (0 < record.preConsumed → record.Refundable db → FirstMarks [faults 0,faults 1,faults 2])) := by
  unfold SubscriptionFunding.refund
  rw [hfunding]
  by_cases hpos : 0 < record.preConsumed
  · obtain ⟨n,hn,hsubs,-⟩ := retry_counts (s := ⟨db,0⟩) hrecord hconsumed hpos hrange
      [faults 0,faults 1,faults 2] (.ok ())
    rw [if_neg (Int.not_le.mpr hpos)]
    refine ⟨?_,?_⟩
    · rw [hn,hsubs,Nat.zero_add]
    · rw [retry_atomic_iff hrecord hconsumed hpos hrange rfl]
      simp only [hpos,true_imp_iff]
  · rw [if_pos (Int.not_lt.mp hpos)]
    simp [Atomic,recordStatus,hrecord,hconsumed,hpos]

def boughtSub : UserSubscription where
  id := 1
  userId := 1
  planId := 1
  amountTotal := 500
  amountUsed := 100
  startTime := 0
  endTime := 3600
  status := .active
  source := "order"

def consumedDB : SubDB := ⟨[boughtSub],[⟨"request",1,1,30,.consumed⟩],2⟩

def requestFunding : SubscriptionFunding := ⟨"request",1,30,1,30,500,100⟩

def noFaults : Faults := ⟨false,false,false,.done,false,.done⟩

/-- The first attempt fails before the decrease; the second one succeeds. -/
theorem secondAttempt_refunds_once :
    Atomic "request" (requestFunding.refund
      (fun i => if i=0 then { noFaults with saveSub := true } else noFaults) consumedDB).2 := by
  have hrec : consumedDB.findRecord requestFunding.requestId=some ⟨"request",1,1,30,.consumed⟩ := by decide
  refine ((refund_atomic_iff_firstMarks hrec rfl rfl (by decide) _).2).mpr fun _ _ f hf => ?_
  have hfind : some f=some noFaults := by rw [← hf]; decide
  cases hfind
  decide

/-- The save of the record fails in the first attempt, after its decrease was committed; the retry
decreases the counter again. -/
theorem failedSave_refunds_twice :
    let t := (requestFunding.refund
      (fun i => if i=0 then { noFaults with saveRecord := true } else noFaults) consumedDB).2
    (t.db.subs.map fun sub => sub.amountUsed)=[40] ∧ t.decreases=2 ∧
      t.db.recordStatus "request" = some .refunded := by decide
end AronaApi.Subscription
