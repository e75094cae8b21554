import AronaApi.Lib.Schedule
import AronaApi.MjProxy.Submit

/-! Refunds of Midjourney tasks against their charges, over any sequence of submissions and passes. A pass gives
the stored quota to the user; that is what was taken if the row was charged to the wallet alone. -/
namespace AronaApi.MjProxy
open Schedule List Function Midjourney MjDB

def MjDB.entries (db : MjDB) (id : ℕ) : List Movement := db.log.filter fun m => decide (m.row=some id)

def totalOf (refund : Bool) (account : Account) (entries : List Movement) : ℤ :=
  ((entries.filter fun m => decide (m.refund=refund ∧ m.account=account)).map (·.amount)).sum

def MjDB.charged (db : MjDB) (id : ℕ) (account : Account) : ℤ := totalOf false account (db.entries id)

def MjDB.refunded (db : MjDB) (id : ℕ) (account : Account) : ℤ := totalOf true account (db.entries id)

def MjDB.refunds (db : MjDB) (id : ℕ) : ℕ := (db.entries id).countP (·.refund)

def Midjourney.EndedInFailure (row : Midjourney) : Prop := row.progress = "100%" ∧ row.status = "FAILURE"

/-- No account gets back more than it paid, there is at most one refund, and a refund, as well as the end in
failure, gives every account what it paid. -/
structure Matched (db : MjDB) (row : Midjourney) : Prop where
  bounded : ∀ account, db.refunded row.id account≤db.charged row.id account
  once : db.refunds row.id≤1
  source : db.refunds row.id≠0 → ∀ account, db.refunded row.id account=db.charged row.id account
  failed : row.EndedInFailure → ∀ account, db.refunded row.id account=db.charged row.id account

def Midjourney.charge (row : Midjourney) : Movement := ⟨some row.id,.user row.userId,false,row.quota⟩

def Midjourney.refund (row : Midjourney) : Movement := ⟨some row.id,.user row.userId,true,row.quota⟩

def MjDB.Unpaid (db : MjDB) (row : Midjourney) : Prop := ∀ m∈db.entries row.id, m.amount=0

def MjDB.PaidByUser (db : MjDB) (row : Midjourney) : Prop := db.entries row.id=[row.charge]

inductive Standing (row : Midjourney) : List Movement → Prop
  | unpaid {entries : List Movement} (nothing : ∀ m∈entries, m.amount=0 ∧ m.refund=false) : Standing row entries
  | unfailed {entries : List Movement} (going : ¬ row.EndedInFailure) (quota : 0 ≤ row.quota)
      (charges : ∀ m∈entries, m.amount=row.quota ∧ m.refund=false) : Standing row entries
  | returned (quota : 0 < row.quota) (done : row.progress = "100%") : Standing row [row.charge,row.refund]

def Reply.list : Reply → List Item
  | .items l => l
  | _ => []

def Reply.Missing : Reply → Prop
  | .missing _ => True
  | _ => False

def MayFail (db : MjDB) (now : ℤ) (item : Item) : Prop :=
  ∀ task∈db.taskM item.dto.mjId, hasFailed (withTimeout now task item.dto)=true → task.quota=0 ∨ db.PaidByUser task

/-- The channels list every task once and refunds work. A listed task only fails if it was free or its user paid
for it; one that is failed without asking was not paid for. -/
structure Pass.Fair (p : Pass) (db : MjDB) : Prop where
  distinct : (((p.visits db).flatMap fun c => (p.reply c).list).map fun item => item.dto.mjId).Nodup
  refunds : ∀ c∈p.visits db, ∀ item∈(p.reply c).list, item.refundFails=false
  listed : ∀ c∈p.visits db, ∀ item∈(p.reply c).list, MayFail db p.now item
  present : ∀ c∈p.visits db, (p.reply c).Missing → ∀ row∈db.rows, row.mjId∈db.taskIds c → db.Unpaid row
  named : ∀ row∈db.unfinished, row.mjId = "" → db.Unpaid row

def Orderly (db : MjDB) : Action → Prop
  | .submit e => ∀ quota∈e.price.toOption, 0≤quota
  | .poll p => p.Fair db

def Midjourney.key (row : Midjourney) : ℕ × ℕ × String × ℤ := (row.id,row.userId,row.mjId,row.quota)

structure Sound (db : MjDB) : Prop where
  nodup : (db.rows.map (·.id)).Nodup
  fresh : ∀ row∈db.rows, row.id<db.nextId
  logged : ∀ m∈db.log, ∀ id∈m.row, id<db.nextId
  standing : ∀ row∈db.rows, Standing row (db.entries row.id)

section
variable {row new : Midjourney} {entries : List Movement}
lemma totalOf_of_zero (h : ∀ m∈entries, m.amount=0) (refund : Bool) (account : Account) :
    totalOf refund account entries=0 := by
  apply sum_eq_zero
  intro amount hamo
  obtain ⟨m,hm,rfl⟩ := mem_map.mp hamo
  exact h m (mem_of_mem_filter hm)

lemma totalOf_refund (h : ∀ m∈entries, m.refund=false) (account : Account) : totalOf true account entries=0 := by
  have hnone : entries.filter (fun m => decide (m.refund=true ∧ m.account=account))=[] := by
    rw [filter_eq_nil_iff]
    intro m hm
    simp [h m hm]
  rw [totalOf,hnone,map_nil,sum_nil]

lemma totalOf_nonneg (h : ∀ m∈entries, 0 ≤ m.amount) (refund : Bool) (account : Account) :
    0≤totalOf refund account entries := by
  apply sum_nonneg
  intro amount hamo
  obtain ⟨m,hm,rfl⟩ := mem_map.mp hamo
  exact h m (mem_of_mem_filter hm)

lemma countP_refund (h : ∀ m∈entries, m.refund=false) : entries.countP (·.refund)=0 := by
  rw [countP_eq_zero]
  intro m hm
  simp [h m hm]

lemma Standing.matched {db : MjDB} (h : Standing row (db.entries row.id)) : Matched db row := by
  generalize hgen : db.entries row.id=entries at h
  cases h with
  | unpaid nothing =>
    have hcnt : db.refunds row.id=0 := by
      rw [refunds,hgen]
      exact countP_refund fun m hm => (nothing m hm).2
    have heq : ∀ account, db.refunded row.id account=db.charged row.id account := by
      intro account
      rw [refunded,charged,hgen,totalOf_of_zero fun m hm => (nothing m hm).1,
        totalOf_of_zero fun m hm => (nothing m hm).1]
    exact ⟨fun account => (heq account).le,by omega,fun _ => heq,fun _ => heq⟩
  | unfailed going quota charges =>
    have hcnt : db.refunds row.id=0 := by
      rw [refunds,hgen]
      exact countP_refund fun m hm => (charges m hm).2
    refine ⟨fun account => ?_,by omega,fun hsome => absurd hcnt hsome,fun hend => absurd hend going⟩
    rw [refunded,charged,hgen,totalOf_refund fun m hm => (charges m hm).2]
    exact totalOf_nonneg (fun m hm => quota.trans_eq (charges m hm).1.symm) _ _
  | returned quota done =>
    have hcnt : db.refunds row.id=1 := by simp [refunds,hgen,charge,refund]
    have heq : ∀ account, db.refunded row.id account=db.charged row.id account := by
      intro account
      by_cases hacc : Account.user row.userId=account
      · simp [refunded,charged,hgen,totalOf,charge,refund,hacc]
      · simp [refunded,charged,hgen,totalOf,charge,refund,hacc]
    exact ⟨fun account => (heq account).le,by omega,fun _ => heq,fun _ => heq⟩

lemma Midjourney.key_eq_iff : new.key=row.key ↔
    new.id=row.id ∧ new.userId=row.userId ∧ new.mjId=row.mjId ∧ new.quota=row.quota := by simp [Midjourney.key]

lemma Standing.fail (h : Standing row entries) (hnone : ∀ m∈entries, m.amount=0) : Standing new entries := by
  cases h with
  | unpaid nothing => exact .unpaid nothing
  | unfailed going quota charges => exact .unpaid fun m hm => ⟨hnone m hm,(charges m hm).2⟩
  | returned quota done =>
    have hzero : row.quota=0 := hnone row.charge mem_cons_self
    omega

lemma Standing.update (item : Item) (failed : Bool) (h : Standing row entries) (hkey : new.key=row.key)
    (hopen : ∀ m∈entries, m.refund=false) (href : item.refundFails=false)
    (hpaid : failed=true → row.quota=0 ∨ entries=[row.charge])
    (hdone : failed=true → new.progress = "100%") (hnot : failed=false → ¬ new.EndedInFailure) :
    Standing new (entries++if failed then refundFor new item else []) := by
  obtain ⟨hid,huser,-,hqt⟩ := key_eq_iff.mp hkey
  cases failed with
  | false =>
    rw [if_neg Bool.false_ne_true,append_nil]
    cases h with
    | unpaid nothing => exact .unpaid nothing
    | unfailed going quota charges => exact .unfailed (hnot rfl) (hqt ▸ quota) (hqt ▸ charges)
    | returned quota done => cases hopen row.refund (mem_cons_of_mem _ mem_cons_self)
  | true =>
    rw [if_pos rfl]
    by_cases hfree : row.quota=0
    · have hnone : refundFor new item=[] := by simp [refundFor,hqt,hfree]
      rw [hnone,append_nil]
      cases h with
      | unpaid nothing => exact .unpaid nothing
      | unfailed going quota charges => exact .unpaid fun m hm => ⟨(charges m hm).1.trans hfree,(charges m hm).2⟩
      | returned quota done => omega
    obtain rfl : entries=[row.charge] := (hpaid rfl).resolve_left hfree
    have hpos : 0 < row.quota := by
      cases h with
      | unpaid nothing => exact absurd (nothing _ mem_cons_self).1 hfree
      | unfailed going quota charges => omega
    have hback : refundFor new item=[new.refund] := by
      rw [← hqt] at hpos
      simp [refundFor,refund,href,hpos.le,hpos.ne']
    have hchar : row.charge=new.charge := by simp [charge,hid,huser,hqt]
    rw [hback,hchar]
    exact .returned (hqt ▸ hpos) (hdone rfl)
end

section
variable {db : MjDB} {row new : Midjourney} {id nextId : ℕ}
lemma Sound.row_unique (h : Sound db) (hrow : row∈db.rows) (hnew : new∈db.rows) (hid : new.id=row.id) :
    new=row := inj_on_of_nodup_map h.nodup hnew hrow hid

lemma Sound.failRows {p : Midjourney → Bool} {reason : Option String} (h : Sound db)
    (hp : ∀ row∈db.rows, p row=true → db.Unpaid row) : Sound (MjProxy.failRows p reason db) := by
  have hids : (MjProxy.failRows p reason db).rows.map (·.id)=db.rows.map (·.id) := by
    rw [MjProxy.failRows,map_map]
    apply map_congr_left
    intro row _
    simp only [comp_apply]
    split <;> rfl
  refine ⟨hids ▸ h.nodup,fun new hnew => ?_,h.logged,fun new hnew => ?_⟩
  · obtain ⟨row,hrow,rfl⟩ := mem_map.mp hnew
    have := h.fresh row hrow
    split <;> exact this
  · obtain ⟨row,hrow,rfl⟩ := mem_map.mp hnew
    split
    next hfail => exact (h.standing row hrow).fail (hp row hrow hfail)
    · exact h.standing row hrow

variable {ms : List Movement}
variable {rows : List Midjourney}
lemma entries_append_of_ne {other : ℕ} (hms : ∀ m∈ms, m.row=some id) (hne : other≠id) :
    entries ⟨rows,nextId,db.log++ms⟩ other=db.entries other := by
  rw [entries,filter_append]
  have hnone : ms.filter (fun m => decide (m.row=some other))=[] := by
    rw [filter_eq_nil_iff]
    intro m hm
    rw [hms m hm]
    simpa using hne.symm
  rw [hnone,append_nil]
  rfl

lemma entries_append_self (hms : ∀ m∈ms, m.row=some id) : entries ⟨rows,nextId,db.log++ms⟩ id=db.entries id++ms := by
  rw [entries,filter_append]
  congr 1
  rw [filter_eq_self]
  intro m hm
  simp [hms m hm]

lemma Sound.replace (h : Sound db) (hrow : row∈db.rows) (hkey : new.key=row.key)
    (hms : ∀ m∈ms, m.row=some new.id) (hnew : Standing new (db.entries row.id++ms)) :
    Sound { db with rows := Table.replace Midjourney.id new db.rows, log := db.log++ms } := by
  obtain ⟨hid,-,-,-⟩ := key_eq_iff.mp hkey
  refine ⟨?_,?_,?_,?_⟩
  · rw [Table.map_key_replace]
    exact h.nodup
  · apply Table.forall_replace h.fresh
    rw [hid]
    exact h.fresh row hrow
  · intro m hm id hsome
    rcases mem_append.mp hm with hold | hnew
    · exact h.logged m hold id hsome
    rw [hms m hnew] at hsome
    cases hsome
    rw [hid]
    exact h.fresh row hrow
  · intro s hs
    obtain ⟨old,hold,rfl⟩ := mem_map.mp hs
    by_cases hsame : old.id=new.id
    · rw [if_pos hsame,entries_append_self hms,hid]
      exact hnew
    · rw [if_neg hsame,entries_append_of_ne hms hsame]
      exact h.standing old hold
end

/-- In the middle of a pass that began with `db₀`: tasks that were not listed yet are as they were. -/
structure PassSound (db₀ : MjDB) (handled : List String) (st : PassState) : Prop where
  sound : Sound st.db
  keys : st.db.rows.map Midjourney.key=db₀.rows.map Midjourney.key
  unlisted : ∀ mjId∉handled, ∀ task, st.taskM mjId=some task →
    db₀.taskM mjId=some task ∧ st.db.entries task.id=db₀.entries task.id
  unpaid : ∀ row∈db₀.rows, db₀.Unpaid row → st.db.Unpaid row

variable {row : Midjourney} {rows : List Midjourney}
lemma Standing.not_refunded {entries : List Movement} (h : Standing row entries)
    (hopen : row.progress ≠ "100%") : ∀ m∈entries, m.refund=false := by
  intro m hm
  cases h with
  | unpaid nothing => exact (nothing m hm).2
  | unfailed going quota charges => exact (charges m hm).2
  | returned quota done => exact absurd done hopen

lemma mem_taskM {db : MjDB} {mjId : String} {task : Midjourney} (h : db.taskM mjId=some task) :
    task∈db.rows ∧ task.progress ≠ "100%" ∧ task.mjId=mjId := by
  have hmem := mem_of_getLast? h
  simp only [live,unfinished,mem_filter,decide_eq_true_eq] at hmem
  exact ⟨hmem.1.1.1,hmem.1.1.2,hmem.2⟩

lemma exists_of_keys {rows' : List Midjourney} (hkeys : rows'.map Midjourney.key =
    rows.map Midjourney.key) (hrow : row∈rows) : ∃ row'∈rows', row'.key=row.key := by
  have hmem : row.key∈rows'.map Midjourney.key := by
    rw [hkeys]
    exact mem_map_of_mem hrow
  exact mem_map.mp hmem

section
variable {db₀ : MjDB} {handled : List String} {st : PassState} {task row new : Midjourney}
lemma PassSound.mono {hand' : List String} (h : PassSound db₀ handled st) (hsub : handled⊆hand') :
    PassSound db₀ hand' st :=
  ⟨h.sound,h.keys,fun mjId hnot => h.unlisted mjId fun hin => hnot (hsub hin),h.unpaid⟩

variable {mjId : String} {item : Item}
lemma PassSound.memory (h : PassSound db₀ handled st) :
    PassSound db₀ (mjId::handled) { st with taskM := update st.taskM mjId (some task) } := by
  refine ⟨h.sound,h.keys,fun other hnot t ht => ?_,h.unpaid⟩
  rw [mem_cons,not_or] at hnot
  simp only [update_of_ne hnot.1] at ht
  exact h.unlisted other hnot.2 t ht

lemma map_key_replace_of_key (hndp : (rows.map (·.id)).Nodup) (hrow : row∈rows) (hkey : new.key=row.key) :
    (Table.replace Midjourney.id new rows).map Midjourney.key=rows.map Midjourney.key := by
  rw [Table.replace,map_map]
  apply map_congr_left
  intro s hs
  simp only [comp_apply]
  split
  next hid =>
    have hsame : s=row := inj_on_of_nodup_map hndp hs hrow (hid.trans (key_eq_iff.mp hkey).1)
    rw [hsame,hkey]
  · rfl

lemma PassSound.write {ms : List Movement} (h : PassSound db₀ handled st)
    (hrow : row∈st.db.rows) (hkey : new.key=row.key) (hmj : row.mjId=mjId)
    (hms : ∀ m∈ms, m.row=some new.id) (hnew : Standing new (st.db.entries row.id++ms))
    (hfree : st.db.Unpaid row → ∀ m∈ms, m.amount=0) : PassSound db₀ (mjId::handled)
      ⟨{ st.db with rows := Table.replace Midjourney.id new st.db.rows, log := st.db.log++ms },st.taskM⟩ := by
  have hid := (key_eq_iff.mp hkey).1
  refine ⟨h.sound.replace hrow hkey hms hnew,(map_key_replace_of_key h.sound.nodup hrow hkey).trans h.keys,
    fun other hnot t ht => ?_,fun old hold hunp => ?_⟩
  · -- another upstream id means another row
    rw [mem_cons,not_or] at hnot
    obtain ⟨htask,hentr⟩ := h.unlisted other hnot.2 t ht
    obtain ⟨hmem,-,htmj⟩ := mem_taskM htask
    obtain ⟨s,hs,hst⟩ := exists_of_keys h.keys hmem
    obtain ⟨hsid,-,hsmj,-⟩ := key_eq_iff.mp hst
    have hne : t.id≠new.id := by
      intro heq
      have hsame := h.sound.row_unique hrow hs (hsid.trans (heq.trans hid))
      apply hnot.1
      rw [← htmj,← hsmj,hsame,hmj]
    rw [entries_append_of_ne hms hne]
    exact ⟨htask,hentr⟩
  · have hbef := h.unpaid old hold hunp
    unfold MjDB.Unpaid at hbef ⊢
    by_cases hsame : old.id=new.id
    · rw [hsame,hid] at hbef
      rw [hsame,entries_append_self hms,hid]
      exact forall_mem_append.mpr ⟨hbef,hfree hbef⟩
    · rw [entries_append_of_ne hms hsame]
      exact hbef

lemma hasFailed_eq_false {dto : MidjourneyDto} (h : hasFailed dto=false) (task : Midjourney) :
    ¬ (applyDto task dto).EndedInFailure := by
  intro hend
  simp only [hasFailed,decide_eq_false_iff_not,not_or] at h
  exact h.2 hend

lemma refundFor_row : ∀ m∈refundFor task item, m.row=some task.id := by
  intro m hm
  unfold refundFor at hm
  split at hm
  · rw [mem_singleton.mp hm]
  · cases hm

variable {now : ℤ} {p : Pass}
lemma PassSound.handleItem (h : PassSound db₀ handled st) (h₀ : Sound db₀)
    (hnew : item.dto.mjId∉handled) (href : item.refundFails=false) (hlisted : MayFail db₀ now item) :
    PassSound db₀ (item.dto.mjId::handled) (MjProxy.handleItem now st item) := by
  unfold MjProxy.handleItem
  split
  · exact h.mono (subset_cons_self _ _)
  next task htask =>
  simp only
  split
  · exact h.mono (subset_cons_self _ _)
  generalize hfail : hasFailed (withTimeout now task item.dto)=failed
  generalize hres : (if failed=true then
    { applyDto task (withTimeout now task item.dto) with progress := "100%" } else
    applyDto task (withTimeout now task item.dto))=new
  have hkey : new.key=task.key := by
    rw [← hres]
    split <;> rfl
  split
  · exact h.memory
  split
  · exact h.memory
  next rows hwon =>
  unfold updateWithStatus at hwon
  split at hwon
  · cases hwon
  next found hfnd =>
  split at hwon
  · cases hwon
    obtain ⟨hstr,hentr⟩ := h.unlisted _ hnew task htask
    obtain ⟨hmem,hopen,hmj⟩ := mem_taskM hstr
    obtain ⟨row,hrow,hrowk⟩ := exists_of_keys h.keys hmem
    obtain ⟨hid,huser,hrwm,hqt⟩ := key_eq_iff.mp hrowk
    rw [← hid] at hentr
    have hpaid : failed=true → row.quota=0 ∨ st.db.entries row.id=[row.charge] := by
      intro htrue
      have hchar : row.charge=task.charge := by simp [charge,hid,huser,hqt]
      rw [hqt,hentr,hid,hchar]
      exact hlisted task hstr (hfail.trans htrue)
    have hstan := (h.sound.standing row hrow).update item failed (hkey.trans hrowk.symm)
      (by rw [hentr,hid]; exact (h₀.standing task hmem).not_refunded hopen) href hpaid
      (fun htrue => by rw [← hres,if_pos htrue])
      (fun hfls => by
        rw [← hres,hfls,if_neg Bool.false_ne_true]
        exact hasFailed_eq_false (hfail.trans hfls) task)
    refine (h.write hrow (hkey.trans hrowk.symm) (hrwm.trans hmj) ?_ hstan ?_).memory.mono (by simp)
    · intro m hm
      split at hm
      · exact refundFor_row m hm
      · cases hm
    · intro hunp m hm
      split at hm
      next htrue =>
        have hzero : new.quota=0 := by
          rw [(key_eq_iff.mp hkey).2.2.2,← hqt]
          rcases hpaid htrue with hfree | hone
          · exact hfree
          · exact hunp row.charge (hone ▸ mem_cons_self)
        simp [refundFor,hzero] at hm
      · cases hm
  · cases hwon

lemma PassSound.handleItems {items : List Item} (h : PassSound db₀ handled st) (h₀ : Sound db₀)
    (hndp : (items.map fun item => item.dto.mjId).Nodup) (hnew : ∀ item∈items, item.dto.mjId∉handled)
    (href : ∀ item∈items, item.refundFails=false) (hlisted : ∀ item∈items, MayFail db₀ now item) :
    PassSound db₀ ((items.map fun item => item.dto.mjId)++handled) (items.foldl (MjProxy.handleItem now) st) := by
  induction items generalizing st handled with
  | nil => exact h
  | cons item rest ih =>
    rw [map_cons,nodup_cons] at hndp
    have hfrs := h.handleItem h₀ (hnew item mem_cons_self) (href item mem_cons_self)
      (hlisted item mem_cons_self)
    have hrest : ∀ next∈rest, next.dto.mjId∉item.dto.mjId::handled := by
      intro next hnext hin
      rcases mem_cons.mp hin with heq | hin
      · exact hndp.1 (mem_map.mpr ⟨next,hnext,heq⟩)
      · exact hnew next (mem_cons_of_mem _ hnext) hin
    refine (ih hfrs hndp.2 hrest (fun next hnext => href next (mem_cons_of_mem _ hnext))
      fun next hnext => hlisted next (mem_cons_of_mem _ hnext)).mono ?_
    intro mjId hin
    simp only [map_cons,cons_append,mem_cons,mem_append] at hin ⊢
    tauto

lemma map_key_failRows (p : Midjourney → Bool) (reason : Option String) (db : MjDB) :
    (MjProxy.failRows p reason db).rows.map Midjourney.key=db.rows.map Midjourney.key := by
  rw [MjProxy.failRows,map_map]
  apply map_congr_left
  intro row _
  simp only [comp_apply]
  split <;> rfl

lemma PassSound.failRows {p : Midjourney → Bool} {reason : Option String} (h : PassSound db₀ handled st)
    (hp : ∀ row∈st.db.rows, p row=true → st.db.Unpaid row) :
    PassSound db₀ handled { st with db := MjProxy.failRows p reason st.db } :=
  ⟨h.sound.failRows hp,(map_key_failRows p reason st.db).trans h.keys,h.unlisted,h.unpaid⟩

lemma PassSound.visitChannel {taskIds : List String} {reply : Reply} (c : ℕ) (h : PassSound db₀ handled st)
    (h₀ : Sound db₀) (hndp : (reply.list.map fun item => item.dto.mjId).Nodup)
    (hnew : ∀ item∈reply.list, item.dto.mjId∉handled) (href : ∀ item∈reply.list, item.refundFails=false)
    (hlisted : ∀ item∈reply.list, MayFail db₀ now item)
    (hpres : reply.Missing → ∀ row∈db₀.rows, row.mjId∈taskIds → db₀.Unpaid row) :
    PassSound db₀ ((reply.list.map fun item => item.dto.mjId)++handled)
      (MjProxy.visitChannel now c taskIds reply st) := by
  cases reply with
  | silent => exact h
  | items items => exact h.handleItems h₀ hndp hnew href hlisted
  | missing updateFails =>
    cases updateFails with
    | true => exact h
    | false =>
      apply h.failRows
      intro row hrow hin
      obtain ⟨row₀,hrow₀,hkey⟩ := exists_of_keys h.keys.symm hrow
      obtain ⟨hid,-,hmj,-⟩ := key_eq_iff.mp hkey
      have hunp := h.unpaid row₀ hrow₀ (hpres trivial row₀ hrow₀ (hmj ▸ of_decide_eq_true hin))
      unfold MjDB.Unpaid at hunp ⊢
      rwa [hid] at hunp

lemma PassSound.visits {taskIds : ℕ → List String} {cs : List ℕ} (h : PassSound db₀ handled st)
    (h₀ : Sound db₀) (hndp : ((cs.flatMap fun c => (p.reply c).list).map fun item => item.dto.mjId).Nodup)
    (hnew : ∀ c∈cs, ∀ item∈(p.reply c).list, item.dto.mjId∉handled)
    (href : ∀ c∈cs, ∀ item∈(p.reply c).list, item.refundFails=false)
    (hlisted : ∀ c∈cs, ∀ item∈(p.reply c).list, MayFail db₀ p.now item)
    (hpres : ∀ c∈cs, (p.reply c).Missing → ∀ row∈db₀.rows, row.mjId∈taskIds c → db₀.Unpaid row) :
    ∃ handled', PassSound db₀ handled'
      (cs.foldl (fun st c => MjProxy.visitChannel p.now c (taskIds c) (p.reply c) st) st) := by
  induction cs generalizing st handled with
  | nil => exact ⟨handled,h⟩
  | cons c rest ih =>
    rw [flatMap_cons,map_append,nodup_append] at hndp
    obtain ⟨hfrs,hltr,hdisj⟩ := hndp
    have hvst := h.visitChannel c h₀ hfrs (hnew c mem_cons_self) (href c mem_cons_self)
      (hlisted c mem_cons_self) (hpres c mem_cons_self)
    refine ih hvst hltr ?_ (fun d hd => href d (mem_cons_of_mem _ hd))
      (fun d hd => hlisted d (mem_cons_of_mem _ hd)) fun d hd => hpres d (mem_cons_of_mem _ hd)
    intro d hd item hitem hin
    rcases mem_append.mp hin with hhere | hbef
    · refine hdisj _ hhere item.dto.mjId ?_ rfl
      exact mem_map_of_mem (mem_flatMap.mpr ⟨d,hd,hitem⟩)
    · exact hnew d (mem_cons_of_mem _ hd) item hitem hbef

lemma Sound.passSound {db : MjDB} (h : Sound db) : PassSound db [] ⟨db,db.taskM⟩ :=
  ⟨h,rfl,fun _ _ _ htask => ⟨htask,rfl⟩,fun _ _ hunp => hunp⟩

lemma Sound.poll {db : MjDB} (h : Sound db) (hfair : p.Fair db) : Sound (runMidjourneyTaskUpdateOnce p db) := by
  simp only [runMidjourneyTaskUpdateOnce]
  have hstr : PassSound db [] ⟨if p.nullUpdateFails then db else MjProxy.failRows (fun row => decide (row.id ∈
      (db.unfinished.filter fun row => decide (row.mjId = "")).map (·.id))) none db,db.taskM⟩ := by
    split
    · exact h.passSound
    apply h.passSound.failRows
    intro row hrow hin
    obtain ⟨null,hnull,hid⟩ := mem_map.mp (of_decide_eq_true hin)
    obtain ⟨hopen,hname⟩ := mem_filter.mp hnull
    rw [← h.row_unique hrow (mem_of_mem_filter hopen) hid]
    exact hfair.named null hopen (of_decide_eq_true hname)
  obtain ⟨handled,hdone⟩ := hstr.visits h hfair.distinct (fun _ _ _ _ => not_mem_nil) hfair.refunds
    hfair.listed hfair.present
  exact hdone.sound
end

section
variable {e : SubmitEnv} {db : MjDB} {r : MidjourneyRequest} {channelId : ℕ} {quota : ℤ} {resp : MidjourneyResponse}
lemma adoptExisting_key (existing : Option (String × String)) (row : Midjourney) :
    (adoptExisting e existing row).key=row.key := by
  unfold adoptExisting
  split
  · rfl
  · split <;> rfl

lemma submittedRow_key :
    (submittedRow e db r channelId quota resp).key=(db.nextId,e.payer.userId,resp.result,quota) := by
  have hnew : (newRow e db r channelId quota resp).key=(db.nextId,e.payer.userId,resp.result,quota) := rfl
  simp only [submittedRow]
  generalize (if resp.code=21 then resp.properties else none)=existing
  generalize (if existing.map (·.2)=some "SUCCESS" then 1 else resp.code)=code
  split <;> exact (adoptExisting_key _ _).trans hnew

variable {row : Midjourney}
lemma adoptExisting_open (existing : Option (String × String)) (hrow : row.progress = "0%") :
    ¬ (adoptExisting e existing row).EndedInFailure := by
  intro hend
  obtain ⟨hprog,hstatus⟩ := hend
  unfold adoptExisting at hprog hstatus
  split at hprog
  · exact absurd (hrow.symm.trans hprog) (by decide)
  split at hprog
  next hsuccess =>
    simp only [if_pos hsuccess] at hstatus
    exact absurd (hsuccess.symm.trans hstatus) (by decide)
  · exact absurd (hrow.symm.trans hprog) (by decide)

lemma submittedRow_open : ¬ (submittedRow e db r channelId quota resp).EndedInFailure := by
  simp only [submittedRow]
  generalize (if resp.code=21 then resp.properties else none)=existing
  generalize (if existing.map (·.2)=some "SUCCESS" then 1 else resp.code)=code
  split
  · intro hend
    have hstatus : "SUCCESS" = "FAILURE" := hend.2
    exact absurd hstatus (by decide)
  · exact adoptExisting_open _ rfl

lemma chargeFor_row {action : String} {row : Option ℕ} : ∀ m∈chargeFor e action quota resp row, m.row=row := by
  intro m hm
  unfold chargeFor at hm
  split at hm
  · obtain ⟨taken,-,rfl⟩ := mem_map.mp hm
    rfl
  · cases hm

lemma postConsumeQuota_amount {payer : Payer} : ∀ taken∈postConsumeQuota payer quota, taken.2=quota := by
  intro taken htkn
  simp only [postConsumeQuota] at htkn
  split at htkn
  · cases htkn
  split at htkn
  · cases htkn
  split at htkn
  · rw [mem_singleton.mp htkn]
  rcases mem_cons.mp htkn with heq | htoken
  · rw [heq]
  · rw [mem_singleton.mp htoken]

lemma standing_submitted (hqt : 0≤quota) :
    Standing (submittedRow e db r channelId quota resp) (chargeFor e r.action quota resp (some db.nextId)) := by
  have hprc : (submittedRow e db r channelId quota resp).quota=quota :=
    (Prod.mk.inj (Prod.mk.inj (Prod.mk.inj submittedRow_key).2).2).2
  refine .unfailed submittedRow_open (hqt.trans_eq hprc.symm) fun m hm => ?_
  unfold chargeFor at hm
  split at hm
  · obtain ⟨taken,htkn,rfl⟩ := mem_map.mp hm
    exact ⟨(postConsumeQuota_amount taken htkn).trans hprc.symm,rfl⟩
  · cases hm

lemma Sound.entries_fresh (h : Sound db) : db.entries db.nextId=[] := by
  rw [entries,filter_eq_nil_iff]
  intro m hm
  rw [decide_eq_true_eq]
  intro hrow
  exact absurd (h.logged m hm db.nextId hrow) (lt_irrefl _)

variable {ms : List Movement}
lemma Sound.insert (h : Sound db) (hid : row.id=db.nextId)
    (hms : ∀ m∈ms, m.row=some db.nextId) (hstan : Standing row ms) : Sound ⟨db.rows++[row],db.nextId+1,db.log++ms⟩ := by
  refine ⟨?_,?_,?_,?_⟩
  · rw [map_append,map_singleton,nodup_append]
    refine ⟨h.nodup,nodup_singleton _,fun id hold other hnew => ?_⟩
    obtain ⟨old,hmem,rfl⟩ := mem_map.mp hold
    rw [mem_singleton.mp hnew,hid]
    exact (h.fresh old hmem).ne
  · exact forall_mem_append.mpr ⟨fun s hs => Nat.lt_succ_of_lt (h.fresh s hs),
      forall_mem_singleton.mpr (hid ▸ Nat.lt_succ_self _)⟩
  · intro m hm id hsome
    rcases mem_append.mp hm with hold | hnew
    · exact Nat.lt_succ_of_lt (h.logged m hold id hsome)
    rw [hms m hnew] at hsome
    cases hsome
    exact Nat.lt_succ_self _
  · intro s hs
    rcases mem_append.mp hs with hold | hnew
    · rw [entries_append_of_ne hms (h.fresh s hold).ne]
      exact h.standing s hold
    · rw [mem_singleton.mp hnew,hid,entries_append_self hms,h.entries_fresh]
      exact hstan

lemma Sound.chargeOnly (h : Sound db) (hms : ∀ m∈ms, m.row=none) : Sound { db with log := db.log++ms } := by
  have hentr : ∀ id, entries { db with log := db.log++ms } id=db.entries id := by
    intro id
    have hnone : ms.filter (fun m => decide (m.row=some id))=[] := by
      rw [filter_eq_nil_iff]
      intro m hm
      simp [hms m hm]
    rw [entries,filter_append,hnone,append_nil,entries]
  refine ⟨h.nodup,h.fresh,fun m hm id hsome => ?_,fun row hrow => ?_⟩
  · rcases mem_append.mp hm with hold | hnew
    · exact h.logged m hold id hsome
    rw [hms m hnew] at hsome
    cases hsome
  · rw [hentr]
    exact h.standing row hrow

lemma Sound.submit (h : Sound db) (hpric : ∀ quota∈e.price.toOption, 0≤quota) :
    Sound (relayMidjourneySubmit e db).1 := by
  unfold relayMidjourneySubmit
  split
  · exact h
  next r channelId hreq =>
  split
  · exact h
  next quota hprc =>
  split
  · exact h
  next userQuota hqt =>
  split
  · exact h
  split
  · exact h
  next resp hresp =>
  split
  · exact h.chargeOnly chargeFor_row
  have hnonn : 0≤quota := hpric quota (by rw [hprc]; rfl)
  exact h.insert (congrArg Prod.fst submittedRow_key) chargeFor_row (standing_submitted hnonn)
end

lemma Sound.step {db db' : MjDB} {a : Action} (h : Sound db) (hok : Orderly db a)
    (hstep : MjProxy.step db a=some db') : Sound db' := by
  cases a with
  | submit e =>
    cases hstep
    exact h.submit hok
  | poll p =>
    cases hstep
    exact h.poll hok

lemma sound_empty : Sound .empty :=
  ⟨nodup_nil,fun _ h => (not_mem_nil h).elim,fun _ h => (not_mem_nil h).elim,fun _ h => (not_mem_nil h).elim⟩

/-- Refunds match charges in every orderly run. -/
theorem refunds_match_of_orderly {actions : List Action} {db : MjDB} (h : Runs step Orderly .empty actions db) :
    ∀ row∈db.rows, Matched db row := by
  have hsnd : Sound db := h.invariant Sound (fun _ _ _ hs hok hstep => hs.step hok hstep) sound_empty
  intro row hrow
  exact (hsnd.standing row hrow).matched

def imagine (payer : Payer) (resp : MidjourneyResponse) : SubmitEnv :=
  ⟨.imagine,⟨"a cat","","","",0⟩,.error "",none,false,fun _ => some true,7,payer,.ok 100,.ok 1000,.ok resp,false,0⟩

def userOnly : Payer := ⟨1,1,true,.wallet,false,false⟩

def userAndToken : Payer := ⟨1,1,false,.wallet,false,false⟩

def accepted : MidjourneyResponse := ⟨200,1,"Success","mj-1",none⟩

def queueFull : MidjourneyResponse := ⟨200,23,"Queue full","mj-1",none⟩

def failure : Item := ⟨⟨"mj-1","","",0,0,0,"","",none,"FAILURE","100%","banned"⟩,false,false⟩

/-- A pass in which the only channel gives `reply`. -/
def passWith (reply : Reply) : Pass := ⟨1000,false,[7],fun _ => reply⟩

instance (reply : Reply) : Decidable reply.Missing :=
  match reply with
  | .missing _ => isTrue trivial
  | .silent => isFalse fun h => h
  | .items _ => isFalse fun h => h

instance (db : MjDB) (row : Midjourney) : Decidable (db.Unpaid row) :=
  inferInstanceAs (Decidable (∀ m∈db.entries row.id, m.amount=0))

instance (db : MjDB) (row : Midjourney) : Decidable (db.PaidByUser row) :=
  inferInstanceAs (Decidable (db.entries row.id=[row.charge]))

instance (db : MjDB) (now : ℤ) (item : Item) : Decidable (MayFail db now item) :=
  inferInstanceAs (Decidable (∀ task∈db.taskM item.dto.mjId, hasFailed (withTimeout now task item.dto)=true →
    task.quota=0 ∨ db.PaidByUser task))

instance (p : Pass) (db : MjDB) : Decidable (p.Fair db) :=
  decidable_of_iff ((((p.visits db).flatMap fun c => (p.reply c).list).map fun item => item.dto.mjId).Nodup ∧
    (∀ c∈p.visits db, ∀ item∈(p.reply c).list, item.refundFails=false) ∧
    (∀ c∈p.visits db, ∀ item∈(p.reply c).list, MayFail db p.now item) ∧
    (∀ c∈p.visits db, (p.reply c).Missing → ∀ row∈db.rows, row.mjId∈db.taskIds c → db.Unpaid row) ∧
    ∀ row∈db.unfinished, row.mjId = "" → db.Unpaid row)
    ⟨fun h => ⟨h.1,h.2.1,h.2.2.1,h.2.2.2.1,h.2.2.2.2⟩,fun h => ⟨h.distinct,h.refunds,h.listed,h.present,h.named⟩⟩

instance (db : MjDB) (a : Action) : Decidable (Orderly db a) :=
  match a with
  | .submit e => inferInstanceAs (Decidable (∀ quota∈e.price.toOption, 0≤quota))
  | .poll p => inferInstanceAs (Decidable (p.Fair db))

/-- A task of the playground fails and gets its 100 back. -/
theorem walletTask_refunded : ∃ db, Runs step Orderly .empty
    [.submit (imagine userOnly accepted),.poll (passWith (.items [failure]))] db ∧
    db.refunded 1 (.user 1)=100 ∧ ∀ row∈db.rows, Matched db row := by
  obtain ⟨db,-,hruns,href⟩ := checked_run step Orderly .empty
    [.submit (imagine userOnly accepted),.poll (passWith (.items [failure]))] (fun db => db.refunded 1 (.user 1)=100)
    (by decide +kernel)
  exact ⟨db,hruns,href,refunds_match_of_orderly hruns⟩

def balanceSheet (db : MjDB) : List ℤ :=
  [db.charged 1 (.user 1),db.refunded 1 (.user 1),db.charged 1 (.token 1),db.refunded 1 (.token 1)]

/-- A refused task is refunded though it was not charged, the token of a charged one gets nothing back, a task
that is listed twice is refunded twice, and one whose channel is gone fails without a refund. -/
theorem refunds_mismatch :
    (exec step .empty [.submit (imagine userAndToken queueFull),.poll (passWith (.items [failure]))]).map balanceSheet =
      some [0,100,0,0] ∧
    (exec step .empty [.submit (imagine userAndToken accepted),.poll (passWith (.items [failure]))]).map balanceSheet =
      some [100,100,100,0] ∧
    (exec step .empty [.submit (imagine userOnly accepted),.poll (passWith (.items [failure,
      { failure with dto := { failure.dto with progress := "" } }]))]).map balanceSheet=some [100,200,0,0] ∧
    (exec step .empty [.submit (imagine userOnly accepted),.poll (passWith (.missing false))]).map
      (fun db => (db.rows.map (·.status),balanceSheet db))=some (["FAILURE"],[100,0,0,0]) := by decide +kernel
end AronaApi.MjProxy
