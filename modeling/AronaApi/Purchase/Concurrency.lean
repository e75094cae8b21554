import AronaApi.Purchase.Wallet

/-! Orders whose completions read them one at a time: while one is open its order is pending for
everybody, and when it commits the order is closed.

The four ways to a subscription under concurrency. The limit, the wallet and the orders are
respected in every run in which a check is made only while no other transaction is between the same
check and its end. No statement of the calls sees to that: two calls that check together both pass. -/
namespace AronaApi.Purchase
open Subscription Schedule List Interleave RowStore Phase

section
variable {W : Type*} {m : Market} {calls : W → Call} {s t : Sys W} {v w : W} {a : Act} {p : Phase} {db : RowStore W Key Row}
  {order : SubscriptionOrder}

def Phase.closes : Phase → Option String
  | .committing _ tradeNo _ => tradeNo
  | _ => none

def Op.writesOrder : Op → Bool
  | .write (.order _) _ _ => true
  | _ => false

inductive OrderStep (call : Call) (view : (k : Key) → Row k) (p : Phase) : Op → Prop
  | leave (error : Option String) : OrderStep call view p (.leave error)
  | commit (job : Job) (tradeNo : Option String) (sub : Option UserSubscription)
      (hphase : p=.committing job tradeNo sub) : OrderStep call view p (.commit job tradeNo sub)
  | read {tradeNo payload expected method order p'} (hphase : p=.idle)
      (hcall : call=.complete tradeNo payload expected method) (hview : view (.order tradeNo)=some order)
      (hpending : order.status=.pending) (hcompleting : ∀ n, p'.isCompleting n=decide (tradeNo=n))
      (hcloses : p'.closes=none) : OrderStep call view p (.goto p')
  /-- the order is closed, by its completion or as the new order of a purchase -/
  | close {tradeNo order p'} (hcloses : p.closes=none) (hcloses' : p'.closes=some tradeNo)
      (hcompleting : ∀ n, p'.isCompleting n=p.isCompleting n) (hsuccess : order.status=.success)
      (hwhy : p.isCompleting tradeNo=true ∨ view (.order tradeNo)=none) :
      OrderStep call view p (.write (.order tradeNo) (some order) p')
  | aside {op} (hop : op.writesOrder=false) (hcommit : op.isCommit=false) (hcloses : p.closes=none)
      (hleads : ∀ p', op.Leads p' → (∀ n, p'.isCompleting n=p.isCompleting n) ∧ p'.closes=none) : OrderStep call view p op

variable {call : Call} {view : (k : Key) → Row k} {count : ℕ} {p' : Phase} {op : Op}
lemma orderStep_goto (hcloses : p.closes=none) (hcompleting : ∀ n, p'.isCompleting n=p.isCompleting n)
    (hcloses' : p'.closes=none) : OrderStep call view p (.goto p') := by
  refine .aside rfl rfl hcloses ?_
  intro _ hleads
  cases hleads
  exact ⟨hcompleting,hcloses'⟩

lemma orderStep_write {k : Key} {row : Row k} (hk : ∀ n, k≠.order n) (hcloses : p.closes=none)
    (hcompleting : ∀ n, p'.isCompleting n=p.isCompleting n) (hcloses' : p'.closes=none) :
    OrderStep call view p (.write k row p') := by
  refine .aside ?_ rfl hcloses ?_
  · cases k with
    | order n => exact absurd rfl (hk n)
    | _ => rfl
  · intro _ hleads
    cases hleads
    exact ⟨hcompleting,hcloses'⟩

lemma closes_create (job : Job) : (create m job).closes=none := by
  unfold create
  split <;> rfl

lemma isCompleting_create (job : Job) (n : String) : (create m job).isCompleting n=(counting job).isCompleting n := by
  unfold isCompleting
  rw [job?_create]
  rfl

lemma Does.orderStep (h : Does m call view count p op) : OrderStep call view p op := by
  cases h with
  | leave => exact .leave _
  | commit job tradeNo sub => exact .commit job tradeNo sub rfl
  | readOrder hcall hview hpending =>
    refine .read rfl hcall hview hpending (fun n => ?_) (closes_create _)
    rw [isCompleting_create]
    rfl
  | order sub hview hsuccess => exact .close rfl rfl (fun _ => rfl) hsuccess (.inr hview)
  | save sub hsuccess => exact .close rfl rfl (fun _ => rfl) hsuccess (.inl (decide_eq_true rfl))
  | bind | redeem | free | chargeNobody => exact orderStep_goto rfl (fun n => isCompleting_create _ n) (closes_create _)
  | charge => exact orderStep_write nofun rfl (fun n => isCompleting_create _ n) (closes_create _)
  | checkPlan | readCode | enough | grants | count | room | readGroup | stay | moves | find | grantNobody | moveNobody =>
    exact orderStep_goto rfl (fun _ => rfl) rfl
  | claim | grant | move | topUp => exact orderStep_write nofun rfl (fun _ => rfl) rfl
  | insert | insertLast =>
    refine .aside rfl rfl rfl ?_
    intro _ hleads
    cases hleads
    exact ⟨fun _ => rfl,rfl⟩

/-- How a transaction stands with the orders: the one it completes is still pending for everybody,
and the one row it holds, if any, is the order it closes. -/
structure Footing (db : RowStore W Key Row) (v : W) (p : Phase) : Prop where
  pending : ∀ n, p.isCompleting n=true → ∃ order, db.committed (.order n)=some order ∧ order.status=.pending
  closes : ∀ n, p.closes=some n → db.owner (.order n)=some v ∧ (p.isCompleting n=true ∨ db.committed (.order n)=none)
  held : ∀ n, db.owner (.order n)=some v → p.closes=some n ∧ ∃ order, db.pending (.order n)=some order ∧ order.status=.success

structure Orderly (s : Sys W) : Prop where
  single : ∀ n v w, (s.phase v).isCompleting n=true → (s.phase w).isCompleting n=true → v=w
  footing : ∀ v, Footing s.shared.db v (s.phase v)
  closed : ∀ n e, e∈creationsFor n s.log → ∃ order, s.shared.db.committed (.order n)=some order ∧ order.status=.success
  once : ∀ n, (creationsFor n s.log).length≤1

lemma footing_done {error : Option String} (h : ∀ n, db.owner (.order n)≠some v) : Footing db v (.done error) :=
  ⟨nofun,nofun,fun n hn => absurd hn (h n)⟩

lemma Footing.not_owner (h : Footing db v p) (hcloses : p.closes=none) (n : String) : db.owner (.order n)≠some v := by
  intro hown
  have hsome := (h.held n hown).1
  rw [hcloses] at hsome
  cases hsome

variable {db' : RowStore W Key Row}
lemma Footing.congr (h : Footing db v p)
    (hcompleting : ∀ n, p'.isCompleting n=p.isCompleting n) (hcloses : p'.closes=p.closes)
    (hown : ∀ n, db'.owner (.order n)=db.owner (.order n)) (hpending : ∀ n, db'.pending (.order n)=db.pending (.order n))
    (hcomm : ∀ n, db'.committed (.order n)=db.committed (.order n)) : Footing db' v p' := by
  refine ⟨?_,?_,?_⟩
  · intro n hn
    rw [hcomm]
    exact h.pending n (hcompleting n ▸ hn)
  · intro n hn
    rw [hown,hcomm,hcompleting]
    exact h.closes n (hcloses ▸ hn)
  · intro n hn
    rw [hcloses,hpending]
    exact h.held n (hown n ▸ hn)

variable {n tradeNo : String}
lemma Footing.write_order (h : Footing db v p) (hv : v≠w) (hfree : db.Free w (.order n))
    (row : Option SubscriptionOrder) : Footing (db.write w (.order n) row) v p := by
  have hne : (some w : Option W)≠some v := fun heq => hv (Option.some.inj heq).symm
  refine ⟨h.pending,?_,?_⟩
  · intro n' hn'
    have hoth : Key.order n'≠.order n := by
      rintro ⟨⟩
      exact hfree.not_owner hv (h.closes n hn').1
    rw [write_owner_of_ne _ _ _ hoth]
    exact h.closes n' hn'
  · intro n' hn'
    have hoth : Key.order n'≠.order n := by
      rintro ⟨⟩
      rw [write_owner_self] at hn'
      exact hne hn'
    rw [write_owner_of_ne _ _ _ hoth] at hn'
    rw [write_pending_of_ne _ _ _ hoth]
    exact h.held n' hn'

lemma Footing.ended [DecidableEq W] (h : Footing db v p) (hv : v≠w)
    (howner : ∀ n, db'.owner (.order n)=if db.owner (.order n)=some w then none else db.owner (.order n))
    (hpending : ∀ n, db'.pending (.order n)=db.pending (.order n))
    (hcomm : ∀ n, p.isCompleting n=true ∨ db.owner (.order n)≠some w → db'.committed (.order n)=db.committed (.order n)) :
    Footing db' v p := by
  have hiff (n : String) : db'.owner (.order n)=some v ↔ db.owner (.order n)=some v := by
    rw [howner]
    exact released_iff hv
  refine ⟨?_,?_,?_⟩
  · intro n hn
    rw [hcomm n (.inl hn)]
    exact h.pending n hn
  · intro n hn
    obtain ⟨hown,hwhy⟩ := h.closes n hn
    have hnot : db.owner (.order n)≠some w := by
      rw [hown]
      intro heq
      exact hv (Option.some.inj heq)
    rw [hcomm n (.inr hnot)]
    exact ⟨(hiff n).mpr hown,hwhy⟩
  · intro n hn
    rw [hpending]
    exact h.held n ((hiff n).mp hn)

lemma Orderly.none_yet (h : Orderly s) (hcloses : (s.phase w).closes=some n) : creationsFor n s.log=[] := by
  rw [eq_nil_iff_forall_not_mem]
  intro e he
  obtain ⟨order,hord,hsuccess⟩ := h.closed n e he
  rcases ((h.footing w).closes n hcloses).2 with hcompleting | hnone
  · obtain ⟨order',hord',hpending⟩ := (h.footing w).pending n hcompleting
    cases hord.symm.trans hord'
    rw [hsuccess] at hpending
    cases hpending
  · rw [hnone] at hord
    cases hord

lemma creationsFor_append (n : String) (log log' : List (W × Event)) :
    creationsFor n (log++log')=creationsFor n log++creationsFor n log' := filter_append _ _

lemma creationsFor_commitEvents (n : String) (user : Option User) (job : Job) (tradeNo : Option String)
    (sub : Option UserSubscription) : creationsFor n ((commitEvents user job tradeNo sub).map (Prod.mk w))=[] ∨
      tradeNo=some n ∧ (creationsFor n ((commitEvents user job tradeNo sub).map (Prod.mk w))).length≤1 := by
  have hchar : creationsFor n ((chargeEvents user job).map (Prod.mk w))=[] := by
    unfold chargeEvents
    split
    · split
      · rfl
      · rfl
    · rfl
  rw [commitEvents,map_append,creationsFor_append,hchar,append_nil]
  cases sub with
  | none => exact .inl rfl
  | some sub =>
    by_cases hn : tradeNo=some n
    · right
      exact ⟨hn,length_filter_le _ _⟩
    · left
      simp [creationsFor,hn]

variable [DecidableEq W]
variable {r : Shared W × Phase × List Event}
section
variable (h : Orderly s)
include h
lemma Orderly.advance (hsing : ∀ n, r.2.1.isCompleting n=true → ∀ v, v≠w → (s.phase v).isCompleting n=false)
    (hself : Footing r.1.db w r.2.1)
    (hoth : ∀ v, v≠w → Footing s.shared.db v (s.phase v) → Footing r.1.db v (s.phase v))
    (hcomm : ∀ n, r.1.db.committed (.order n)=s.shared.db.committed (.order n)) (heven : r.2.2=[]) :
    Orderly (s.advance w r) := by
  have hlog : (s.advance w r).log=s.log := by
    rw [advance_log,heven]
    exact append_nil _
  refine ⟨fun n => single_advance (isCompleting n) (h.single n) (hsing n),
    forall_phase_advance (Footing s.shared.db) (Footing r.1.db) h.footing hself hoth,?_,?_⟩
  · intro n e
    rw [hlog,advance_shared,hcomm]
    exact h.closed n e
  · rw [hlog]
    exact h.once

omit [DecidableEq W] in
lemma Orderly.others (hw : (s.phase w).isCompleting n=true) : ∀ v, v≠w → (s.phase v).isCompleting n=false :=
  others_of_single (isCompleting n) (h.single n) hw

lemma Orderly.leave (error : Option String) :
    Orderly (s.advance w ({ s.shared with db := s.shared.db.abort w },.done error,[])) := by
  refine h.advance nofun ?_ ?_ (fun _ => rfl) rfl
  · exact footing_done fun n => released_ne _ _
  · intro v hv hfoot
    exact hfoot.ended hv (fun _ => rfl) (fun _ => rfl) fun _ _ => rfl

lemma Orderly.read (haln : Alone calls s (w,a)) {payload method : String}
    {expected : Option Recharge.PaymentProvider} (hphase : s.phase w=.idle)
    (hcall : calls w=.complete tradeNo payload expected method) (hview : s.shared.db.view w (.order tradeNo)=some order)
    (hpending : order.status=.pending) (hcompleting : ∀ n, p.isCompleting n=decide (tradeNo=n)) (hcloses : p.closes=none) :
    Orderly (s.advance w (s.shared,p,[])) := by
  have hnot := (h.footing w).not_owner (by rw [hphase]; rfl)
  rw [view_of_not_owner (hnot tradeNo)] at hview
  refine h.advance ?_ ⟨?_,?_,?_⟩ (fun _ _ hv => hv) (fun _ => rfl) rfl
  · intro n hn v _
    rw [hcompleting] at hn
    cases of_decide_eq_true hn
    exact haln.order tradeNo payload expected method hphase hcall v
  · intro n hn
    rw [hcompleting] at hn
    cases of_decide_eq_true hn
    exact ⟨order,hview,hpending⟩
  · intro n hn
    rw [hcloses] at hn
    cases hn
  · intro n hn
    exact absurd hn (hnot n)

lemma Orderly.close (hcloses : (s.phase w).closes=none) (hcloses' : p.closes=some tradeNo)
    (hcompleting : ∀ n, p.isCompleting n=(s.phase w).isCompleting n) (hsuccess : order.status=.success)
    (hwhy : (s.phase w).isCompleting tradeNo=true ∨ s.shared.db.view w (.order tradeNo)=none)
    (hfree : s.shared.db.Free w (.order tradeNo)) :
    Orderly (s.advance w ({ s.shared with db := s.shared.db.write w (.order tradeNo) (some order) },p,[])) := by
  have hnot := (h.footing w).not_owner hcloses
  refine h.advance ?_ ⟨?_,?_,?_⟩ (fun v hv hfoot => hfoot.write_order hv hfree _) (fun _ => rfl) rfl
  · intro n hn
    rw [hcompleting] at hn
    exact h.others hn
  · intro n hn
    rw [hcompleting] at hn
    exact (h.footing w).pending n hn
  · intro n hn
    cases hcloses'.symm.trans hn
    refine ⟨write_owner_self _ _ _ _,?_⟩
    rw [hcompleting]
    exact hwhy.imp_right fun hnone => (view_of_not_owner (hnot tradeNo)).symm.trans hnone
  · intro n hn
    by_cases heq : Key.order n=.order tradeNo
    · cases heq
      exact ⟨hcloses',order,write_pending_self _ _ _ _,hsuccess⟩
    · rw [write_owner_of_ne _ _ _ heq] at hn
      exact absurd hn (hnot n)
end

lemma Footing.committed (h : Footing db w p) (n : String) :
    (∃ order, (db.commit w).committed (.order n)=some order ∧ order.status=.success) ∨
      db.owner (.order n)≠some w ∧ (db.commit w).committed (.order n)=db.committed (.order n) := by
  by_cases hown : db.owner (.order n)=some w
  · obtain ⟨-,order,hpending,hsuccess⟩ := h.held n hown
    left
    refine ⟨order,?_,hsuccess⟩
    rw [commit_committed,view_of_owner hown]
    exact hpending
  · exact .inr ⟨hown,view_of_not_owner hown⟩

omit [DecidableEq W] in
lemma Orderly.not_completing (h : Orderly s) (hv : v≠w) (hn : (s.phase v).isCompleting n=true) :
    s.shared.db.owner (.order n)≠some w := by
  intro hown
  have hcloses := ((h.footing w).held n hown).1
  rcases ((h.footing w).closes n hcloses).2 with hcompleting | hnone
  · rw [h.others hcompleting v hv] at hn
    cases hn
  obtain ⟨order,hord,-⟩ := (h.footing v).pending n hn
  rw [hnone] at hord
  cases hord

lemma Orderly.commit (h : Orderly s) {job : Job} {tradeNo : Option String} {sub : Option UserSubscription}
    (hphase : s.phase w=.committing job tradeNo sub) :
    Orderly (s.advance w ({ s.shared with db := s.shared.db.commit w,subs := s.shared.subs++sub.toList },.done none,
      commitEvents (s.shared.db.view w .user) job tradeNo sub)) := by
  have hcloses : (s.phase w).closes=tradeNo := by
    rw [hphase]
    rfl
  refine ⟨fun n => single_advance (isCompleting n) (h.single n) nofun,
    forall_phase_advance (Footing s.shared.db) (Footing (s.shared.db.commit w)) h.footing ?_ ?_,?_,?_⟩
  · exact footing_done fun n => released_ne _ _
  · intro v hv hfoot
    refine hfoot.ended hv (fun _ => rfl) (fun _ => rfl) ?_
    rintro n (hn | hn)
    · exact view_of_not_owner (h.not_completing hv hn)
    · exact view_of_not_owner hn
  · intro n e he
    rw [advance_log,creationsFor_append] at he
    rcases (h.footing w).committed n with hclos | ⟨hnot,hsame⟩
    · exact hclos
    rcases mem_append.mp he with hold | hnew
    · obtain ⟨order,hord,hsuccess⟩ := h.closed n e hold
      exact ⟨order,hsame.trans hord,hsuccess⟩
    rcases creationsFor_commitEvents (w := w) n (s.shared.db.view w .user) job tradeNo sub with hnil | ⟨hn,-⟩
    · rw [hnil] at hnew
      cases hnew
    · exact absurd ((h.footing w).closes n (hcloses.trans hn)).1 hnot
  · intro n
    rw [advance_log,creationsFor_append,length_append]
    rcases creationsFor_commitEvents (w := w) n (s.shared.db.view w .user) job tradeNo sub with hnil | ⟨hn,hle⟩
    · rw [hnil]
      exact h.once n
    · rw [h.none_yet (hcloses.trans hn),length_nil,Nat.zero_add]
      exact hle

lemma order_rows_of_perform {s : Shared W} (hop : op.writesOrder=false) (hcommit : op.isCommit=false)
    (hleads : op.Leads r.2.1) (hperf : Purchase.perform w s op=some r) (n : String) :
    r.1.db.owner (.order n)=s.db.owner (.order n) ∧ r.1.db.pending (.order n)=s.db.pending (.order n) ∧
      r.1.db.committed (.order n)=s.db.committed (.order n) := by
  cases op with
  | leave error => cases hleads
  | goto p' | insert p' =>
    cases hperf
    exact ⟨rfl,rfl,rfl⟩
  | write k row p' =>
    simp only [Purchase.perform] at hperf
    split at hperf
    · cases hperf
      have hk : Key.order n≠k := by
        rintro rfl
        cases hop
      exact ⟨write_owner_of_ne _ _ _ hk,write_pending_of_ne _ _ _ hk,rfl⟩
    · cases hperf
  | commit job tradeNo sub => cases hcommit

lemma Orderly.aside (h : Orderly s) (hcloses : (s.phase w).closes=none)
    (hcompleting : ∀ n, r.2.1.isCompleting n=(s.phase w).isCompleting n) (hcloses' : r.2.1.closes=none)
    (hrows : ∀ n, r.1.db.owner (.order n)=s.shared.db.owner (.order n) ∧
      r.1.db.pending (.order n)=s.shared.db.pending (.order n) ∧
      r.1.db.committed (.order n)=s.shared.db.committed (.order n)) (heven : r.2.2=[]) : Orderly (s.advance w r) := by
  refine h.advance ?_ ?_ ?_ (fun n => (hrows n).2.2) heven
  · intro n hn
    rw [hcompleting] at hn
    exact h.others hn
  · exact (h.footing w).congr hcompleting (hcloses'.trans hcloses.symm) (fun n => (hrows n).1) (fun n => (hrows n).2.1)
      fun n => (hrows n).2.2
  · intro v _ hfoot
    exact hfoot.congr (fun _ => rfl) rfl (fun n => (hrows n).1) (fun n => (hrows n).2.1) fun n => (hrows n).2.2

lemma Orderly.step (h : Orderly s) (haln : Alone calls s (w,a)) (hstep : Purchase.step m calls s (w,a)=some t) :
    Orderly t := by
  obtain ⟨op,r,hdoes,hperf,rfl⟩ := step_does hstep
  cases hdoes.orderStep with
  | leave error =>
    cases hperf
    exact h.leave error
  | commit job tradeNo sub hphase =>
    cases hperf
    exact h.commit hphase
  | read hphase hcall hview hpending hcompleting hcloses =>
    cases hperf
    exact h.read haln hphase hcall hview hpending hcompleting hcloses
  | close hcloses hcloses' hcompleting hsuccess hwhy =>
    simp only [perform] at hperf
    split at hperf
    next hfree =>
      cases hperf
      exact h.close hcloses hcloses' hcompleting hsuccess hwhy hfree
    · cases hperf
  | aside hop hcommit hcloses hleads =>
    rcases perform_cases hperf with ⟨error,rfl,rfl⟩ | ⟨hto,-,heven⟩ | ⟨job,tradeNo,sub,rfl,rfl⟩
    · exact h.leave error
    · obtain ⟨hcompleting,hcloses'⟩ := hleads _ hto
      exact h.aside hcloses hcompleting hcloses' (order_rows_of_perform hop hcommit hto hperf) heven
    · cases hcommit
end

variable {W : Type*} {m : Market} {calls : W → Call}
section
variable (rows : (k : Key) → Row k) (subs : List UserSubscription) (nextId : ℕ)
lemma counted_start (hpos : 0 < m.plan.maxPurchasePerUser) : Counted m (start rows subs nextId : Sys W) :=
  ⟨nofun,fun _ => trivial,Nat.zero_le _,hpos.le⟩

lemma solvent_start : Solvent (start rows subs nextId : Sys W) :=
  ⟨nofun,fun _ => ⟨nofun,nofun,nofun,nofun,nofun⟩,nofun⟩

lemma orderly_start : Orderly (start rows subs nextId : Sys W) :=
  ⟨nofun,fun _ => ⟨nofun,nofun,nofun⟩,nofun,fun _ => Nat.zero_le _⟩
end

variable [DecidableEq W]
/-- Whatever the calls, the rows and the failures of single statements: when no two transactions are
between the same check and its end, the limit, the wallet and the orders are respected all along. -/
theorem purchases_respected {rows : (k : Key) → Row k} {subs : List UserSubscription} {nextId : ℕ} {as : List (W × Act)}
    {s : Sys W} (h : Runs (step m calls) (Alone calls) (start rows subs nextId) as s) : Respected m s.log where
  limit hpos := by
    have hcoun : Counted m s :=
      h.invariant (Counted m) (fun _ _ _ hs haln hstep => hs.step hpos haln hstep) (counted_start rows subs nextId hpos)
    exact hcoun.limit
  wallet := by
    have hsolv : Solvent s := h.invariant Solvent (fun _ _ _ hs haln hstep => hs.step haln hstep) (solvent_start rows subs nextId)
    exact hsolv.wallet
  order := by
    have hord : Orderly s := h.invariant Orderly (fun _ _ _ hs haln hstep => hs.step haln hstep) (orderly_start rows subs nextId)
    exact hord.once

def Phase.isOutside : Phase → Bool
  | .idle | .done _ => true
  | _ => false

lemma Phase.not_within_of_isOutside {p : Phase} (h : p.isOutside=true) :
    p.isCounted=false ∧ p.isCharging=false ∧ ∀ n, p.isCompleting n=false := by
  cases p with
  | idle | done => exact ⟨rfl,rfl,fun _ => rfl⟩
  | _ => cases h

def InTurn (s : Sys W) (a : W × Act) : Prop := ∀ v, v≠a.1 → (s.phase v).isOutside=true

omit [DecidableEq W] in
lemma alone_of_inTurn {s : Sys W} {a : W × Act} (h : InTurn s a) : Alone calls s a where
  count job hjob v := by
    by_cases hv : v=a.1
    · rw [hv,hjob]
      rfl
    · exact (Phase.not_within_of_isOutside (h v hv)).1
  balance q hq v := by
    by_cases hv : v=a.1
    · rw [hv,hq]
      rfl
    · exact (Phase.not_within_of_isOutside (h v hv)).2.1
  order n _ _ _ hidle _ v := by
    by_cases hv : v=a.1
    · rw [hv,hidle]
      rfl
    · exact (Phase.not_within_of_isOutside (h v hv)).2.2 n

open Recharge (TopUpStatus PaymentProvider)

def shop (maxPurchasePerUser : ℤ) : Market where
  loc := GoStd.utc
  userId := 1
  plan := {
    id := 1
    durationUnit := .hour
    durationValue := 1
    customSeconds := 0
    enabled := true
    allowWalletOverflow := none
    maxPurchasePerUser := maxPurchasePerUser
    upgradeGroup := ""
    downgradeGroup := ""
    totalAmount := 0
    quotaResetPeriod := ""
    quotaResetCustomSeconds := 0
    totalAmount_lt := zero_lt_cap }
  priceAmount := 100
  allowBalancePay := none
  quotaPerUnit := 1

def shopRows : (k : Key) → Row k
  | .user => some { User.blank "user" with quota := 150 }
  | .order "order" => some ⟨1,1,100,"alipay",.epay,.pending,100,0,""⟩
  | .order _ | .topUp _ | .code _ => none

def shopping (maxPurchasePerUser : ℤ) (call : Call) (turns : List (Fin 2)) : Option (Sys (Fin 2)) :=
  exec (step (shop maxPurchasePerUser) fun _ => call) (start shopRows [] 1)
    (turns.map fun w => (w,.run 100 (if w=0 then "first" else "second")))

instance (s : Sys (Fin 2)) (a : Fin 2 × Act) : Decidable (InTurn s a) :=
  inferInstanceAs (Decidable (∀ v, v≠a.1 → (s.phase v).isOutside=true))

def purchasesInTurn : List (Fin 2) := replicate 8 0++replicate 2 1

/-- There is not enough left for the second purchase. -/
theorem second_purchase_refused : ∃ s, shopping 1 .purchase purchasesInTurn=some s ∧
    Respected (shop 1) s.log ∧ s.log=[(0,.created (some "first")),(0,.charged 50)] ∧
    (s.phase 1).isOutside=true := by
  obtain ⟨s,hs,hruns,hend⟩ := checked_run (step (shop 1) fun _ => .purchase) InTurn (start shopRows [] 1)
    (purchasesInTurn.map fun w => (w,.run 100 (if w=0 then "first" else "second")))
    (fun s => s.log=[(0,.created (some "first")),(0,.charged 50)] ∧ (s.phase 1).isOutside=true) (by decide +kernel)
  exact ⟨s,hs,purchases_respected (hruns.imp fun _ _ => alone_of_inTurn),hend⟩

/-- Two bindings count before either inserts, two purchases read the balance before either charges,
and two completions read the order before either closes it. -/
theorem purchases_overlap :
    (shopping 1 .bind ([0,0,1,1]++replicate 3 0++replicate 3 1)).map (·.log) =
      some [(0,.created none),(1,.created none)] ∧
    (shopping 0 .purchase ([0,0,1,1]++replicate 5 0++replicate 5 1)).map (·.log) =
      some [(0,.created (some "first")),(0,.charged 50),(1,.created (some "second")),(1,.charged (-50))] ∧
    (shopping 0 (.complete "order" "" none "") ([0,1]++replicate 6 0++replicate 6 1)).map (·.log) =
      some [(0,.created (some "order")),(1,.created (some "order"))] := by refine ⟨?_,?_,?_⟩ <;> decide +kernel
end AronaApi.Purchase
