import AronaApi.Recharge.Order
import AronaApi.Lib.Interleave
import AronaApi.Lib.RowStore
import Mathlib

/-! Deliveries of one order's completion, running on several nodes. A delivery holds its node's
`LockOrder` mutex around one transaction; each of its SQL statements is a step. The `SELECT` locks no
row: `gorm:query_option` is ignored.

When a paid order is credited once. The status check and the writes are separate statements, so
the argument needs that no two deliveries are inside the window between them; `LockOrder` gives that
on one node and nothing gives it across nodes. -/
namespace AronaApi.Recharge

inductive Key
  | order
  | user (id : ℕ)
  deriving DecidableEq

abbrev Row : Key → Type
  | .order => TopUp
  | .user _ => Option User

structure Job (N : Type*) where
  node : N
  delivery : Delivery

structure Shared (W N : Type*) where
  db : RowStore W Key Row
  held : N → Option W

/-- `rows` is what the `UPDATE` of the user's row matched. -/
inductive Phase
  | idle
  | locked
  | selected (topUp : TopUp)
  | saved (topUp : TopUp)
  | crediting (topUp : TopUp) (setEmail : Bool)
  | credited (topUp : TopUp) (rows : ℕ)
  | closing (error : Option String)
  | done (error : Option String)
  deriving DecidableEq

/-- Each statement may fail with an error of the database, which rolls the transaction back. -/
inductive Act
  | lock
  | select (error : Option String)
  | save (now : ℤ) (error : Option String)
  | readUser (error : Option String)
  | credit (error : Option String)
  | commit (error : Option String)
  | unlock
  deriving DecidableEq

inductive Event
  | credited (rows : ℕ)

section
variable {W N : Type*} [DecidableEq W] [DecidableEq N] (cfg : Config) (job : W → Job N) (w : W)
  (s : Shared W N)

def rollback (message : String) : Shared W N × Phase × List Event :=
  ({ s with db := s.db.abort w },.closing (some ((job w).delivery.report message)),[])

def next : Phase → Act → Option (Shared W N × Phase × List Event)
  | .idle,.lock =>
    if s.held (job w).node=none then some ({ s with held := Function.update s.held (job w).node (some w) },.locked,[])
    else none
  | .locked,.select (some _) => some (rollback job w s "充值订单不存在")
  | .locked,.select none =>
    let topUp := s.db.view w .order
    match (job w).delivery.examine cfg topUp with
    | .reject message => some (rollback job w s message)
    | .already => some ({ s with db := s.db.commit w },.closing none,[])
    | .proceed => some (s,.selected topUp,[])
  | .selected topUp,.save now none =>
    (s.db.update w .order fun _ => topUp.complete now).map fun db =>
      ({ s with db := db },if (job w).delivery.readsUser then .saved (topUp.complete now)
        else .crediting (topUp.complete now) false,[])
  | .saved topUp,.readUser none =>
    match s.db.view w (.user topUp.userId) with
    | none => some (rollback job w s "record not found")
    | some user => some (s,.crediting topUp (decide (user.email = "")),[])
  | .crediting topUp setEmail,.credit none =>
    (s.db.updateWhere w (.user topUp.userId) Option.isSome
      (Option.map fun u => (job w).delivery.creditUser cfg topUp setEmail u)).map fun r =>
        ({ s with db := r.1 },.credited topUp r.2,[])
  | .credited _ rows,.commit none => some ({ s with db := s.db.commit w },.closing none,[.credited rows])
  | .selected _,.save _ (some error) | .saved _,.readUser (some error)
  | .crediting _ _,.credit (some error) | .credited _ _,.commit (some error) => some (rollback job w s error)
  | .closing error,.unlock => some ({ s with held := Function.update s.held (job w).node none },.done error,[])
  | _,_ => none
end

abbrev Sys (W N : Type*) := Interleave W (Shared W N) Phase Event

def step {W N : Type*} [DecidableEq W] [DecidableEq N] (cfg : Config) (job : W → Job N) :
    Sys W N → W × Act → Option (Sys W N) :=
  Interleave.step fun w => next cfg job w

structure Scene where
  order : TopUp
  users : ℕ → Option User
  pending : order.status=.pending
  payer : User
  exists_payer : users order.userId=some payer

def Scene.rows (sc : Scene) : (k : Key) → Row k
  | .order => sc.order
  | .user id => sc.users id

def Scene.init (W N : Type*) (sc : Scene) : Sys W N := Interleave.start ⟨RowStore.quiet sc.rows,fun _ => none⟩ .idle

open Schedule Interleave RowStore Function Phase
variable {W N : Type*}
/-- The delivery has read the order as pending and has not ended its transaction. -/
def Phase.isOpen : Phase → Bool
  | .selected _ | .saved _ | .crediting _ _ | .credited _ _ => true
  | _ => false

/-- Between `LockOrder` and `UnlockOrder`. -/
def Phase.inside : Phase → Bool
  | .idle | .done _ => false
  | _ => true

lemma Phase.inside_of_isOpen {p : Phase} (h : p.isOpen=true) : p.inside=true := by
  cases p <;> first | rfl | cases h

def credits (log : List (W × Event)) : List W :=
  log.flatMap fun e => match e.2 with
    | .credited rows => List.replicate rows e.1

@[simp] lemma credits_append_one (log : List (W × Event)) (w : W) :
    credits (log++[(w,.credited 1)])=credits log++[w] := by simp [credits]

/-- A delivery reads the order while no other one is between its own reading and its end. -/
def Exclusive (s : Sys W N) (x : W × Act) : Prop :=
  x.2=.select none → ∀ v, v≠x.1 → (s.phase v).isOpen=false

instance [Fintype W] [DecidableEq W] (s : Sys W N) (x : W × Act) : Decidable (Exclusive s x) :=
  inferInstanceAs (Decidable (_ → _))

section
variable (cfg : Config) (job : W → Job N) (sc : Scene)
/-- The user's row after the credit of delivery `w`. -/
def Scene.Credited (w : W) (row : Option User) : Prop :=
  ∃ setEmail, row=some ((job w).delivery.creditUser cfg sc.order setEmail sc.payer)

def Scene.Image (db : RowStore W Key Row) (w : W) : Phase → Prop
  | .selected t => t=sc.order ∧ ∀ k, db.owner k=none
  | .saved t | .crediting t _ => (∃ now, t=sc.order.complete now) ∧ db.owner .order=some w ∧
      db.pending .order=t ∧ ∀ id, db.owner (.user id)=none
  | .credited t rows => (∃ now, t=sc.order.complete now) ∧ rows=1 ∧ db.owner .order=some w ∧
      db.pending .order=t ∧ db.owner (.user sc.order.userId)=some w ∧
      sc.Credited cfg job w (db.pending (.user sc.order.userId)) ∧
      ∀ id, id≠sc.order.userId → db.owner (.user id)=none
  | _ => False

/-- The three states of the order's account: untouched, under one open delivery, and paid. -/
inductive Account (s : Sys W N) : Prop
  | waiting (rows : s.shared.db.committed=sc.rows) (free : ∀ k, s.shared.db.owner k=none)
      (none_paid : credits s.log=[]) (closed : ∀ v, (s.phase v).isOpen=false)
  | opened (w : W) (rows : s.shared.db.committed=sc.rows) (none_paid : credits s.log=[])
      (only : ∀ v, (s.phase v).isOpen=true ↔ v=w)
      (image : sc.Image cfg job s.shared.db w (s.phase w))
  | paid (w : W) (order : ∃ now, s.shared.db.committed .order=sc.order.complete now)
      (user : sc.Credited cfg job w (s.shared.db.committed (.user sc.order.userId)))
      (others : ∀ id, id≠sc.order.userId → s.shared.db.committed (.user id)=sc.users id)
      (free : ∀ k, s.shared.db.owner k=none) (paid_once : credits s.log=[w])
      (closed : ∀ v, (s.phase v).isOpen=false)

lemma account_init : Account cfg job sc (sc.init W N) :=
  .waiting rfl (fun _ => rfl) rfl (fun _ => rfl)
end

variable {cfg : Config} {job : W → Job N} {sc : Scene} {db : RowStore W Key Row} {w : W} {p : Phase}
lemma Scene.Image.owner (h : sc.Image cfg job db w p) (k : Key) : db.owner k=none ∨ db.owner k=some w := by
  cases p with
  | idle | locked | closing | done => exact h.elim
  | selected t => exact .inl (h.2 k)
  | saved t | crediting t =>
    obtain ⟨-,hord,-,husr⟩ := h
    cases k with
    | order => exact .inr hord
    | user id => exact .inl (husr id)
  | credited t rows =>
    obtain ⟨-,-,hord,-,huser,-,husr⟩ := h
    cases k with
    | order => exact .inr hord
    | user id =>
      by_cases hid : id=sc.order.userId
      · rw [hid]; exact .inr huser
      · exact .inl (husr id hid)

namespace Account
variable {s : Sys W N}
lemma not_owner (h : Account cfg job sc s) (hw : (s.phase w).isOpen=false) (k : Key) : s.shared.db.owner k≠some w := by
  cases h with
  | waiting _ free | paid _ _ _ _ free => simp [free k]
  | opened v _ _ only image =>
    rcases image.owner k with hk | hk
    · simp [hk]
    rw [hk]
    rintro ⟨⟩
    rw [(only w).mpr rfl] at hw
    cases hw

lemma opened_of_isOpen (h : Account cfg job sc s) (hw : (s.phase w).isOpen=true) :
    s.shared.db.committed=sc.rows ∧ credits s.log=[] ∧ (∀ v, v≠w → (s.phase v).isOpen=false) ∧
      sc.Image cfg job s.shared.db w (s.phase w) := by
  cases h with
  | waiting _ _ _ closed | paid _ _ _ _ _ _ closed => rw [closed w] at hw; cases hw
  | opened v rows none_paid only image =>
    obtain rfl := (only w).mp hw
    exact ⟨rows,none_paid,fun v hv => Bool.eq_false_iff.mpr fun hc => hv ((only v).mp hc),image⟩

lemma credited_once (h : Account cfg job sc s) : (credits s.log).length≤1 ∧
      ((s.shared.db.committed .order).status=.success ↔ credits s.log≠[]) ∧
      (credits s.log=[] → s.shared.db.committed (.user sc.order.userId)=some sc.payer) ∧
      ∀ w∈credits s.log, sc.Credited cfg job w (s.shared.db.committed (.user sc.order.userId)) := by
  have hfresh (rows : s.shared.db.committed=sc.rows) : (s.shared.db.committed .order).status≠.success ∧
      s.shared.db.committed (.user sc.order.userId)=some sc.payer := by
    rw [rows]
    refine ⟨fun hs => ?_,sc.exists_payer⟩
    cases sc.pending.symm.trans hs
  cases h with
  | waiting rows free none_paid closed | opened w rows none_paid only image => simp [none_paid,hfresh rows]
  | paid w order user others free paid_once closed =>
    obtain ⟨now,hord⟩ := order
    simp [paid_once,hord,TopUp.complete,user]

variable [DecidableEq W] {sh : Shared W N} {p' : Phase}
section
variable (h : Account cfg job sc s) {rows : ℕ} {t : TopUp}
include h
lemma frame (hw : (s.phase w).isOpen=false) (hp' : p'.isOpen=false)
    (hdb : sh.db=s.shared.db) : Account cfg job sc (s.advance w (sh,p',[])) := by
  obtain ⟨db,held⟩ := sh
  obtain rfl : db=_ := hdb
  cases h with
  | waiting rows free none_paid closed =>
    exact .waiting rows free (by simpa using none_paid) (closed_advance isOpen (fun v _ => closed v) hp')
  | paid v order user others free paid_once closed =>
    exact .paid v order user others free (by simpa using paid_once)
      (closed_advance isOpen (fun v _ => closed v) hp')
  | opened v rows none_paid only image =>
    obtain ⟨hv,honly⟩ := only_frame (r := (_,p',[])) isOpen only hw hp'
    exact .opened v rows (by simpa using none_paid) honly (by rwa [advance_phase_of_ne _ _ hv])

lemma proceed (hw : (s.phase w).isOpen=true) (hp' : p'.isOpen=true) (hrows : sh.db.committed=s.shared.db.committed)
    (himg : sc.Image cfg job s.shared.db w (s.phase w) → sc.Image cfg job sh.db w p') :
    Account cfg job sc (s.advance w (sh,p',[])) := by
  obtain ⟨rows,none_paid,others,image⟩ := h.opened_of_isOpen hw
  refine .opened w (hrows.trans rows) (by simpa using none_paid) (only_advance isOpen others hp') ?_
  rw [advance_phase_self]
  exact himg image

lemma rollback (message : String) : Account cfg job sc (s.advance w (Recharge.rollback job w s.shared message)) := by
  cases hw : (s.phase w).isOpen with
  | false => exact h.frame hw rfl (abort_of_not_owner fun k => h.not_owner hw k)
  | true =>
    obtain ⟨rows,none_paid,others,image⟩ := h.opened_of_isOpen hw
    refine .waiting rows (fun k => ?_) (by simpa [Recharge.rollback] using none_paid)
      (closed_advance isOpen others rfl)
    rcases image.owner k with hk | hk <;> simp [Recharge.rollback,hk]

lemma select (hw : (s.phase w).isOpen=false) (hexcl : ∀ v, v≠w → (s.phase v).isOpen=false)
    (hpending : (s.shared.db.view w .order).status=.pending) :
    Account cfg job sc (s.advance w (s.shared,.selected (s.shared.db.view w .order),[])) := by
  have hview : s.shared.db.view w .order=s.shared.db.committed .order :=
    view_of_not_owner (h.not_owner hw .order)
  cases h with
  | waiting rows free none_paid closed =>
    refine .opened w rows (by simpa using none_paid) (only_advance isOpen hexcl rfl) ?_
    rw [advance_phase_self]
    exact ⟨by rw [hview,rows]; rfl,free⟩
  | opened v rows none_paid only image =>
    have hv := (only v).mpr rfl
    by_cases hvw : v=w
    · rw [hvw,hw] at hv; cases hv
    · rw [hexcl v hvw] at hv; cases hv
  | paid v order =>
    obtain ⟨now,hord⟩ := order
    rw [hview,hord] at hpending
    cases hpending

lemma credit {setEmail : Bool} (hp : s.phase w=.crediting t setEmail)
    (hupd : s.shared.db.updateWhere w (.user t.userId) Option.isSome
      (Option.map fun u => (job w).delivery.creditUser cfg t setEmail u)=some (db,rows)) :
    Account cfg job sc (s.advance w ({ s.shared with db := db },.credited t rows,[])) := by
  have hopen : (s.phase w).isOpen=true := by rw [hp]; rfl
  obtain ⟨hrows,-,-,himg⟩ := h.opened_of_isOpen hopen
  rw [hp] at himg
  obtain ⟨⟨now,rfl⟩,hord,hpending,husr⟩ := himg
  have hview : s.shared.db.view w (.user sc.order.userId)=some sc.payer := by
    rw [view_of_not_owner (by simp [husr]),hrows]
    exact sc.exists_payer
  obtain ⟨-,-,rfl,rfl⟩ | ⟨hmiss,-⟩ := updateWhere_eq_some.mp hupd
  · refine h.proceed hopen rfl rfl fun _ => ⟨⟨now,rfl⟩,rfl,?_,?_,?_,⟨setEmail,?_⟩,fun id hid => ?_⟩
    · rw [write_owner_of_ne _ _ _ (by simp)]; exact hord
    · rw [write_pending_of_ne _ _ _ (by simp)]; exact hpending
    · exact write_owner_self _ _ _ _
    · refine (write_pending_self _ _ _ _).trans ?_
      change Option.map _ (s.shared.db.view w (.user sc.order.userId))=_
      rw [hview]
      simp
    · rw [write_owner_of_ne _ _ _ (by simpa [TopUp.complete] using hid)]; exact husr id
  · change Option.isSome (s.shared.db.view w (.user sc.order.userId))=false at hmiss
    rw [hview] at hmiss
    cases hmiss

lemma commit (hp : s.phase w=.credited t rows) : Account cfg job sc (s.advance w
      ({ s.shared with db := s.shared.db.commit w },.closing none,[.credited rows])) := by
  obtain ⟨hrows,none_paid,others,himg⟩ := h.opened_of_isOpen (by rw [hp]; rfl)
  have hfree := himg.owner
  rw [hp] at himg
  obtain ⟨⟨now,rfl⟩,rfl,hord,hpending,huser,hcred,husr⟩ := himg
  refine .paid w ⟨now,?_⟩ ?_ (fun id hid => ?_) (fun k => ?_) (by simp [none_paid])
    (closed_advance isOpen others rfl)
  · exact (view_of_owner hord).trans hpending
  · change sc.Credited cfg job w (s.shared.db.view w (.user sc.order.userId))
    rw [view_of_owner huser]
    exact hcred
  · change s.shared.db.view w (.user id)=_
    rw [view_of_not_owner (by simp [husr id hid]),hrows]
    rfl
  · rcases hfree k with hk | hk <;> simp [hk]
end
end Account

section
variable [DecidableEq W] [DecidableEq N] {s t : Sys W N}
variable {x : W × Act}
lemma account_step (h : Account cfg job sc s) (hexcl : Exclusive s x)
    (hx : step cfg job s x=some t) : Account cfg job sc t := by
  obtain ⟨w,a⟩ := x
  obtain ⟨r,hnext,rfl⟩ := step_eq_some.mp hx
  generalize hp : s.phase w=p at hnext
  unfold next at hnext
  split at hnext
  case h_1 =>
    split at hnext
    · cases hnext
      exact h.frame (by rw [hp]; rfl) rfl rfl
    · cases hnext
  case h_2 => cases hnext; exact h.rollback _
  case h_3 =>
    have hw : (s.phase w).isOpen=false := by rw [hp]; rfl
    simp only at hnext
    split at hnext
    next => cases hnext; exact h.rollback _
    next =>
      cases hnext
      exact h.frame hw rfl (commit_of_not_owner fun k => h.not_owner hw k)
    next hgo =>
    cases hnext
    exact h.select hw (hexcl rfl) (Delivery.pending_of_proceed hgo)
  case h_4 topUp now =>
    obtain ⟨db,hdb,rfl⟩ := Option.map_eq_some_iff.mp hnext
    obtain ⟨-,rfl⟩ := update_eq_some.mp hdb
    refine h.proceed (by rw [hp]; rfl) (by split <;> rfl) rfl fun himg => ?_
    rw [hp] at himg
    obtain ⟨rfl,hfree⟩ := himg
    have hsvd : (∃ now', sc.order.complete now=sc.order.complete now') ∧
        (s.shared.db.write w .order (sc.order.complete now)).owner .order=some w ∧
        (s.shared.db.write w .order (sc.order.complete now)).pending .order=sc.order.complete now ∧
        ∀ id, (s.shared.db.write w .order (sc.order.complete now)).owner (.user id)=none := by
      refine ⟨⟨now,rfl⟩,write_owner_self _ _ _ _,write_pending_self _ _ _ _,fun id => ?_⟩
      rw [write_owner_of_ne _ _ _ (by simp)]
      exact hfree _
    split <;> exact hsvd
  case h_5 topUp =>
    split at hnext
    next => cases hnext; exact h.rollback _
    next =>
      cases hnext
      refine h.proceed (by rw [hp]; rfl) rfl rfl fun himg => ?_
      rw [hp] at himg
      exact himg
  case h_6 topUp setEmail =>
    obtain ⟨⟨db,rows⟩,hdb,rfl⟩ := Option.map_eq_some_iff.mp hnext
    exact h.credit hp hdb
  case h_7 => cases hnext; exact h.commit hp
  case h_8 | h_9 | h_10 | h_11 => cases hnext; exact h.rollback _
  case h_12 =>
    cases hnext
    exact h.frame (by rw [hp]; rfl) rfl rfl
  case h_13 => cases hnext

/-- In every run in which an order is only read while no other delivery has read it and is still
open: its user is credited at most once, and the order is `success` exactly when it was. -/
theorem credited_at_most_once_of_exclusive (cfg : Config) (job : W → Job N) (sc : Scene)
    {as : List (W × Act)} {t : Sys W N} (h : Runs (step cfg job) Exclusive (sc.init W N) as t) :
    (credits t.log).length≤1 ∧ ((t.shared.db.committed .order).status=.success ↔ credits t.log≠[]) ∧
      (credits t.log=[] → t.shared.db.committed (.user sc.order.userId)=some sc.payer) ∧
      ∀ w∈credits t.log, sc.Credited cfg job w (t.shared.db.committed (.user sc.order.userId)) := by
  have hinv : Account cfg job sc t :=
    h.invariant (Account cfg job sc) (fun _ _ _ hs hexcl hx => account_step hs hexcl hx) (account_init cfg job sc)
  exact hinv.credited_once

lemma next_held {sh sh' : Shared W N} {p' : Phase} {a : Act} {ev : List Event}
    (h : next cfg job w sh p a=some (sh',p',ev)) :
    (sh.held (job w).node=none ∧ sh'.held=update sh.held (job w).node (some w)) ∨
      (p.inside=true ∧ p'.inside=false ∧ sh'.held=update sh.held (job w).node none) ∨
      (p.inside=true ∧ sh'.held=sh.held) := by
  unfold next at h
  split at h
  case h_1 =>
    split at h
    next hfree => cases h; exact .inl ⟨hfree,rfl⟩
    next => cases h
  case h_3 =>
    simp only at h
    split at h <;> (cases h; exact .inr (.inr ⟨rfl,rfl⟩))
  case h_4 | h_6 =>
    obtain ⟨db,-,h⟩ := Option.map_eq_some_iff.mp h
    cases h
    exact .inr (.inr ⟨rfl,rfl⟩)
  case h_5 => split at h <;> (cases h; exact .inr (.inr ⟨rfl,rfl⟩))
  case h_2 | h_7 | h_8 | h_9 | h_10 | h_11 => cases h; exact .inr (.inr ⟨rfl,rfl⟩)
  case h_12 => cases h; exact .inr (.inl ⟨rfl,rfl,rfl⟩)
  case h_13 => cases h

def Mutex (job : W → Job N) (s : Sys W N) : Prop :=
  ∀ v, (s.phase v).inside=true → s.shared.held (job v).node=some v

lemma mutex_step (h : Mutex job s) (hx : step cfg job s x=some t) : Mutex job t := by
  obtain ⟨w,a⟩ := x
  obtain ⟨⟨sh,p',ev⟩,hnext,rfl⟩ := step_eq_some.mp hx
  have hheld := next_held hnext
  intro v hv
  by_cases hvw : v=w
  · subst v
    rw [advance_phase_self] at hv
    rcases hheld with ⟨-,hset⟩ | ⟨-,hout,-⟩ | ⟨hin,hsame⟩
    · simp [hset]
    · rw [hout] at hv; cases hv
    · simpa [hsame] using h w hin
  rw [advance_phase_of_ne _ _ hvw] at hv
  have hmine := h v hv
  have hnode (hnot : s.shared.held (job w).node=none ∨ s.shared.held (job w).node=some w) :
      (job v).node≠(job w).node := by
    intro hsame
    rw [hsame] at hmine
    rcases hnot with hn | hn
    · simp [hn] at hmine
    · exact hvw (Option.some.inj (hmine.symm.trans hn))
  rcases hheld with ⟨hfree,hset⟩ | ⟨hin,-,hset⟩ | ⟨-,hsame⟩
  · simpa [hset,update_of_ne (hnode (.inl hfree))] using hmine
  · simpa [hset,update_of_ne (hnode (.inr (h w hin)))] using hmine
  · simpa [hsame] using hmine

lemma exclusive_of_mutex (hnode : ∀ v w, (job v).node=(job w).node) (h : Mutex job s) (hx : step cfg job s x=some t) :
    Exclusive s x := by
  obtain ⟨w,a⟩ := x
  rintro rfl v hv
  obtain ⟨⟨sh,p',ev⟩,hnext,-⟩ := step_eq_some.mp hx
  have hin : (s.phase w).inside=true := by
    generalize s.phase w=p at hnext
    cases p <;> first | rfl | cases hnext
  refine Bool.eq_false_iff.mpr fun hopen => hv ?_
  have hheld := h v (inside_of_isOpen hopen)
  rw [hnode v w,h w hin] at hheld
  exact (Option.some.inj hheld).symm

/-- On one node an order is credited at most once, in any order of the deliveries' steps. -/
theorem single_node_credited_once (cfg : Config) (job : W → Job Unit) (sc : Scene) (xs : List (W × Act)) :
    let t := xs.foldl (fun s x => (step cfg job s x).getD s) (sc.init W Unit)
    (credits t.log).length≤1 ∧ ((t.shared.db.committed .order).status=.success ↔ credits t.log≠[]) := by
  intro t
  have hinv : Account cfg job sc t ∧ Mutex job t := by
    refine xs.foldlRecOn (motive := fun s => Account cfg job sc s ∧ Mutex job s) _
      ⟨account_init cfg job sc,fun v hv => by cases hv⟩ ?_
    rintro s ⟨hs,hm⟩ x -
    cases hx : step cfg job s x with
    | none => exact ⟨hs,hm⟩
    | some t => exact ⟨account_step hs (exclusive_of_mutex (fun _ _ => rfl) hm hx) hx,mutex_step hm hx⟩
  exact ⟨hinv.1.credited_once.1,hinv.1.credited_once.2.1⟩
end

def creemScene : Scene where
  order := ⟨7,500,5,.creem,0,.pending⟩
  users := fun id => if id=7 then some (.blank "payer") else none
  pending := rfl
  payer := .blank "payer"
  exists_payer := rfl

def creemJobs (w : Fin 2) : Job (Fin 2) := ⟨w,.rechargeCreem ""⟩

def creemConfig : Config := ⟨500000,.ideal,Rat.floor⟩

def oneAfterTheOther : List (Fin 2 × Act) :=
  [(0,.lock),(1,.lock),(0,.select none),(0,.save 1800000000 none),(0,.credit none),(0,.commit none),
    (1,.select none),(0,.unlock),(1,.unlock)]

theorem oneAfterTheOther_credits_once :
    ∃ t, exec (step creemConfig creemJobs) (creemScene.init (Fin 2) (Fin 2)) oneAfterTheOther=some t ∧
      credits t.log=[0] ∧ (credits t.log).length≤1 ∧
      ((t.shared.db.committed .order).status=.success ↔ credits t.log≠[]) ∧
      (credits t.log=[] → t.shared.db.committed (.user creemScene.order.userId)=some creemScene.payer) ∧
      ∀ w∈credits t.log, creemScene.Credited creemConfig creemJobs w
        (t.shared.db.committed (.user creemScene.order.userId)) := by
  obtain ⟨t,hexec,hruns,hcred⟩ := checked_run (step creemConfig creemJobs) Exclusive
    (creemScene.init (Fin 2) (Fin 2)) oneAfterTheOther (fun t => credits t.log=[0]) (by decide)
  exact ⟨t,hexec,hcred,credited_at_most_once_of_exclusive _ _ _ hruns⟩

def bothReadPending : List (Fin 2 × Act) :=
  [(0,.lock),(1,.lock),(0,.select none),(1,.select none),(0,.save 1800000000 none),(0,.credit none),(0,.commit none),
    (1,.save 1800000001 none),(1,.credit none),(1,.commit none)]

/-- One payment of 500 is credited twice. -/
theorem bothReadPending_credits_twice :
    ∃ t, Runs (step creemConfig creemJobs) (fun _ _ => True) (creemScene.init (Fin 2) (Fin 2))
        bothReadPending t ∧
      credits t.log=[0,1] ∧ (t.shared.db.committed (.user 7)).map User.quota=some 1000 := by
  obtain ⟨t,-,hend⟩ := checked_run (step creemConfig creemJobs) (fun _ _ => True) (creemScene.init (Fin 2) (Fin 2))
    bothReadPending
    (fun t => credits t.log=[0,1] ∧ (t.shared.db.committed (.user 7)).map User.quota=some 1000) (by decide)
  exact ⟨t,hend⟩
end AronaApi.Recharge
