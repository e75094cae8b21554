import AronaApi.Purchase.Transactions
import AronaApi.Subscription.Usage

/-! What each statement of a purchase can do, said once. -/
namespace AronaApi.Purchase
open GoStd Subscription
open Redeem (Redemption)
variable {m : Market} {call : Call} {view : (k : Key) → Row k} {count : ℕ} {now : ℤ} {fresh : String} {p : Phase} {op : Op}
structure Admitted (m : Market) (count : ℕ) (sub : UserSubscription) : Prop where
  userId_eq : sub.userId=m.userId
  planId_eq : sub.planId=m.plan.id
  limit : 0 < m.plan.maxPurchasePerUser → (count : ℤ) < m.plan.maxPurchasePerUser

variable {sub : UserSubscription}
lemma Admitted.withId (h : Admitted m count sub) (id : ℕ) : Admitted m count { sub with id := id } :=
  ⟨h.userId_eq,h.planId_eq,h.limit⟩

lemma admitted_of_ok {source currentGroup : String} {group : Option String}
    (h : newUserSubscription m.loc now 0 m.userId m.plan source currentGroup count=.ok (sub,group)) :
    Admitted m count sub := by
  obtain ⟨huser,hplan,-⟩ := newUserSubscription_spec h
  refine ⟨huser,hplan,?_⟩
  intro hpos
  by_contra hfull
  unfold newUserSubscription at h
  split at h
  · cases h
  split at h
  · cases h
  rw [if_pos ⟨hpos,not_lt.mp hfull⟩] at h
  cases h

/-- The statements by the phase they start from. A row is named by what the statement read or writes. -/
inductive Does (m : Market) (call : Call) (view : (k : Key) → Row k) (count : ℕ) : Phase → Op → Prop
  | leave (p : Phase) (error : Option String) : Does m call view count p (.leave error)
  | checkPlan (requiredQuota : ℤ) : Does m call view count .idle (.goto (.balance requiredQuota))
  | readOrder {tradeNo payload expected method order} (hcall : call=.complete tradeNo payload expected method)
      (hview : view (.order tradeNo)=some order) (hpending : order.status=.pending) :
      Does m call view count .idle (.goto (create m (.complete tradeNo order)))
  | bind : Does m call view count .idle (.goto (create m .bind))
  | readCode (r : Redemption) (now : ℤ) : Does m call view count .idle (.goto (.claiming r now))
  | enough {requiredQuota user} (hview : view .user=some user) (hpos : 0 < requiredQuota)
      (henough : requiredQuota≤user.quota) :
      Does m call view count (.balance requiredQuota) (.goto (.charging requiredQuota))
  | free {requiredQuota} (hfree : requiredQuota≤0) :
      Does m call view count (.balance requiredQuota) (.goto (create m (.purchase requiredQuota)))
  | charge {requiredQuota user} (hview : view .user=some user) :
      Does m call view count (.charging requiredQuota)
        (.write .user (some (user.addQuota (-requiredQuota))) (create m (.purchase requiredQuota)))
  | claim (key : String) (r current : Redemption) (now : ℤ) :
      Does m call view count (.claiming r now) (.write (.code key) (some current) (.claimed r))
  | grants {r} (hpos : 0 < r.quota) : Does m call view count (.claimed r) (.goto (.granting r))
  | redeem (r : Redemption) : Does m call view count (.claimed r) (.goto (create m (.redeem r)))
  | grant {r user} (hview : view .user=some user) :
      Does m call view count (.granting r)
        (.write .user (some (user.addQuota r.quota)) (.committing (.redeem r) none none))
  | count (job : Job) : Does m call view count (.counting job) (.goto (.counted job count))
  | room {job n sub} (hsub : Admitted m n sub) : Does m call view count (.counted job n) (.goto (.inserting job sub))
  | readGroup (job : Job) (n : ℕ) (dbNow : ℤ) :
      Does m call view count (.counted job n) (.goto (.readingGroup job n dbNow))
  | stay {job n dbNow sub} (hsub : Admitted m n sub) :
      Does m call view count (.readingGroup job n dbNow) (.goto (.inserting job sub))
  | moves {job n dbNow sub} (hsub : Admitted m n sub) (group : String) :
      Does m call view count (.readingGroup job n dbNow) (.goto (.movingGroup job sub group))
  | move {job sub group user} (hview : view .user=some user) :
      Does m call view count (.movingGroup job sub group) (.write .user (some { user with group := group }) (.inserting job sub))
  | insert (job : Job) (sub : UserSubscription) (hjob : (∃ q, job=.purchase q) ∨ ∃ t o, job=.complete t o) :
      Does m call view count (.inserting job sub) (.insert fun id => .inserted job { sub with id := id })
  | insertLast (job : Job) (sub : UserSubscription) (hjob : job=.bind ∨ ∃ r, job=.redeem r) :
      Does m call view count (.inserting job sub) (.insert fun id => .committing job none (some { sub with id := id }))
  | order {requiredQuota tradeNo order} (sub : UserSubscription) (hview : view (.order tradeNo)=none)
      (hsuccess : order.status=.success) :
      Does m call view count (.inserted (.purchase requiredQuota) sub)
        (.write (.order tradeNo) (some order) (.committing (.purchase requiredQuota) (some tradeNo) (some sub)))
  | find (tradeNo : String) (order : SubscriptionOrder) (sub : UserSubscription) (topUp : Option TopUp) :
      Does m call view count (.inserted (.complete tradeNo order) sub) (.goto (.found tradeNo order sub topUp))
  | topUp (tradeNo : String) (order : SubscriptionOrder) (sub : UserSubscription) (topUp row : Option TopUp) :
      Does m call view count (.found tradeNo order sub topUp) (.write (.topUp tradeNo) row (.saving tradeNo order sub))
  | save {tradeNo order order'} (sub : UserSubscription) (hsuccess : order'.status=.success) :
      Does m call view count (.saving tradeNo order sub)
        (.write (.order tradeNo) (some order') (.committing (.complete tradeNo order) (some tradeNo) (some sub)))
  | commit (job : Job) (tradeNo : Option String) (sub : Option UserSubscription) :
      Does m call view count (.committing job tradeNo sub) (.commit job tradeNo sub)
  /-- the `UPDATE` of a user that is not there -/
  | chargeNobody {requiredQuota} (hview : view .user=none) :
      Does m call view count (.charging requiredQuota) (.goto (create m (.purchase requiredQuota)))
  | grantNobody (r : Redemption) : Does m call view count (.granting r) (.goto (.committing (.redeem r) none none))
  | moveNobody (job : Job) (sub : UserSubscription) (group : String) :
      Does m call view count (.movingGroup job sub group) (.goto (.inserting job sub))

lemma does_checkPlan : Does m call view count .idle (checkPlan m) := by
  unfold checkPlan
  split
  · exact .leave _ _
  split
  · exact .leave _ _
  split
  · exact .leave _ _
  split
  · exact .leave _ _
  split
  · exact .leave _ _
  · exact .checkPlan _

lemma does_checkOrder {tradeNo payload method : String} {expected : Option Recharge.PaymentProvider}
    (hcall : call=.complete tradeNo payload expected method)
    (h : checkOrder m tradeNo expected (view (.order tradeNo))=some op) : Does m call view count .idle op := by
  cases hview : view (.order tradeNo) with
  | none =>
    rw [hview] at h
    cases h
    exact .leave _ _
  | some order =>
    simp only [hview,checkOrder] at h
    split at h
    · cases h
      exact .leave _ _
    split at h
    · cases h
      exact .leave _ _
    split at h
    · cases h
      exact .leave _ _
    next hpending =>
    split at h
    · cases h
      exact .readOrder hcall hview (not_not.mp hpending)
    · cases h

lemma does_checkCode (now : ℤ) (code : Option Redemption) : Does m call view count .idle (checkCode now code) := by
  unfold checkCode
  split
  · exact .leave _ _
  split
  · exact .leave _ _
  split
  · exact .leave _ _
  · exact .readCode _ _

lemma does_dispatch {r : Redemption} (h : dispatch m r=some op) : Does m call view count (.claimed r) op := by
  unfold dispatch at h
  split at h
  · cases h
    split
    · exact .leave _ _
    · exact .grants (by omega)
  · split at h
    · cases h
    cases h
    split
    · exact .leave _ _
    · exact .redeem r
  · cases h
    exact .leave _ _

lemma does_prepare (job : Job) (n : ℕ) (dbNow : ℤ) : Does m call view count (.counted job n)
    (prepare m job n dbNow) := by
  unfold prepare
  split
  · exact .leave _ _
  next sub group hsub =>
  split
  · exact .room (admitted_of_ok hsub)
  · exact .readGroup job n dbNow

lemma does_chooseGroup (job : Job) (n : ℕ) (dbNow : ℤ) (user : Option User) :
    Does m call view count (.readingGroup job n dbNow) (chooseGroup m job n dbNow user) := by
  simp only [chooseGroup]
  split
  · exact .leave _ _
  next sub hsub => exact .stay (admitted_of_ok hsub)
  next sub group hsub => exact .moves (admitted_of_ok hsub) group

lemma does_upsertTopUp (tradeNo : String) (order : SubscriptionOrder) (sub : UserSubscription) (now : ℤ)
    (current topUp : Option TopUp) : Does m call view count (.found tradeNo order sub topUp)
      (upsertTopUp tradeNo order now (.saving tradeNo order sub) current topUp) := by
  unfold upsertTopUp
  split
  · split
    · exact .leave _ _
    · exact .topUp tradeNo order sub _ _
  split
  · exact .leave _ _
  · exact .topUp tradeNo order sub _ _

lemma does_of_stmt (h : stmt m call view count now fresh p=some op) : Does m call view count p op := by
  cases p with
  | idle =>
    cases hcall : call with
    | purchase =>
      subst hcall
      cases h
      exact does_checkPlan
    | complete tradeNo payload expected method =>
      subst hcall
      simp only [stmt] at h
      split at h
      · cases h
        exact .leave _ _
      · exact does_checkOrder rfl h
    | bind =>
      subst hcall
      cases h
      split
      · exact .leave _ _
      · exact .bind
    | redeem key =>
      subst hcall
      cases h
      split
      · exact .leave _ _
      split
      · exact .leave _ _
      · exact does_checkCode now _
  | balance requiredQuota =>
    cases h
    split
    · exact .leave _ _
    next user hview =>
    split
    · exact .leave _ _
    next henough =>
    split
    next hpos => exact .enough hview hpos (by omega)
    next hpos => exact .free (by omega)
  | charging requiredQuota =>
    cases h
    cases hview : view .user with
    | none => exact .chargeNobody hview
    | some user => exact .charge hview
  | claiming r now =>
    cases hcall : call with
    | redeem key =>
      subst hcall
      cases h
      unfold claimCode
      split
      · exact .leave _ _
      split
      · exact .claim key r _ now
      · exact .leave _ _
    | _ =>
      subst hcall
      cases h
  | claimed r => exact does_dispatch h
  | granting r =>
    cases h
    cases hview : view .user with
    | none => exact .grantNobody r
    | some user => exact .grant hview
  | counting job =>
    cases h
    exact .count job
  | counted job n =>
    cases h
    exact does_prepare job n now
  | readingGroup job n dbNow =>
    cases h
    exact does_chooseGroup job n dbNow _
  | movingGroup job sub group =>
    cases h
    cases hview : view .user with
    | none => exact .moveNobody job sub group
    | some user => exact .move hview
  | inserting job sub =>
    cases h
    cases job with
    | purchase q => exact .insert _ sub (.inl ⟨q,rfl⟩)
    | complete tradeNo order => exact .insert _ sub (.inr ⟨tradeNo,order,rfl⟩)
    | bind => exact .insertLast _ sub (.inl rfl)
    | redeem r => exact .insertLast _ sub (.inr ⟨r,rfl⟩)
  | inserted job sub =>
    cases job with
    | purchase q =>
      cases h
      split
      · exact .leave _ _
      next hnone => exact .order sub (Option.not_isSome_iff_eq_none.mp hnone) rfl
    | complete tradeNo order =>
      cases h
      exact .find tradeNo order sub _
    | bind | redeem r => cases h
  | found tradeNo order sub topUp =>
    cases h
    exact does_upsertTopUp tradeNo order sub now _ topUp
  | saving tradeNo order sub =>
    cases hcall : call with
    | complete tradeNo' payload expected method =>
      subst hcall
      cases h
      exact .save sub rfl
    | _ =>
      subst hcall
      cases h
  | committing job tradeNo sub =>
    cases h
    exact .commit job tradeNo sub
  | done error => cases h

inductive Op.Leads : Op → Phase → Prop
  | goto (p : Phase) : Op.Leads (.goto p) p
  | write (k : Key) (row : Row k) (p : Phase) : Op.Leads (.write k row p) p
  | insert (p : ℕ → Phase) (id : ℕ) : Op.Leads (.insert p) (p id)

variable {W : Type*} [DecidableEq W] {calls : W → Call} {s t : Sys W} {w : W} {a : Act}
lemma step_does (h : step m calls s (w,a)=some t) :
    ∃ op r, Does m (calls w) (s.shared.db.view w) (s.shared.count m) (s.phase w) op ∧
      perform w s.shared op=some r ∧ t=s.advance w r := by
  obtain ⟨r,hnext,rfl⟩ := Interleave.step_eq_some.mp h
  cases a with
  | run now fresh =>
    obtain ⟨op,hop,hr⟩ := Option.bind_eq_some_iff.mp hnext
    exact ⟨op,r,does_of_stmt hop,hr,rfl⟩
  | fail message =>
    simp only [next] at hnext
    split at hnext
    · cases hnext
    · exact ⟨.leave (some message),r,.leave _ _,hnext,rfl⟩

lemma perform_cases {s : Shared W} {r : Shared W × Phase × List Event} (h : perform w s op=some r) :
    (∃ error, op=.leave error ∧ r=({ s with db := s.db.abort w },.done error,[])) ∨
    (op.Leads r.2.1 ∧ r.1.subs=s.subs ∧ r.2.2=[]) ∨
    ∃ job tradeNo sub, op=.commit job tradeNo sub ∧ r=({ s with db := s.db.commit w,subs := s.subs++sub.toList },
      .done none,commitEvents (s.db.view w .user) job tradeNo sub) := by
  cases op with
  | leave error =>
    cases h
    exact .inl ⟨error,rfl,rfl⟩
  | goto p =>
    cases h
    exact .inr (.inl ⟨.goto p,rfl,rfl⟩)
  | write k row p =>
    simp only [perform] at h
    split at h
    · cases h
      exact .inr (.inl ⟨.write k row p,rfl,rfl⟩)
    · cases h
  | insert p =>
    cases h
    exact .inr (.inl ⟨.insert p _,rfl,rfl⟩)
  | commit job tradeNo sub =>
    cases h
    exact .inr (.inr ⟨job,tradeNo,sub,rfl,rfl⟩)
end AronaApi.Purchase
