import AronaApi.Purchase.Statements

/-! What the purchases keep when their critical sections do not overlap: the purchase limit, a wallet
that is not overdrawn, and one subscription for an order. Each is a check followed by a write, and
each holds as long as nobody else is between the same check and the end of its transaction. -/
namespace AronaApi.Purchase
open GoStd Subscription Schedule Interleave List
variable {W : Type*}
def Phase.isCounted : Phase → Bool
  | .counted _ _ | .readingGroup _ _ _ | .movingGroup _ _ _ | .inserting _ _ | .inserted _ _ | .found _ _ _ _
  | .saving _ _ _ | .committing _ _ (some _) => true
  | _ => false

/-- What the subscription is created for, once the transaction has set out to create it. -/
def Phase.job? : Phase → Option Job
  | .counting job | .counted job _ | .readingGroup job _ _ | .movingGroup job _ _ | .inserting job _ | .inserted job _
  | .committing job _ _ => some job
  | .found tradeNo order _ _ | .saving tradeNo order _ => some (.complete tradeNo order)
  | _ => none

/-- A purchase between reading the balance it is to charge and the end of the transaction. -/
def Phase.isCharging : Phase → Bool
  | .charging _ => true
  | p => match p.job? with
    | some (.purchase requiredQuota) => 0 < requiredQuota
    | _ => false

def Phase.isPaid (p : Phase) : Bool :=
  match p.job? with
  | some (.purchase requiredQuota) => 0 < requiredQuota
  | _ => false

/-- The completion of an order between reading it and the end of the transaction. -/
def Phase.isCompleting (tradeNo : String) (p : Phase) : Bool :=
  match p.job? with
  | some (.complete tradeNo' _) => tradeNo'=tradeNo
  | _ => false

/-- A check is made only while no other transaction is between the same check and its end. -/
structure Alone (call : W → Call) (s : Sys W) (a : W × Act) : Prop where
  count : ∀ job, s.phase a.1=.counting job → ∀ v, (s.phase v).isCounted=false
  balance : ∀ requiredQuota, s.phase a.1=.balance requiredQuota → ∀ v, (s.phase v).isCharging=false
  order : ∀ tradeNo payload expected method, s.phase a.1=.idle → call a.1=.complete tradeNo payload expected method →
    ∀ v, (s.phase v).isCompleting tradeNo=false

def creations (log : List (W × Event)) : List (W × Event) :=
  log.filter fun e => match e.2 with
    | .created _ => true
    | .charged _ => false

lemma creations_append (log log' : List (W × Event)) : creations (log++log')=creations log++creations log' :=
  filter_append _ _

def creationsFor (tradeNo : String) (log : List (W × Event)) : List (W × Event) :=
  log.filter fun e => e.2=.created (some tradeNo)

structure Respected (m : Market) (log : List (W × Event)) : Prop where
  limit : 0 < m.plan.maxPurchasePerUser → ((creations log).length : ℤ) ≤ m.plan.maxPurchasePerUser
  wallet : ∀ w quota, (w,Event.charged quota)∈log → 0≤quota
  order : ∀ tradeNo, (creationsFor tradeNo log).length≤1

variable {m : Market} {calls : W → Call} {s t : Sys W} {w : W} {a : Act} {count : ℕ}
/-- The count a transaction works with is the one there is, and once it has been checked there is
room for one more. -/
def Within (m : Market) (count : ℕ) : Phase → Prop
  | .counted _ n | .readingGroup _ n _ => n=count
  | .movingGroup _ sub _ | .inserting _ sub | .inserted _ sub | .found _ _ sub _ | .saving _ _ sub
  | .committing _ _ (some sub) => Admitted m count sub
  | _ => True

lemma within_of_not_isCounted {p : Phase} (h : p.isCounted=false) : Within m count p := by
  cases p with
  | committing job tradeNo sub =>
    cases sub with
    | none => trivial
    | some sub => cases h
  | counted | readingGroup | movingGroup | inserting | inserted | found | saving => cases h
  | _ => trivial

lemma Does.within {call : Call} {view : (k : Key) → Row k} {p p' : Phase} {op : Op}
    (hpos : 0 < m.plan.maxPurchasePerUser) (h : Does m call view count p op) (hleads : op.Leads p') (hp : Within m count p) :
    Within m count p' ∧ (p'.isCounted=true → p.isCounted=true ∨ ∃ job, p=.counting job) := by
  have hcre (job : Job) : create m job=.counting job := if_pos hpos
  cases h with
  | leave | commit => cases hleads
  | count job =>
    cases hleads
    exact ⟨rfl,fun _ => .inr ⟨job,rfl⟩⟩
  | readOrder | bind | free | redeem | charge | chargeNobody =>
    cases hleads
    rw [hcre]
    exact ⟨trivial,nofun⟩
  | checkPlan | readCode | enough | claim | grants | grant | grantNobody =>
    cases hleads
    exact ⟨trivial,nofun⟩
  | room hsub | stay hsub | moves hsub =>
    cases hleads
    cases hp
    exact ⟨hsub,fun _ => .inl rfl⟩
  | readGroup | move | moveNobody | order | find | topUp | save =>
    cases hleads
    exact ⟨hp,fun _ => .inl rfl⟩
  | insert | insertLast =>
    cases hleads
    exact ⟨Admitted.withId hp _,fun _ => .inl rfl⟩

structure Counted (m : Market) (s : Sys W) : Prop where
  single : ∀ v w, (s.phase v).isCounted=true → (s.phase w).isCounted=true → v=w
  within : ∀ w, Within m (s.shared.count m) (s.phase w)
  created : (creations s.log).length ≤ s.shared.count m
  limit : ((creations s.log).length : ℤ) ≤ m.plan.maxPurchasePerUser

lemma length_creations_commitEvents (log : List (W × Event)) (w : W) (user : Option User) (job : Job)
    (tradeNo : Option String) (sub : Option UserSubscription) :
    (creations (log++(commitEvents user job tradeNo sub).map (Prod.mk w))).length =
      (creations log).length+sub.toList.length := by
  have hchar : creations ((chargeEvents user job).map (Prod.mk w))=[] := by
    unfold chargeEvents
    split
    · split
      · rfl
      · rfl
    · rfl
  have hcre : (creations ((sub.toList.map fun _ => Event.created tradeNo).map (Prod.mk w))).length=sub.toList.length := by
    cases sub with
    | none | some sub => rfl
  rw [commitEvents,map_append,creations_append,creations_append,hchar,append_nil,length_append,hcre]

lemma count_append {sub : UserSubscription} (hsub : Admitted m count sub) (s : Shared W) (db : RowStore W Key Row) :
    Shared.count m { s with db := db,subs := s.subs++[sub] }=s.count m+1 := by
  simp [Shared.count,filter_append,hsub.userId_eq,hsub.planId_eq]

variable [DecidableEq W]
omit [DecidableEq W] in
lemma Counted.others (h : Counted m s) (haln : Alone calls s (w,a))
    (hw : (s.phase w).isCounted=true ∨ ∃ job, s.phase w=.counting job) : ∀ v, v≠w → (s.phase v).isCounted=false := by
  rcases hw with hw | ⟨job,hjob⟩
  · exact others_of_single Phase.isCounted h.single hw
  · exact fun v _ => haln.count job hjob v

lemma Counted.of_log (h : Counted m s) (haln : Alone calls s (w,a)) {r : Shared W × Phase × List Event}
    (hsubs : r.1.subs=s.shared.subs)
    (heven : (creations (s.log++r.2.2.map (Prod.mk w))).length=(creations s.log).length)
    (hwith : Within m (s.shared.count m) r.2.1)
    (hr : r.2.1.isCounted=true → (s.phase w).isCounted=true ∨ ∃ job, s.phase w=.counting job) :
    Counted m (s.advance w r) := by
  have hcnt : (s.advance w r).shared.count m=s.shared.count m := by
    show (r.1.subs.filter _).length=_
    rw [hsubs]
    rfl
  refine ⟨single_advance Phase.isCounted h.single fun hp => h.others haln (hr hp),?_,?_,?_⟩
  · rw [hcnt]
    exact forall_phase_advance (fun _ => Within m (s.shared.count m)) (fun _ => Within m (s.shared.count m))
      h.within hwith fun _ _ hv => hv
  · rw [hcnt,advance_log,heven]
    exact h.created
  · rw [advance_log,heven]
    exact h.limit

variable (hpos : 0 < m.plan.maxPurchasePerUser) (h : Counted m s) (haln : Alone calls s (w,a))
include hpos h haln
lemma Counted.commit {job : Job}
    {tradeNo : Option String} {sub : Option UserSubscription} (hphase : s.phase w=.committing job tradeNo sub) :
    Counted m (s.advance w ({ s.shared with db := s.shared.db.commit w,subs := s.shared.subs++sub.toList },.done none,
      commitEvents (s.shared.db.view w .user) job tradeNo sub)) := by
  have hleng := length_creations_commitEvents s.log w (s.shared.db.view w .user) job tradeNo sub
  have hwith := h.within w
  rw [hphase] at hwith
  cases sub with
  | none =>
    refine h.of_log haln ?_ ?_ trivial nofun
    · exact append_nil _
    · exact hleng
  | some sub =>
    have hcnt := count_append hwith s.shared (s.shared.db.commit w)
    have hroom := hwith.limit hpos
    have hcre := h.created
    have hoth := h.others haln (.inl (hphase ▸ rfl))
    refine ⟨single_advance Phase.isCounted h.single nofun,?_,?_,?_⟩
    · intro v
      by_cases hv : v=w
      · rw [hv,advance_phase_self]
        trivial
      · rw [advance_phase_of_ne s _ hv]
        exact within_of_not_isCounted (hoth v hv)
    · rw [advance_log,hleng]
      show _≤Shared.count m { s.shared with db := s.shared.db.commit w,subs := s.shared.subs++[sub] }
      rw [hcnt]
      simpa using hcre
    · rw [advance_log,hleng]
      simp only [Option.toList_some,length_singleton]
      omega

lemma Counted.step (hstep : Purchase.step m calls s (w,a)=some t) : Counted m t := by
  obtain ⟨op,r,hdoes,hperf,rfl⟩ := step_does hstep
  rcases perform_cases hperf with ⟨error,rfl,rfl⟩ | ⟨hleads,hsubs,heven⟩ | ⟨job,tradeNo,sub,rfl,rfl⟩
  · exact h.of_log haln rfl (by simp) trivial nofun
  · obtain ⟨hwith,hr⟩ := hdoes.within hpos hleads (h.within w)
    exact h.of_log haln hsubs (by simp [heven]) hwith hr
  generalize hphase : s.phase w=p at hdoes
  cases hdoes
  exact h.commit hpos haln hphase
end AronaApi.Purchase
