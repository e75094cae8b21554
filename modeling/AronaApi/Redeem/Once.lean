import AronaApi.Redeem.Model
import AronaApi.Subscription.Usage

/-! A code pays out once. The claim locks the code until its transaction ends, and whoever finds it
claimed matches no row, so at most one transaction gets past the claim and commits. -/
namespace AronaApi.Redeem
open GoStd Schedule Subscription Interleave RowStore Function Redemption Phase
variable {W : Type*} {p : Phase}
def Phase.isOpen : Phase → Bool
  | .idle | .selected _ _ | .done _ => false
  | _ => true

/-- On the way to a subscription: what the call has read and built belongs to the code and the caller. -/
def SubPhase (userId : ℕ) (code : Redemption) : Phase → Prop
  | .planning r => r=code
  | .counting r plan | .counted r plan _ | .readingGroup r plan _ _ => r=code ∧ plan.id=code.planId
  | .movingGroup r sub _ | .inserting r sub => r=code ∧ sub.userId=userId ∧ sub.planId=code.planId
  | _ => False

def Phase.isBuilding : Phase → Bool
  | .planning _ | .counting _ _ | .counted _ _ _ | .readingGroup _ _ _ _ | .movingGroup _ _ _
  | .inserting _ _ => true
  | _ => false

lemma Phase.isOpen_of_isBuilding (h : p.isBuilding=true) : p.isOpen=true := by
  cases p <;> first | rfl | cases h

section
variable [DecidableEq W] (call : W → Call) (w : W) (s : Shared W)
def claimed (now : ℤ) : Shared W :=
  { s with db := s.db.write w .code (claim now (call w).userId (s.db.view w .code)) }

def wroteUser (f : User → User) : Shared W :=
  { s with db := s.db.write w (.user (call w).userId) (Option.map f (s.db.view w (.user (call w).userId))) }

inductive Effect : Phase → Shared W × Phase × List Event → Prop
  | refuse (message : String) : Effect .idle (s,.done (.error (.invalid message)),[])
  | fail (p : Phase) (message : String) : Effect p (fail w s message)
  | select (now : ℤ) (enabled : status (s.db.view w .code)=.enabled) :
      Effect .idle (s,.selected (s.db.view w .code) now,[])
  | claimFail (r : Redemption) (now : ℤ) (message : String)
      (claimable : claimable now (s.db.view w .code)=true) (free : s.db.Free w .code) :
      Effect (.selected r now) (Redeem.fail w (claimed call w s now) message)
  | claimQuota (r : Redemption) (now : ℤ) (claimable : claimable now (s.db.view w .code)=true)
      (free : s.db.Free w .code) (type : r.normalizedType=.quota) (positive : 0 < r.quota) :
      Effect (.selected r now) (claimed call w s now,.granting r,[])
  | claimSubscription (r : Redemption) (now : ℤ)
      (claimable : claimable now (s.db.view w .code)=true)
      (free : s.db.Free w .code) (type : r.normalizedType=.subscription) :
      Effect (.selected r now) (claimed call w s now,.planning r,[])
  | grant (r : Redemption) : Effect (.granting r) (wroteUser call w s (User.addQuota r.quota),.granted r none,[])
  | prepare (p p' : Phase) (building : p.isBuilding=true) (building' : p'.isBuilding=true)
      (carries : ∀ code, SubPhase (call w).userId code p → SubPhase (call w).userId code p') :
      Effect p (s,p',[])
  | move (r : Redemption) (sub : UserSubscription) (group : String) :
      Effect (.movingGroup r sub group) (wroteUser call w s (fun u => { u with group := group }),.inserting r sub,[])
  | insert (r : Redemption) (sub : UserSubscription) :
      Effect (.inserting r sub)
        ({ s with nextId := s.nextId+1 },.granted r (some { sub with id := s.nextId }),[])
  | commit (r : Redemption) (sub : Option UserSubscription) :
      Effect (.granted r sub)
        ({ s with db := s.db.commit w, subs := s.subs++sub.toList },.done (.ok (result r sub)),
          [.redeemed (result r sub)])
end

section
variable [DecidableEq W] {loc : Location} {call : W → Call} {w : W} {s : Shared W}
  {r : Shared W × Phase × List Event} {plan : SubscriptionPlan}

lemma examine_effect (fails : Bool) (now : ℤ) : Effect call w s .idle (examine call w s fails now) := by
  simp only [examine]
  split
  · exact .fail _ _
  split
  · exact .fail _ _
  next henabled =>
  split
  · exact .fail _ _
  · exact .select now (not_not.mp henabled)

variable {red : Redemption} {count : ℕ} {dbNow : ℤ}
lemma dispatch_effect {now : ℤ} (hc : claimable now (s.db.view w .code)=true) (hf : s.db.Free w .code) :
    Effect call w s (.selected red now) (dispatch w (claimed call w s now) red) := by
  unfold dispatch
  split
  next htype =>
    split
    · exact .claimFail _ _ _ hc hf
    · exact .claimQuota _ _ hc hf htype (by omega)
  next htype =>
    split
    · exact .claimFail _ _ _ hc hf
    · exact .claimSubscription _ _ hc hf htype
  · exact .claimFail _ _ _ hc hf

lemma prepare_effect : Effect call w s (.counted red plan count) (prepare loc call w s red plan count dbNow) := by
  unfold prepare
  split
  · exact .fail _ _
  next sub group hsub =>
  obtain ⟨huser,hplan,-⟩ := newUserSubscription_spec hsub
  split
  · exact .prepare _ _ rfl rfl fun code h => ⟨h.1,huser,hplan.trans h.2⟩
  · exact .prepare _ _ rfl rfl fun code h => h

lemma chooseGroup_effect :
    Effect call w s (.readingGroup red plan count dbNow) (chooseGroup loc call w s red plan count dbNow) := by
  simp only [chooseGroup]
  split
  · exact .fail _ _
  next sub hsub =>
    obtain ⟨huser,hplan,-⟩ := newUserSubscription_spec hsub
    exact .prepare _ _ rfl rfl fun code h => ⟨h.1,huser,hplan.trans h.2⟩
  next sub group hsub =>
  obtain ⟨huser,hplan,-⟩ := newUserSubscription_spec hsub
  exact .prepare _ _ rfl rfl fun code h => ⟨h.1,huser,hplan.trans h.2⟩

section
variable (hrow : Option.isSome (s.db.view w (.user (call w).userId))=true)
include hrow
lemma updateUser_eq {f : User → User} (h : updateUser call w s f p=some r) : r=(wroteUser call w s f,p,[]) := by
  obtain ⟨⟨db,n⟩,hdb,rfl⟩ := Option.map_eq_some_iff.mp h
  rcases updateWhere_eq_some.mp hdb with ⟨-,-,rfl,-⟩ | ⟨hmiss,-⟩
  · rfl
  rw [hrow] at hmiss
  cases hmiss

lemma next_effect {a : Act} (h : next loc call w s p a=some r) : Effect call w s p r := by
  unfold next at h
  split at h
  case h_1 =>
    split at h
    · cases h; exact .refuse _
    split at h
    · cases h; exact .refuse _
    · cases h; exact examine_effect _ _
  case h_2 red now =>
    obtain ⟨⟨db,n⟩,hdb,rfl⟩ := Option.map_eq_some_iff.mp h
    rcases updateWhere_eq_some.mp hdb with ⟨hc,hf,rfl,rfl⟩ | ⟨-,rfl,rfl⟩
    · exact dispatch_effect hc hf
    · exact .fail _ _
  case h_3 => rw [updateUser_eq hrow h]; exact .grant _
  case h_4 => cases h; exact .fail _ _
  case h_5 red plan =>
    split at h
    · cases h
    next hplan =>
    have hid (code : Redemption) (hred : red=code) : plan.id=code.planId := by
      rw [← hred]
      exact not_not.mp hplan
    split at h
    · cases h; exact .fail _ _
    split at h <;> (cases h; exact .prepare _ _ rfl rfl fun code hred => ⟨hred,hid code hred⟩)
  case h_6 => cases h; exact .prepare _ _ rfl rfl fun _ h => h
  case h_7 => cases h; exact prepare_effect
  case h_8 => cases h; exact chooseGroup_effect
  case h_9 => rw [updateUser_eq hrow h]; exact .move _ _ _
  case h_10 => cases h; exact .insert _ _
  case h_11 => cases h; exact .commit _ _
  case h_19 => cases h
  all_goals cases h; exact .fail _ _
end

lemma Effect.committed (h : Effect call w s p r) (hqt : r.2.2=[]) :
    r.1.db.committed=s.db.committed ∧ r.1.subs=s.subs := by
  cases h with
  | commit => cases hqt
  | _ => exact ⟨rfl,rfl⟩
end

section
variable {call : W → Call} (sc : Scene call)
/-- The rows as a successful call of `w` leaves them, with `u` in the caller's row. -/
def Scene.target (w : W) (now : ℤ) (u : User) : (k : Key) → Row k
  | .code => sc.code.claim now (call w).userId
  | .user id => if id=(call w).userId then some u else sc.users id

def Scene.Grants (w : W) : Option UserSubscription → User → Prop
  | none,u => sc.code.normalizedType=.quota ∧ 0<sc.code.quota ∧ u=(sc.caller w).addQuota sc.code.quota
  | some sub,u => sc.code.normalizedType=.subscription ∧ sub.userId=(call w).userId ∧
      sub.planId=sc.code.planId ∧ ∃ group, u={ sc.caller w with group := group }

def Scene.Image (w : W) (view : (k : Key) → Row k) : Phase → Prop
  | .granting r => r=sc.code ∧ r.normalizedType=.quota ∧ 0 < r.quota ∧
      ∃ now, view=sc.target w now (sc.caller w)
  | .granted r sub => r=sc.code ∧ ∃ now u, sc.Grants w sub u ∧ view=sc.target w now u
  | p => SubPhase (call w).userId sc.code p ∧ sc.code.normalizedType=.subscription ∧
      ∃ now group, view=sc.target w now { sc.caller w with group := group }

lemma Scene.image_of_isBuilding {w : W} {view : (k : Key) → Row k} (h : p.isBuilding=true) :
    sc.Image w view p ↔ SubPhase (call w).userId sc.code p ∧ sc.code.normalizedType=.subscription ∧
      ∃ now group, view=sc.target w now { sc.caller w with group := group } := by
  cases p <;> first | rfl | cases h

/-- The three states of the code: unclaimed, claimed by one open transaction, and paid out. -/
inductive Account [DecidableEq W] (s : Sys W) : Prop
  | waiting (rows : s.shared.db.committed=sc.rows) (subs : s.shared.subs=sc.subs)
      (free : ∀ k, s.shared.db.owner k=none) (unpaid : s.log=[]) (closed : ∀ v, (s.phase v).isOpen=false)
  | opened (w : W) (rows : s.shared.db.committed=sc.rows) (subs : s.shared.subs=sc.subs)
      (locks : ∀ k, s.shared.db.owner k=none ∨ s.shared.db.owner k=some w)
      (code : s.shared.db.owner .code=some w) (unpaid : s.log=[])
      (only : ∀ v, (s.phase v).isOpen=true ↔ v=w) (image : sc.Image w (s.shared.db.view w) (s.phase w))
  | paid (w : W) (now : ℤ) (u : User) (sub : Option UserSubscription)
      (rows : s.shared.db.committed=sc.target w now u) (grants : sc.Grants w sub u)
      (subs : s.shared.subs=sc.subs++sub.toList) (free : ∀ k, s.shared.db.owner k=none)
      (once : s.log=[(w,.redeemed (result sc.code sub))]) (closed : ∀ v, (s.phase v).isOpen=false)

/-- Whoever is past the `SELECT` has read the enabled code. -/
structure Sound [DecidableEq W] (s : Sys W) : Prop where
  account : Account sc s
  selected : ∀ v r now, s.phase v=.selected r now → r=sc.code ∧ sc.code.status=.enabled

lemma sound_init [DecidableEq W] : Sound sc sc.init :=
  ⟨.waiting rfl rfl (fun _ => rfl) rfl (fun _ => rfl),fun _ _ _ h => by cases h⟩
end

namespace Account
variable [DecidableEq W] {call : W → Call} {sc : Scene call} {s : Sys W} {w : W} {now : ℤ}
lemma not_owner (h : Account sc s) (hw : (s.phase w).isOpen=false) (k : Key) : s.shared.db.owner k≠some w := by
  cases h with
  | waiting _ _ free | paid _ _ _ _ _ _ _ free => simp [free k]
  | opened v _ _ locks _ _ only =>
    rcases locks k with hk | hk
    · simp [hk]
    rw [hk]
    rintro ⟨⟩
    rw [(only w).mpr rfl] at hw
    cases hw

lemma opened_of_isOpen (h : Account sc s) (hw : (s.phase w).isOpen=true) :
    s.shared.db.committed=sc.rows ∧ s.shared.subs=sc.subs ∧
      (∀ k, s.shared.db.owner k=none ∨ s.shared.db.owner k=some w) ∧
      s.shared.db.owner .code=some w ∧ s.log=[] ∧ (∀ v, v≠w → (s.phase v).isOpen=false) ∧
      sc.Image w (s.shared.db.view w) (s.phase w) := by
  cases h with
  | waiting _ _ _ _ closed | paid _ _ _ _ _ _ _ _ _ closed => rw [closed w] at hw; cases hw
  | opened v rows subs locks code unpaid only image =>
    obtain rfl := (only w).mp hw
    exact ⟨rows,subs,locks,code,unpaid,fun v hv => Bool.eq_false_iff.mpr fun hc => hv ((only v).mp hc),image⟩

lemma row_isSome (h : Account sc s) (w : W) : Option.isSome (s.shared.db.view w (.user (call w).userId))=true := by
  have htarg (v : W) (now : ℤ) (u : User) :
      Option.isSome (sc.target v now u (.user (call w).userId))=true := by
    simp only [Scene.target]
    split
    · rfl
    · rw [sc.users_caller w]; rfl
  have hrows : Option.isSome (sc.rows (.user (call w).userId))=true := by
    change (sc.users (call w).userId).isSome=true
    rw [sc.users_caller w]
    rfl
  cases hw : (s.phase w).isOpen with
  | false =>
    rw [view_of_not_owner (h.not_owner hw _)]
    cases h with
    | waiting rows | opened v rows => rw [rows]; exact hrows
    | paid v now u sub rows => rw [rows]; exact htarg v now u
  | true =>
    obtain ⟨-,-,-,-,-,-,image⟩ := h.opened_of_isOpen hw
    cases hp : s.phase w <;> rw [hp] at image hw
    case idle | selected | done => cases hw
    case granting =>
      obtain ⟨-,-,-,now,hview⟩ := image
      rw [hview]
      exact htarg w now _
    case granted =>
      obtain ⟨-,now,u,-,hview⟩ := image
      rw [hview]
      exact htarg w now u
    all_goals
      obtain ⟨-,-,now,group,hview⟩ := image
      rw [hview]
      exact htarg w now _

lemma code_of_enabled (h : Account sc s) (hw : (s.phase w).isOpen=false)
    (henabled : status (s.shared.db.view w .code)=.enabled) : s.shared.db.view w .code=sc.code := by
  rw [view_of_not_owner (h.not_owner hw .code)] at henabled ⊢
  cases h with
  | waiting rows | opened v rows => rw [rows]; rfl
  | paid v now u sub rows => rw [rows] at henabled; cases henabled

variable {sh : Shared W} {p' : Phase}
lemma frame (h : Account sc s) (hw : (s.phase w).isOpen=false) (hp' : p'.isOpen=false)
    (hdb : sh.db=s.shared.db) (hsubs : sh.subs=s.shared.subs) : Account sc (s.advance w (sh,p',[])) := by
  obtain ⟨db,subs',nextId⟩ := sh
  obtain rfl : db=_ := hdb
  obtain rfl : subs'=_ := hsubs
  cases h with
  | waiting rows subs free unpaid closed =>
    exact .waiting rows subs free (by simpa using unpaid) (closed_advance isOpen (fun v _ => closed v) hp')
  | paid v now u sub rows grants subs free once closed =>
    exact .paid v now u sub rows grants subs free (by simpa using once)
      (closed_advance isOpen (fun v _ => closed v) hp')
  | opened v rows subs locks code unpaid only image =>
    obtain ⟨hv,honly⟩ := only_frame (r := (_,p',[])) isOpen only hw hp'
    exact .opened v rows subs locks code (by simpa using unpaid) honly (by rwa [advance_phase_of_ne _ _ hv])

lemma fail (h : Account sc s) (message : String) : Account sc (s.advance w (fail w s.shared message)) := by
  cases hw : (s.phase w).isOpen with
  | false => exact h.frame hw rfl (abort_of_not_owner fun k => h.not_owner hw k) rfl
  | true =>
    obtain ⟨rows,subs,locks,-,unpaid,others,-⟩ := h.opened_of_isOpen hw
    refine .waiting rows subs (fun k => ?_) (by simpa [Redeem.fail] using unpaid)
      (closed_advance isOpen others rfl)
    rcases locks k with hk | hk <;> simp [Redeem.fail,hk]

section
variable (h : Account sc s) (hw : (s.phase w).isOpen=false) (hclm : claimable now (s.shared.db.view w .code)=true)
  (hfree : s.shared.db.Free w .code)
include h hw hclm hfree
lemma unclaimed : s.shared.db.committed=sc.rows ∧ s.shared.subs=sc.subs ∧ (∀ k, s.shared.db.owner k=none) ∧
      s.log=[] ∧ ∀ v, (s.phase v).isOpen=false := by
  have hview := view_of_not_owner (h.not_owner hw .code)
  cases h with
  | waiting rows subs free unpaid closed => exact ⟨rows,subs,free,unpaid,closed⟩
  | opened v rows subs locks code unpaid only image =>
    rcases hfree with hnone | hself
    · rw [code] at hnone; cases hnone
    rw [code] at hself
    cases hself
    rw [(only w).mpr rfl] at hw
    cases hw
  | paid v now' u sub rows =>
    rw [hview,rows] at hclm
    simp [Scene.target,claimable,claim] at hclm

lemma claimFail (message : String) :
    Account sc (s.advance w (Redeem.fail w (claimed call w s.shared now) message)) := by
  obtain ⟨rows,subs,free,unpaid,closed⟩ := h.unclaimed hw hclm hfree
  refine .waiting rows subs (fun k => ?_) (by simpa [Redeem.fail] using unpaid)
    (closed_advance isOpen (fun v _ => closed v) rfl)
  by_cases hk : k=.code
  · subst hk
    simp [Redeem.fail,claimed]
  · simp [Redeem.fail,claimed,write_owner_of_ne _ _ _ hk,free k]
end

lemma view_claimed (rows : s.shared.db.committed=sc.rows) (free : ∀ k, s.shared.db.owner k=none)
    (now : ℤ) : (claimed call w s.shared now).db.view w=sc.target w now (sc.caller w) := by
  have hview (k : Key) : s.shared.db.view w k=sc.rows k := by rw [view_of_not_owner (by simp [free k]),rows]
  refine (view_write _ _ _ _).trans ?_
  funext k
  cases k with
  | code =>
    rw [update_self,hview]
    rfl
  | user id =>
    rw [update_of_ne (by simp),hview]
    simp only [Scene.rows,Scene.target]
    split
    next hid => rw [hid,sc.users_caller w]
    next => rfl

lemma claim (h : Account sc s) (hw : (s.phase w).isOpen=false)
    (hclm : claimable now (s.shared.db.view w .code)=true) (hfree : s.shared.db.Free w .code)
    (hp' : p'.isOpen=true) (himg : sc.Image w (sc.target w now (sc.caller w)) p') :
    Account sc (s.advance w (claimed call w s.shared now,p',[])) := by
  obtain ⟨rows,subs,free,unpaid,closed⟩ := h.unclaimed hw hclm hfree
  refine .opened w rows subs (fun k => ?_) (write_owner_self _ _ _ _) (by simpa using unpaid)
    (only_advance isOpen (fun v _ => closed v) hp') ?_
  · by_cases hk : k=.code
    · subst hk
      exact .inr (write_owner_self _ _ _ _)
    · exact .inl ((write_owner_of_ne _ _ _ hk).trans (free k))
  · rw [advance_phase_self,advance_shared,view_claimed rows free]
    exact himg

lemma proceed (h : Account sc s) (hw : (s.phase w).isOpen=true) (hp' : p'.isOpen=true)
    (hrows : sh.db.committed=s.shared.db.committed) (hsubs : sh.subs=s.shared.subs)
    (hlocks : ∀ k, sh.db.owner k=s.shared.db.owner k ∨ sh.db.owner k=some w)
    (himg : sc.Image w (s.shared.db.view w) (s.phase w) → sc.Image w (sh.db.view w) p') :
    Account sc (s.advance w (sh,p',[])) := by
  obtain ⟨rows,subs,locks,code,unpaid,others,image⟩ := h.opened_of_isOpen hw
  refine .opened w (hrows.trans rows) (hsubs.trans subs) (fun k => ?_) ?_ (by simpa using unpaid)
    (only_advance isOpen others hp') ?_
  · rcases hlocks k with hk | hk
    · exact hk ▸ locks k
    · exact .inr hk
  · rcases hlocks .code with hk | hk
    · exact hk.trans code
    · exact hk
  · rw [advance_phase_self]
    exact himg image

lemma view_wroteUser {u : User} (h : sh.db.view w=sc.target w now u)
    (f : User → User) : (wroteUser call w sh f).db.view w=sc.target w now (f u) := by
  refine (view_write _ _ _ _).trans ?_
  rw [h]
  funext k
  cases k with
  | code => rw [update_of_ne (by simp)]; rfl
  | user id =>
    by_cases hid : id=(call w).userId
    · subst hid
      rw [update_self]
      simp [Scene.target]
    · rw [update_of_ne (by simpa using hid)]
      simp [Scene.target,hid]

lemma wroteUser_owner (sh : Shared W) (f : User → User) (k : Key) :
    (wroteUser call w sh f).db.owner k=sh.db.owner k ∨ (wroteUser call w sh f).db.owner k=some w := by
  by_cases hk : k=.user (call w).userId
  · subst hk
    exact .inr (write_owner_self _ _ _ _)
  · exact .inl (write_owner_of_ne _ _ _ hk)

lemma commit (h : Account sc s) {r : Redemption} {sub : Option UserSubscription} (hp : s.phase w=.granted r sub) :
    Account sc (s.advance w ({ s.shared with db := s.shared.db.commit w, subs := s.shared.subs++sub.toList },
      .done (.ok (result r sub)),[.redeemed (result r sub)])) := by
  obtain ⟨-,subs,locks,-,unpaid,others,image⟩ := h.opened_of_isOpen (by rw [hp]; rfl)
  rw [hp] at image
  obtain ⟨rfl,now,u,grants,hview⟩ := image
  refine .paid w now u sub hview grants ?_ (fun k => ?_) (by simp [unpaid])
    (closed_advance isOpen others rfl)
  · change s.shared.subs++sub.toList=_
    rw [subs]
  · rcases locks k with hk | hk <;> simp [hk]
end Account

section
variable [DecidableEq W] {loc : Location} {call : W → Call} {sc : Scene call} {s t : Sys W}
variable {r : Shared W × Phase × List Event}
lemma account_effect {w : W} (h : Sound sc s)
    (he : Effect call w s.shared (s.phase w) r) : Account sc (s.advance w r) := by
  have hac := h.account
  generalize hp : s.phase w=p at he
  cases he with
  | refuse message | select now enabled => exact hac.frame (by rw [hp]; rfl) rfl rfl rfl
  | fail _ message => exact hac.fail message
  | claimFail r now message hclaim hfree => exact hac.claimFail (by rw [hp]; rfl) hclaim hfree message
  | claimQuota r now hclaim hfree htype hpos =>
    obtain ⟨rfl,-⟩ := h.selected w r now hp
    exact hac.claim (by rw [hp]; rfl) hclaim hfree rfl ⟨rfl,htype,hpos,now,rfl⟩
  | claimSubscription r now hclaim hfree htype =>
    obtain ⟨rfl,-⟩ := h.selected w r now hp
    exact hac.claim (by rw [hp]; rfl) hclaim hfree rfl ⟨rfl,htype,now,(sc.caller w).group,rfl⟩
  | grant r =>
    refine hac.proceed (by rw [hp]; rfl) rfl rfl rfl (Account.wroteUser_owner _ _) fun image => ?_
    rw [hp] at image
    obtain ⟨rfl,htype,hpos,now,hview⟩ := image
    exact ⟨rfl,now,_,⟨htype,hpos,rfl⟩,Account.view_wroteUser hview _⟩
  | prepare _ p' hb hb' carries =>
    refine hac.proceed (by rw [hp]; exact isOpen_of_isBuilding hb) (isOpen_of_isBuilding hb')
      rfl rfl (fun k => .inl rfl) fun image => ?_
    rw [hp,Scene.image_of_isBuilding sc hb] at image
    rw [Scene.image_of_isBuilding sc hb']
    exact ⟨carries _ image.1,image.2⟩
  | move r sub group =>
    refine hac.proceed (by rw [hp]; rfl) rfl rfl rfl (Account.wroteUser_owner _ _) fun image => ?_
    rw [hp] at image
    obtain ⟨hsub,htype,now,_,hview⟩ := image
    exact ⟨hsub,htype,now,group,Account.view_wroteUser hview _⟩
  | insert r sub =>
    refine hac.proceed (by rw [hp]; rfl) rfl rfl rfl (fun k => .inl rfl) fun image => ?_
    rw [hp] at image
    obtain ⟨⟨rfl,huser,hplan⟩,htype,now,group,hview⟩ := image
    exact ⟨rfl,now,_,⟨htype,huser,hplan,group,rfl⟩,hview⟩
  | commit r sub => exact hac.commit hp

lemma Effect.selected {w : W} (h : Sound sc s)
    (he : Effect call w s.shared (s.phase w) r) {red : Redemption} {now : ℤ} (hr : r.2.1=.selected red now) :
    red=sc.code ∧ sc.code.status=.enabled := by
  generalize hp : s.phase w=p at he
  cases he with
  | select now' enabled =>
    have hcode := h.account.code_of_enabled (by rw [hp]; rfl) enabled
    cases hr
    exact ⟨hcode,hcode ▸ enabled⟩
  | prepare _ p' _ building' => cases hr; cases building'
  | _ => cases hr

lemma sound_step (x : W × Act) (h : Sound sc s) (hx : step loc call s x=some t) : Sound sc t := by
  obtain ⟨w,a⟩ := x
  obtain ⟨r,hnext,rfl⟩ := step_eq_some.mp hx
  have he := next_effect (h.account.row_isSome w) hnext
  refine ⟨account_effect h he,fun v red now hv => ?_⟩
  by_cases hvw : v=w
  · rw [hvw,advance_phase_self] at hv
    exact he.selected h hv
  · rw [advance_phase_of_ne _ _ hvw] at hv
    exact h.selected v red now hv

/-- In every interleaving of the statements of any number of calls at most one call succeeds. Without
a success nothing has changed; with one, the code is used by that caller and the rows hold exactly its
grant. Every step but a successful commit leaves all committed rows and subscriptions alone. -/
theorem redeemed_at_most_once (sc : Scene call) {xs : List (W × Act)}
    (h : Runs (step loc call) (fun _ _ => True) sc.init xs s) :
    s.log.length≤1 ∧
    (s.log=[] → s.shared.db.committed=sc.rows ∧ s.shared.subs=sc.subs) ∧
    (∀ w res, (w,Event.redeemed res)∈s.log → ∃ now u sub,
      s.shared.db.committed=sc.target w now u ∧ s.shared.subs=sc.subs++sub.toList ∧
        sc.Grants w sub u ∧ res=result sc.code sub) ∧
    ∀ x t, step loc call s x=some t → t.log=s.log →
      t.shared.db.committed=s.shared.db.committed ∧ t.shared.subs=s.shared.subs := by
  have hs : Sound sc s := h.invariant (Sound sc) (fun _ x _ hs _ hx => sound_step x hs hx) (sound_init sc)
  have hqt : ∀ x t, step loc call s x=some t → t.log=s.log →
      t.shared.db.committed=s.shared.db.committed ∧ t.shared.subs=s.shared.subs := by
    rintro ⟨w,a⟩ t hx hlog
    obtain ⟨r,hnext,rfl⟩ := step_eq_some.mp hx
    refine (next_effect (hs.account.row_isSome w) hnext).committed ?_
    simpa using hlog
  cases hs.account with
  | waiting rows subs free unpaid closed | opened w rows subs locks code unpaid only image =>
    rw [unpaid] at hqt ⊢
    exact ⟨by simp,fun _ => ⟨rows,subs⟩,by simp,hqt⟩
  | paid w now u sub rows grants subs free once closed =>
    rw [once] at hqt ⊢
    refine ⟨by simp,by simp,fun v res hv => ?_,hqt⟩
    cases List.mem_singleton.mp hv
    exact ⟨now,u,sub,rows,subs,grants,rfl⟩
end

def bothCalls (i : Fin 2) : Call := ⟨"code",i.val+1⟩

def giftCode : Redemption := ⟨"code",.enabled,500,.quota,0,0,0,0⟩

def giftScene : Scene bothCalls where
  code := giftCode
  users := fun _ => some (User.blank "user")
  subs := []
  nextId := 1
  caller := fun _ => User.blank "user"
  users_caller := fun _ => rfl

/-- Both read the code as enabled; the first one claims it and the claim of the second matches no row. -/
def bothSelect : List (Fin 2 × Act) :=
  [(0,.select false 10),(1,.select false 10),(0,.claim none),(0,.grantQuota none),(0,.commit none),(1,.claim none)]

theorem bothSelect_redeems_once :
    ∃ t, exec (step utc bothCalls) giftScene.init bothSelect=some t ∧ t.log=[(0,.redeemed ⟨.quota,500,0,0⟩)] ∧
      ∃ now u sub, t.shared.db.committed=giftScene.target 0 now u ∧
        t.shared.subs=giftScene.subs++sub.toList ∧ giftScene.Grants 0 sub u := by
  obtain ⟨t,hexec,hruns,hlog⟩ := checked_run (step utc bothCalls) (fun _ _ => True) giftScene.init bothSelect
    (fun t => t.log=[(0,.redeemed ⟨.quota,500,0,0⟩)]) (by decide)
  obtain ⟨-,-,hgrn,-⟩ := redeemed_at_most_once giftScene hruns
  obtain ⟨now,u,sub,hrows,hsubs,hgran,-⟩ := hgrn 0 _ (by rw [hlog]; exact List.mem_singleton.mpr rfl)
  exact ⟨t,hexec,hlog,now,u,sub,hrows,hsubs,hgran⟩

def noUsers : (k : Key) → Row k
  | .code => giftCode
  | .user _ => none

/-- The row of the caller is gone: the update of the quota matches nothing, and the code is used up all the same. -/
theorem deletedUser_redeems : ∃ t, exec (step utc bothCalls) (Interleave.start ⟨.quiet noUsers,[],1⟩ .idle)
      [(0,.select false 10),(0,.claim none),(0,.grantQuota none),(0,.commit none)]=some t ∧
    t.log=[(0,.redeemed ⟨.quota,500,0,0⟩)] ∧ (t.shared.db.committed .code).status=.used ∧
      (t.shared.db.committed (.user 1)).isNone ∧ t.shared.subs.isEmpty := exists_of_any (by decide)
end AronaApi.Redeem
