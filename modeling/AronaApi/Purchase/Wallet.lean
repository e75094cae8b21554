import AronaApi.Purchase.Limits

/-! The wallet under purchases that read the balance one at a time. What somebody else's open
transaction holds of the user's row counts too, since its commit replaces the row that the balance was
read from. -/
namespace AronaApi.Purchase
open Subscription RowStore List Phase Interleave
variable {W : Type*} {m : Market} {calls : W → Call} {s t : Sys W} {w : W} {a : Act} {p p' : Phase}
lemma job?_create (m : Market) (job : Job) : (create m job).job? = some job := by
  unfold create
  split <;> rfl

lemma Phase.isCharging_iff : p.isCharging=true ↔ (∃ q, p=.charging q) ∨ p.isPaid=true := by
  cases p with
  | charging q => simp [isCharging]
  | _ => simp [isCharging,isPaid,job?]

def Phase.isFresh : Phase → Bool
  | .idle | .balance _ => true
  | _ => false

def Op.writesUser : Op → Bool
  | .write .user _ _ => true
  | _ => false

def Op.isCommit : Op → Bool
  | .commit _ _ _ => true
  | _ => false

inductive WalletStep (view : (k : Key) → Row k) (p : Phase) : Op → Prop
  | leave (error : Option String) : WalletStep view p (.leave error)
  | commit (job : Job) (tradeNo : Option String) (sub : Option UserSubscription)
      (hphase : p=.committing job tradeNo sub) : WalletStep view p (.commit job tradeNo sub)
  /-- the balance is enough -/
  | enough {q user} (hphase : p=.balance q) (hview : view .user=some user) (hpos : 0<q) (henough : q≤user.quota) :
      WalletStep view p (.goto (.charging q))
  | charge {q user p'} (hphase : p=.charging q) (hview : view .user=some user) (hpaid : 0<q → p'.isPaid=true)
      (hfresh : p'.isFresh=false) (hcharging : ∀ q, p'≠.charging q) (hgranting : ∀ r, p'≠.granting r) :
      WalletStep view p (.write .user (some (user.addQuota (-q))) p')
  /-- the user is written, and loses nothing -/
  | gain {user user' p'} (hphase : ∀ q, p≠.charging q) (hview : view .user=some user)
      (hgain : (∀ r, p=.granting r → 0 < r.quota) → user.quota≤user'.quota) (hpaid : p'.isPaid=p.isPaid)
      (hfresh : p'.isFresh=false) (hcharging : ∀ q, p'≠.charging q) (hgranting : ∀ r, p'≠.granting r) :
      WalletStep view p (.write .user (some user') p')
  /-- the user is not written -/
  | aside {op} (hop : op.writesUser=false) (hcommit : op.isCommit=false)
      (hleads : ∀ p', op.Leads p' → p'.isPaid=p.isPaid ∧ (p'.isFresh=true → p.isFresh=true) ∧
        (∀ q, p'≠.charging q) ∧ ∀ r, p'=.granting r → 0 < r.quota) :
      WalletStep view p op
  /-- there is no user to charge -/
  | nobody {op q} (hphase : p=.charging q) (hview : view .user=none) : WalletStep view p op

lemma walletStep_goto {view : (k : Key) → Row k} (hpaid : p'.isPaid=p.isPaid)
    (hfresh : p'.isFresh=true → p.isFresh=true) (hcharging : ∀ q, p'≠.charging q) (hgranting : ∀ r, p'=.granting r → 0 < r.quota) :
    WalletStep view p (.goto p') := by
  refine .aside rfl rfl ?_
  intro _ hleads
  cases hleads
  exact ⟨hpaid,hfresh,hcharging,hgranting⟩

lemma walletStep_write {view : (k : Key) → Row k} {k : Key} {row : Row k} (hk : k≠.user)
    (hpaid : p'.isPaid=p.isPaid) (hfresh : p'.isFresh=false) (hcharging : ∀ q, p'≠.charging q)
    (hgranting : ∀ r, p'≠.granting r) : WalletStep view p (.write k row p') := by
  refine .aside ?_ rfl ?_
  · cases k with
    | user => exact absurd rfl hk
    | _ => rfl
  · intro _ hleads
    cases hleads
    exact ⟨hpaid,fun h => absurd h (hfresh ▸ Bool.false_ne_true),hcharging,fun r hr => absurd hr (hgranting r)⟩

lemma Does.walletStep {call : Call} {view : (k : Key) → Row k} {count : ℕ} {op : Op}
    (h : Does m call view count p op) : WalletStep view p op := by
  have hcharging (job : Job) (q : ℤ) : create m job≠.charging q := by
    unfold create
    split <;> nofun
  have hgranting (job : Job) (r : Redeem.Redemption) : create m job≠.granting r := by
    unfold create
    split <;> nofun
  have hfresh (job : Job) : (create m job).isFresh=false := by
    unfold create
    split <;> rfl
  have hpaid (job : Job) : (create m job).isPaid=(counting job).isPaid := by
    unfold isPaid
    rw [job?_create]
    rfl
  cases h with
  | leave => exact .leave _
  | commit job tradeNo sub => exact .commit job tradeNo sub rfl
  | enough hview hpos henough => exact .enough rfl hview hpos henough
  | charge hview =>
    refine .charge rfl hview (fun hpos => ?_) (hfresh _) (hcharging _) (hgranting _)
    rw [hpaid]
    exact decide_eq_true hpos
  | chargeNobody hview => exact .nobody rfl hview
  | @grant r user hview =>
    refine .gain nofun hview (fun hgran => ?_) rfl rfl nofun nofun
    have hpos := hgran r rfl
    simp only [User.addQuota]
    omega
  | move hview => exact .gain nofun hview (fun _ => le_refl _) rfl rfl nofun nofun
  | readOrder | bind | redeem =>
    exact walletStep_goto (hpaid _) (fun h => absurd h (hfresh _ ▸ Bool.false_ne_true)) (hcharging _)
      fun r hr => absurd hr (hgranting _ r)
  | free hfree =>
    refine walletStep_goto ?_ (fun _ => rfl) (hcharging _) fun r hr => absurd hr (hgranting _ r)
    rw [hpaid]
    exact decide_eq_false (not_lt.mpr hfree)
  | grants hpos =>
    refine walletStep_goto rfl nofun nofun ?_
    rintro r ⟨⟩
    exact hpos
  | checkPlan => exact walletStep_goto rfl (fun _ => rfl) nofun nofun
  | readCode | count | room | readGroup | stay | moves | find | grantNobody | moveNobody =>
    exact walletStep_goto rfl nofun nofun nofun
  | claim | order | topUp | save => exact walletStep_write nofun rfl rfl nofun nofun
  | insert | insertLast =>
    refine .aside rfl rfl ?_
    intro _ hleads
    cases hleads
    exact ⟨rfl,nofun,nofun,nofun⟩

/-- How a transaction stands with the wallet: if it holds the user's row, it has lost nothing, or it
paid and has not overdrawn it. -/
structure Standing (db : RowStore W Key Row) (v : W) (p : Phase) : Prop where
  held : db.owner .user=some v → ∃ user, db.pending .user=some user ∧ (p.isPaid=true → 0≤user.quota) ∧
    (p.isPaid=false → ∀ user₀, db.committed .user=some user₀ → user₀.quota≤user.quota)
  paid : p.isPaid=true → db.owner .user=some v
  fresh : p.isFresh=true → db.owner .user≠some v
  enough : ∀ q, p=.charging q → 0<q ∧ ∃ user, db.committed .user=some user ∧ q≤user.quota
  grants : ∀ r, p=.granting r → 0 < r.quota

structure Solvent (s : Sys W) : Prop where
  single : ∀ v w, (s.phase v).isCharging=true → (s.phase w).isCharging=true → v=w
  standing : ∀ v, Standing s.shared.db v (s.phase v)
  wallet : ∀ w quota, (w,Event.charged quota)∈s.log → 0≤quota

variable {db : RowStore W Key Row} {v : W}
lemma standing_done {error : Option String} (h : db.owner .user≠some v) : Standing db v (.done error) :=
  ⟨fun hv => absurd hv h,nofun,nofun,nofun,nofun⟩

variable {db' : RowStore W Key Row}
lemma Standing.congr (h : Standing db v p) (hown : db'.owner .user=db.owner .user)
    (hpending : db'.pending .user=db.pending .user) (hcomm : db'.committed .user=db.committed .user) :
    Standing db' v p := by
  refine ⟨?_,?_,?_,?_,h.grants⟩
  · rw [hown,hpending,hcomm]
    exact h.held
  · rw [hown]
    exact h.paid
  · rw [hown]
    exact h.fresh
  · rw [hcomm]
    exact h.enough

lemma Standing.write_other {k : Key} (h : Standing db v p) (hk : k≠.user) (row : Row k) :
    Standing (db.write w k row) v p :=
  h.congr (write_owner_of_ne db w row (Ne.symm hk)) (write_pending_of_ne db w row (Ne.symm hk)) rfl

lemma Standing.write_user (h : Standing db v p) (hv : v≠w) (hfree : db.Free w .user) (user : Option User) :
    Standing (db.write w .user user) v p := by
  have hne : (some w : Option W)≠some v := fun heq => hv (Option.some.inj heq).symm
  refine ⟨?_,?_,?_,h.enough,h.grants⟩
  · rw [write_owner_self]
    intro heq
    exact absurd heq hne
  · intro hpaid
    exact absurd (h.paid hpaid) (hfree.not_owner hv)
  · intro _
    rw [write_owner_self]
    exact hne

variable [DecidableEq W]
variable {user : User} {r : Shared W × Phase × List Event}
lemma Standing.view (h : Standing db v p) (hview : db.view v .user=some user) : (p.isPaid=true → 0≤user.quota) ∧
      (p.isPaid=false → ∀ user₀, db.committed .user=some user₀ → user₀.quota≤user.quota) := by
  by_cases hown : db.owner .user=some v
  · obtain ⟨user',hpending,hpaid,hoth⟩ := h.held hown
    rw [view_of_owner hown,hpending] at hview
    cases hview
    exact ⟨hpaid,hoth⟩
  rw [view_of_not_owner hown] at hview
  refine ⟨fun hpaid => absurd (h.paid hpaid) hown,fun _ user₀ husr => ?_⟩
  cases hview.symm.trans husr
  exact le_refl _

lemma Standing.ended (h : Standing db v p) (hv : v≠w)
    (howner : db'.owner .user=if db.owner .user=some w then none else db.owner .user)
    (hpending : db'.pending .user=db.pending .user)
    (hcomm : db.owner .user≠some w → db'.committed .user=db.committed .user)
    (henough : ∀ q user, p=.charging q → db.committed .user=some user → q≤user.quota →
      ∃ user', db'.committed .user=some user' ∧ q≤user'.quota) : Standing db' v p := by
  have hiff : db'.owner .user=some v ↔ db.owner .user=some v := by
    rw [howner]
    exact released_iff hv
  refine ⟨?_,?_,?_,?_,h.grants⟩
  · intro hv'
    have hown := hiff.mp hv'
    have hnot : db.owner .user≠some w := by
      rw [hown]
      intro heq
      exact hv (Option.some.inj heq)
    rw [hpending,hcomm hnot]
    exact h.held hown
  · intro hpaid
    exact hiff.mpr (h.paid hpaid)
  · intro hfresh
    exact mt hiff.mp (h.fresh hfresh)
  · intro q hq
    obtain ⟨hpos,user,huser,hle⟩ := h.enough q hq
    exact ⟨hpos,henough q user hq huser hle⟩

lemma Standing.perform {s : Shared W} {op : Op} (h : Standing s.db v p) (hop : op.writesUser=false)
    (hcommit : op.isCommit=false) (hleads : op.Leads r.2.1) (hperf : Purchase.perform w s op=some r) :
    Standing r.1.db v p := by
  cases op with
  | leave error => cases hleads
  | goto p' | insert p' =>
    cases hperf
    exact h
  | write k row p' =>
    simp only [Purchase.perform] at hperf
    split at hperf
    · cases hperf
      apply h.write_other
      rintro rfl
      cases hop
    · cases hperf
  | commit job tradeNo sub => cases hcommit

variable (h : Solvent s)
include h
lemma Solvent.advance (hsing : r.2.1.isCharging=true → ∀ v, v≠w → (s.phase v).isCharging=false)
    (hself : Standing r.1.db w r.2.1)
    (hoth : ∀ v, v≠w → Standing s.shared.db v (s.phase v) → Standing r.1.db v (s.phase v))
    (heven : ∀ quota, Event.charged quota∈r.2.2 → 0≤quota) : Solvent (s.advance w r) where
  single := single_advance isCharging h.single hsing
  standing := forall_phase_advance (Standing s.shared.db) (Standing r.1.db) h.standing hself hoth
  wallet v quota hv := by
    rcases mem_append.mp hv with hold | hnew
    · exact h.wallet v quota hold
    obtain ⟨event,hevn,heq⟩ := mem_map.mp hnew
    cases heq
    exact heven quota hevn

omit [DecidableEq W] in
lemma Solvent.others (hw : (s.phase w).isCharging=true) : ∀ v, v≠w → (s.phase v).isCharging=false :=
  others_of_single isCharging h.single hw

lemma Solvent.leave (error : Option String) :
    Solvent (s.advance w ({ s.shared with db := s.shared.db.abort w },.done error,[])) := by
  refine h.advance (fun hp => ?_) ?_ ?_ nofun
  · cases hp
  · exact standing_done (released_ne _ _)
  · intro v hv hstan
    exact hstan.ended hv rfl rfl (fun _ => rfl) fun q user _ huser hle => ⟨user,huser,hle⟩

lemma Solvent.commit {job : Job} {tradeNo : Option String} {sub : Option UserSubscription}
    (hphase : s.phase w=.committing job tradeNo sub) :
    Solvent (s.advance w ({ s.shared with db := s.shared.db.commit w,subs := s.shared.subs++sub.toList },.done none,
      commitEvents (s.shared.db.view w .user) job tradeNo sub)) := by
  have hstan := h.standing w
  refine h.advance (fun hp => ?_) ?_ ?_ ?_
  · cases hp
  · exact standing_done (released_ne _ _)
  · intro v hv hoth
    show Standing (s.shared.db.commit w) v (s.phase v)
    refine hoth.ended hv (commit_owner _ _ _) rfl ?_ ?_
    · intro hown
      exact view_of_not_owner hown
    · intro q user hq huser hle
      show ∃ user', s.shared.db.view w .user=some user' ∧ q≤user'.quota
      cases hpaid : (s.phase w).isPaid with
      | true =>
        have haln := h.others (isCharging_iff.mpr (.inr hpaid)) v hv
        rw [hq] at haln
        cases haln
      | false =>
        by_cases hown : s.shared.db.owner .user=some w
        · obtain ⟨user',hpending,-,hmore⟩ := hstan.held hown
          rw [view_of_owner hown]
          exact ⟨user',hpending,hle.trans (hmore hpaid user huser)⟩
        · rw [view_of_not_owner hown]
          exact ⟨user,huser,hle⟩
  · intro quota hqt
    rcases mem_append.mp hqt with hcre | hchar
    · obtain ⟨sub,-,heq⟩ := mem_map.mp hcre
      cases heq
    cases hview : s.shared.db.view w .user with
    | none =>
      rw [hview] at hchar
      cases hchar
    | some user =>
      rw [hview] at hchar
      cases job with
      | purchase q =>
        simp only [chargeEvents] at hchar
        split at hchar
        next hpos =>
          cases mem_singleton.mp hchar
          apply (hstan.view hview).1
          rw [hphase]
          exact decide_eq_true hpos
        · cases hchar
      | complete | bind | redeem => cases hchar

lemma Solvent.found (haln : Alone calls s (w,a)) {q : ℤ} (hphase : s.phase w=.balance q)
    (hview : s.shared.db.view w .user=some user) (hpos : 0<q) (henough : q≤user.quota) :
    Solvent (s.advance w (s.shared,.charging q,[])) := by
  have hown : s.shared.db.owner .user≠some w := by
    apply (h.standing w).fresh
    rw [hphase]
    rfl
  rw [view_of_not_owner hown] at hview
  apply h.advance (fun _ v _ => haln.balance q hphase v)
  · refine ⟨fun hw => absurd hw hown,nofun,nofun,?_,nofun⟩
    rintro q' ⟨⟩
    exact ⟨hpos,user,hview,henough⟩
  · exact fun _ _ hv => hv
  · exact nofun

lemma Solvent.write (hfree : s.shared.db.Free w .user)
    (hsing : p.isCharging=true → (s.phase w).isCharging=true) (hfresh : p.isFresh=false)
    (hcharging : ∀ q, p≠.charging q) (hgranting : ∀ r, p≠.granting r) (hpaid : p.isPaid=true → 0≤user.quota)
    (hmore : p.isPaid=false → ∀ user₀, s.shared.db.committed .user=some user₀ → user₀.quota≤user.quota) :
    Solvent (s.advance w ({ s.shared with db := s.shared.db.write w .user (some user) },p,[])) := by
  apply h.advance (fun hp => h.others (hsing hp))
  · refine ⟨fun _ => ⟨user,write_pending_self _ _ _ _,hpaid,hmore⟩,fun _ => write_owner_self _ _ _ _,?_,?_,?_⟩
    · intro hp
      rw [hfresh] at hp
      cases hp
    · intro q hq
      exact absurd hq (hcharging q)
    · intro r hr
      exact absurd hr (hgranting r)
  · intro v hv hstan
    exact hstan.write_user hv hfree _
  · exact nofun

lemma Solvent.charge {q : ℤ} (hphase : s.phase w=.charging q)
    (hview : s.shared.db.view w .user=some user) (hpaid : 0<q → p.isPaid=true) (hfresh : p.isFresh=false)
    (hcharging : ∀ q, p≠.charging q) (hgranting : ∀ r, p≠.granting r) (hfree : s.shared.db.Free w .user) :
    Solvent (s.advance w ({ s.shared with db := s.shared.db.write w .user (some (user.addQuota (-q))) },p,[])) := by
  obtain ⟨hpos,user₀,husr,hle⟩ := (h.standing w).enough q hphase
  have hsees := ((h.standing w).view hview).2 (by rw [hphase]; rfl) user₀ husr
  apply h.write hfree (fun _ => by rw [hphase]; rfl) hfresh hcharging hgranting
  · intro _
    simp only [User.addQuota]
    omega
  · intro hnot
    rw [hpaid hpos] at hnot
    cases hnot

lemma Solvent.gain {user' : User} (hview : s.shared.db.view w .user=some user)
    (hgain : user.quota≤user'.quota) (hpaid : p.isPaid=(s.phase w).isPaid) (hfresh : p.isFresh=false)
    (hcharging : ∀ q, p≠.charging q) (hgranting : ∀ r, p≠.granting r) (hfree : s.shared.db.Free w .user) :
    Solvent (s.advance w ({ s.shared with db := s.shared.db.write w .user (some user') },p,[])) := by
  have hsees := (h.standing w).view hview
  apply h.write hfree ?_ hfresh hcharging hgranting
  · intro hp
    rw [hpaid] at hp
    exact (hsees.1 hp).trans hgain
  · intro hp user₀ husr
    rw [hpaid] at hp
    exact (hsees.2 hp user₀ husr).trans hgain
  · intro hp
    rcases isCharging_iff.mp hp with ⟨q,hq⟩ | hp
    · exact absurd hq (hcharging q)
    rw [hpaid] at hp
    exact isCharging_iff.mpr (.inr hp)

lemma Solvent.aside (hpaid : r.2.1.isPaid=(s.phase w).isPaid)
    (hfresh : r.2.1.isFresh=true → (s.phase w).isFresh=true) (hcharging : ∀ q, r.2.1≠.charging q)
    (hgranting : ∀ x, r.2.1=.granting x → 0<x.quota) (heven : r.2.2=[])
    (hrow : ∀ v p, Standing s.shared.db v p → Standing r.1.db v p) : Solvent (s.advance w r) := by
  have hstan := h.standing w
  refine h.advance (fun hp => ?_) (hrow w _ ?_) (fun v _ => hrow v _) ?_
  · apply h.others
    rcases isCharging_iff.mp hp with ⟨q,hq⟩ | hp
    · exact absurd hq (hcharging q)
    rw [hpaid] at hp
    exact isCharging_iff.mpr (.inr hp)
  · refine ⟨?_,?_,fun hp => hstan.fresh (hfresh hp),fun q hq => absurd hq (hcharging q),hgranting⟩
    · rw [hpaid]
      exact hstan.held
    · rw [hpaid]
      exact hstan.paid
  · rw [heven]
    exact nofun

lemma Solvent.step (haln : Alone calls s (w,a)) (hstep : Purchase.step m calls s (w,a)=some t) : Solvent t := by
  obtain ⟨op,r,hdoes,hperf,rfl⟩ := step_does hstep
  cases hdoes.walletStep with
  | leave error =>
    cases hperf
    exact h.leave error
  | commit job tradeNo sub hphase =>
    cases hperf
    exact h.commit hphase
  | enough hphase hview hpos henough =>
    cases hperf
    exact h.found haln hphase hview hpos henough
  | charge hphase hview hpaid hfresh hcharging hgranting =>
    simp only [perform] at hperf
    split at hperf
    next hfree =>
      cases hperf
      exact h.charge hphase hview hpaid hfresh hcharging hgranting hfree
    · cases hperf
  | gain hphase hview hgain hpaid hfresh hcharging hgranting =>
    simp only [perform] at hperf
    split at hperf
    next hfree =>
      cases hperf
      exact h.gain hview (hgain (h.standing w).grants) hpaid hfresh hcharging hgranting hfree
    · cases hperf
  | aside hop hcommit hleads =>
    rcases perform_cases hperf with ⟨error,rfl,rfl⟩ | ⟨hto,-,heven⟩ | ⟨job,tradeNo,sub,rfl,rfl⟩
    · exact h.leave error
    · obtain ⟨hpaid,hfresh,hcharging,hgranting⟩ := hleads _ hto
      exact h.aside hpaid hfresh hcharging hgranting heven fun v p hv => hv.perform hop hcommit hto hperf
    · cases hcommit
  | nobody hphase hview =>
    obtain ⟨-,user₀,husr,-⟩ := (h.standing w).enough _ hphase
    by_cases hown : s.shared.db.owner .user=some w
    · obtain ⟨user,hpending,-⟩ := (h.standing w).held hown
      rw [view_of_owner hown,hpending] at hview
      cases hview
    · rw [view_of_not_owner hown,husr] at hview
      cases hview
end AronaApi.Purchase
