import AronaApi.Lib.Schedule
import AronaApi.Subscription.Groups

/-! Whether users get their group back when their subscriptions end. The group to return to is stored with
the one subscription that moved the user, so it is found again only if that one is consulted last. -/
namespace AronaApi.Subscription
open GoStd Schedule List Function GroupDB

inductive GroupOp
  | create (loc : Location) (now : ℤ) (userId : ℕ) (plan : SubscriptionPlan) (source : String)
  | expireDue (limit now : ℤ)
  | invalidate (id : ℕ) (now : ℤ)
  | delete (id : ℕ) (now : ℤ)

namespace GroupDB

def start (group : ℕ → String) : GroupDB := ⟨⟨[],[],1⟩,group⟩

def step (s : GroupDB) : GroupOp → Option GroupDB
  | .create loc now userId plan source => some ((s.create loc now userId plan source).toOption.getD s)
  | .expireDue limit now => some (expireDueSubscriptions s limit now)
  | .invalidate id now => some (((adminInvalidateUserSubscription s id now).map Prod.snd).toOption.getD s)
  | .delete id now => some (((adminDeleteUserSubscription s id now).map Prod.snd).toOption.getD s)
end GroupDB

/-- A group name that survives being stored: it is not blank and has no surrounding blanks. -/
def Readable (group : String) : Prop := group ≠ "" ∧ trimSpace group=group

instance (group : String) : Decidable (Readable group) := inferInstanceAs (Decidable (_ ∧ _))

def UserSubscription.Moved (sub : UserSubscription) (currentGroup : String) : Prop :=
  sub.status=.active ∧ sub.prevUserGroup ≠ "" ∧ sub.upgradeGroup=currentGroup

instance (sub : UserSubscription) (currentGroup : String) : Decidable (sub.Moved currentGroup) :=
  inferInstanceAs (Decidable (_ ∧ _))

def EndsAlone (s : GroupDB) (id : ℕ) (now : ℤ) : Prop := ∀ sub∈s.db.find id, sub.Moved (s.group sub.userId) →
  ¬∃ other∈s.rowsOf sub.userId, other.id≠sub.id ∧ other.Upgrades now

instance (s : GroupDB) (id : ℕ) (now : ℤ) : Decidable (EndsAlone s id now) :=
  inferInstanceAs (Decidable (∀ sub∈s.db.find id, _))

/-- If a sweep expires the subscription that moved the user, no other one still runs and the one it
consults has stored a group for the current one. -/
def SweepsAlone (rows : List UserSubscription) (currentGroup : String) (now : ℤ) : Prop :=
  (∃ sub∈rows, sub.Due now ∧ sub.Moved currentGroup) →
    (¬∃ sub∈rows.map (UserSubscription.expire now), sub.Upgrades now) ∧
      ∃ sub∈lastExpired (rows.map (UserSubscription.expire now)),sub.prevUserGroup ≠ "" ∧ sub.upgradeGroup=currentGroup

instance (rows : List UserSubscription) (currentGroup : String) (now : ℤ) :
    Decidable (SweepsAlone rows currentGroup now) :=
  inferInstanceAs (Decidable (_ → _))

/-- Plans name no downgrade group. An upgrade starts from the user's own group or leads where the user
is; and the subscription that moved the user is the last to end. -/
def Orderly (home : ℕ → String) (s : GroupDB) : GroupOp → Prop
  | .create _ _ userId plan _ => trimSpace plan.downgradeGroup = "" ∧
      (trimSpace plan.upgradeGroup = "" ∨ trimSpace plan.upgradeGroup=s.group userId ∨
        s.group userId=home userId ∧ Readable (home userId))
  | .expireDue limit now => ∀ userId∈dueUsers s limit now, SweepsAlone (s.rowsOf userId) (s.group userId) now
  | .invalidate id now => EndsAlone s id now
  | .delete id now => EndsAlone s id now

instance (home : ℕ → String) (s : GroupDB) (op : GroupOp) : Decidable (Orderly home s op) := by
  cases op <;> unfold Orderly <;> infer_instance

structure Homeward (home : String) (rows : List UserSubscription) : Prop where
  clean : ∀ sub∈rows, trimSpace sub.upgradeGroup=sub.upgradeGroup ∧ sub.downgradeGroup = ""
  stored : ∀ sub∈rows, sub.prevUserGroup ≠ "" → sub.prevUserGroup=home ∧ Readable home ∧ sub.upgradeGroup ≠ ""

/-- A user who is not at home can be brought back: the active subscription that moved them is there. -/
structure Restorable (home : String) (rows : List UserSubscription) (currentGroup : String) : Prop
    extends Homeward home rows where
  moved : currentGroup≠home → ∃ sub∈rows, sub.Moved currentGroup

variable {home currentGroup : String} {rows rows' : List UserSubscription} {sub : UserSubscription} {now : ℤ}
section
variable (h : Homeward home rows)
include h
lemma Homeward.congr (hrows : ∀ sub'∈rows', ∃ sub∈rows,
      sub'.upgradeGroup=sub.upgradeGroup ∧ sub'.downgradeGroup=sub.downgradeGroup ∧
        sub'.prevUserGroup=sub.prevUserGroup) : Homeward home rows' := by
  refine ⟨fun sub' hsub' => ?_,fun sub' hsub' => ?_⟩
  all_goals
    obtain ⟨sub,hsub,hup,hdown,hprev⟩ := hrows sub' hsub'
    rw [hup]
  · rw [hdown]
    exact h.clean sub hsub
  · rw [hprev]
    exact h.stored sub hsub

lemma Homeward.downgradeTarget (hsub : sub∈rows) (group : String) :
    sub.downgradeTarget group = "" ∨ sub.downgradeTarget group=home := by
  unfold UserSubscription.downgradeTarget
  rw [(h.clean sub hsub).2,trimSpace_empty,if_neg (by simp)]
  split
  · exact .inl rfl
  by_cases hprev : sub.prevUserGroup = ""
  · rw [hprev]
    exact .inl trimSpace_empty
  obtain ⟨hhome,hread,-⟩ := h.stored sub hsub hprev
  rw [hhome]
  exact .inr hread.2

lemma Homeward.downgradeTarget_of_stored (hsub : sub∈rows)
    (hprev : sub.prevUserGroup ≠ "") : sub.downgradeTarget sub.upgradeGroup=home := by
  obtain ⟨hhome,hread,-⟩ := h.stored sub hsub hprev
  obtain ⟨hcln,hdown⟩ := h.clean sub hsub
  unfold UserSubscription.downgradeTarget
  rw [hdown,trimSpace_empty,if_neg (by simp),hcln,if_neg (by simp),hhome]
  exact hread.2

lemma Homeward.expiryTarget (hsub : sub∈rows) (group : String) :
    sub.expiryTarget group = "" ∨ sub.expiryTarget group=home := by
  have htarg := h.downgradeTarget hsub group
  unfold UserSubscription.expiryTarget UserSubscription.downgradeTarget at *
  simp only [(h.clean sub hsub).2,trimSpace_empty,ne_eq,not_true_eq_false,if_false] at htarg ⊢
  split
  · exact .inl rfl
  · exact htarg

lemma Homeward.expiryTarget_of_stored (hsub : sub∈rows)
    (hprev : sub.prevUserGroup ≠ "") : sub.expiryTarget sub.upgradeGroup=home := by
  obtain ⟨hhome,hread,hne⟩ := h.stored sub hsub hprev
  have htarg := h.downgradeTarget_of_stored hsub hprev
  unfold UserSubscription.expiryTarget UserSubscription.downgradeTarget at *
  simp only [(h.clean sub hsub).2,trimSpace_empty,ne_eq,not_true_eq_false,if_false] at htarg ⊢
  rw [if_neg]
  · exact htarg
  · rw [(h.clean sub hsub).1,hhome,hread.2]
    exact not_or.mpr ⟨hne,hread.1⟩
end

lemma mem_of_lastExpired (h : lastExpired rows=some sub) : sub∈rows := by
  have hmem := mem_of_head? h
  exact (mem_filter.mp ((mem_insertionSort _).mp hmem)).1

lemma Homeward.groupAfterExpiry (h : Homeward home rows) (currentGroup : String) (now : ℤ) :
    groupAfterExpiry rows currentGroup now=currentGroup ∨ groupAfterExpiry rows currentGroup now=home := by
  unfold Subscription.groupAfterExpiry
  split
  · exact .inl rfl
  split
  · exact .inl rfl
  next sub hlast =>
  simp only
  split
  · exact .inl rfl
  next hsome =>
  rcases h.expiryTarget (mem_of_lastExpired hlast) currentGroup with ht | ht
  · exact absurd (.inl ht) hsome
  · exact .inr ht

lemma Homeward.groupAfterExpiry_of_stored (h : Homeward home rows)
    (hnone : ¬∃ sub∈rows, sub.Upgrades now) (hlast : lastExpired rows=some sub)
    (hprev : sub.prevUserGroup ≠ "") : Subscription.groupAfterExpiry rows sub.upgradeGroup now=home := by
  have htarg := h.expiryTarget_of_stored (mem_of_lastExpired hlast) hprev
  have hread := (h.stored sub (mem_of_lastExpired hlast) hprev).2.1
  rw [Subscription.groupAfterExpiry,if_neg hnone,hlast]
  simp only [htarg]
  split
  next hsame =>
    rcases hsame with hbln | hhome
    · exact absurd hbln hread.1
    · exact hhome.symm
  · rfl

lemma Restorable.expire (h : Restorable home rows currentGroup) (hok : SweepsAlone rows currentGroup now) :
    Restorable home (rows.map (UserSubscription.expire now))
      (groupAfterExpiry (rows.map (UserSubscription.expire now)) currentGroup now) := by
  have h' : Homeward home (rows.map (UserSubscription.expire now)) := by
    refine h.toHomeward.congr fun sub' hsub' => ?_
    obtain ⟨sub,hsub,rfl⟩ := mem_map.mp hsub'
    refine ⟨sub,hsub,?_⟩
    unfold UserSubscription.expire
    split <;> exact ⟨rfl,rfl,rfl⟩
  refine ⟨h',fun haway => ?_⟩
  have hstay := (h'.groupAfterExpiry currentGroup now).resolve_right haway
  rw [hstay] at haway ⊢
  obtain ⟨mover,hmem,hmvd⟩ := h.moved haway
  by_cases hdue : mover.Due now
  · obtain ⟨hnone,last,hlast,hprev,rfl⟩ := hok ⟨mover,hmem,hdue,hmvd⟩
    exact absurd (hstay.symm.trans (h'.groupAfterExpiry_of_stored hnone hlast hprev)) haway
  · exact ⟨mover,mem_map.mpr ⟨mover,hmem,if_neg hdue⟩,hmvd⟩

lemma Homeward.append (h : Homeward home rows) (hcln : trimSpace sub.upgradeGroup=sub.upgradeGroup)
    (hdown : sub.downgradeGroup = "")
    (hstor : sub.prevUserGroup ≠ "" → sub.prevUserGroup=home ∧ Readable home ∧ sub.upgradeGroup ≠ "") :
    Homeward home (rows++[sub]) := by
  exact ⟨forall_mem_append.mpr ⟨h.clean,forall_mem_singleton.mpr ⟨hcln,hdown⟩⟩,
    forall_mem_append.mpr ⟨h.stored,forall_mem_singleton.mpr hstor⟩⟩

structure GroupDB.Sound (home : ℕ → String) (s : GroupDB) : Prop where
  distinct : s.db.Distinct
  users : ∀ userId, Restorable (home userId) (s.rowsOf userId) (s.group userId)

open GroupDB.Sound

variable {home : ℕ → String} {s s' : GroupDB} {plan : SubscriptionPlan}
variable {userId : ℕ} {row : UserSubscription}
lemma mem_rowsOf : sub∈s.rowsOf userId ↔ sub∈s.db.subs ∧ sub.userId=userId := by simp [rowsOf]

/-- The downgrade of one subscription touches its user's group only; it leaves that alone or sends the
user home, and it does send home a user whom this subscription moved, unless another one still runs. -/
lemma downgrade_spec {target : String} (hrows : Homeward (home sub.userId) [sub])
    (h : downgradeUserGroupForSubscription s sub now=.ok (target,s')) :
    s'.db=s.db ∧ (∀ userId, userId≠sub.userId → s'.group userId=s.group userId) ∧
      (s'.group sub.userId=s.group sub.userId ∨ s'.group sub.userId=home sub.userId) ∧
      (sub.prevUserGroup ≠ "" → sub.upgradeGroup=s.group sub.userId →
        (¬∃ other∈s.rowsOf sub.userId, other.id≠sub.id ∧ other.Upgrades now) →
          s'.group sub.userId=home sub.userId) := by
  unfold downgradeUserGroupForSubscription at h
  split at h
  next hnone =>
    cases h
    refine ⟨rfl,fun _ _ => rfl,.inl rfl,fun hprev => ?_⟩
    have hne := (hrows.stored sub (mem_singleton_self sub) hprev).2.2
    rw [(hrows.clean sub (mem_singleton_self sub)).1] at hnone
    exact absurd hnone.2 hne
  split at h
  · cases h
  split at h
  next hoth =>
    cases h
    exact ⟨rfl,fun _ _ => rfl,.inl rfl,fun _ _ haln => absurd hoth haln⟩
  simp only at h
  split at h
  next hstay =>
    cases h
    refine ⟨rfl,fun _ _ => rfl,.inl rfl,fun hprev hup _ => ?_⟩
    have htarg := hrows.downgradeTarget_of_stored (mem_singleton_self sub) hprev
    have hread := (hrows.stored sub (mem_singleton_self sub) hprev).2.1
    rw [← hup,htarg] at hstay
    rcases hstay with hbln | hhome
    · exact absurd hbln hread.1
    · exact hup.symm.trans hhome.symm
  next hmove =>
  cases h
  have hset : ∀ target, (s.setGroup sub.userId target).group sub.userId=target := fun _ => update_self _ _ _
  refine ⟨rfl,fun _ hne => update_of_ne hne _ _,?_,fun hprev hup _ => ?_⟩
  · rw [hset]
    rcases hrows.downgradeTarget (mem_singleton_self sub) (s.group sub.userId) with ht | ht
    · exact absurd (.inl ht) hmove
    · exact .inr ht
  · rw [hset,← hup]
    exact hrows.downgradeTarget_of_stored (mem_singleton_self sub) hprev

lemma GroupDB.Sound.ends (h : s.Sound home) (hsub : sub∈s.db.subs) (hdist : s'.db.Distinct)
    (hrows : ∀ row∈s'.db.subs, row∈s.db.subs ∨ row.userId=sub.userId ∧ row.upgradeGroup=sub.upgradeGroup ∧
      row.downgradeGroup=sub.downgradeGroup ∧ row.prevUserGroup=sub.prevUserGroup)
    (hkept : ∀ row∈s.db.subs, row≠sub → row∈s'.db.subs)
    (hoth : ∀ userId, userId≠sub.userId → s'.group userId=s.group userId)
    (hgrp : s'.group sub.userId=s.group sub.userId ∨ s'.group sub.userId=home sub.userId)
    (hhome : sub.Moved (s.group sub.userId) → s'.group sub.userId=home sub.userId) : s'.Sound home := by
  refine ⟨hdist,fun userId => ?_⟩
  have huser := h.users userId
  refine ⟨huser.toHomeward.congr fun row hrow => ?_,fun haway => ?_⟩
  · obtain ⟨hmem,hid⟩ := mem_rowsOf.mp hrow
    rcases hrows row hmem with hold | ⟨huse,hsame⟩
    · exact ⟨row,mem_rowsOf.mpr ⟨hold,hid⟩,rfl,rfl,rfl⟩
    · exact ⟨sub,mem_rowsOf.mpr ⟨hsub,huse.symm.trans hid⟩,hsame⟩
  · have hstay : s'.group userId=s.group userId := by
      by_cases hid : userId=sub.userId
      · subst hid
        exact hgrp.resolve_right haway
      · exact hoth userId hid
    rw [hstay] at haway ⊢
    obtain ⟨mover,hmvr,hmvd⟩ := huser.moved haway
    obtain ⟨hmem,hid⟩ := mem_rowsOf.mp hmvr
    refine ⟨mover,mem_rowsOf.mpr ⟨hkept mover hmem ?_,hid⟩,hmvd⟩
    rintro rfl
    subst hid
    exact haway (hstay.symm.trans (hhome hmvd))

variable {new : UserSubscription} {db : SubDB} {id : ℕ}
lemma mem_save (hrow : row∈(db.save new).subs) : row=new ∨ row∈db.subs := by
  obtain ⟨old,hold,rfl⟩ := mem_map.mp hrow
  split
  · exact .inl rfl
  · exact .inr hold

lemma mem_save_of_ne (hrow : row∈db.subs) (hne : row.id≠new.id) :
    row∈(db.save new).subs := mem_map.mpr ⟨row,hrow,if_neg hne⟩

lemma GroupDB.Sound.homeward (h : s.Sound home) (hsub : sub∈s.db.subs) : Homeward (home sub.userId) [sub] := by
  refine (h.users sub.userId).toHomeward.congr fun row hrow => ?_
  rw [mem_singleton.mp hrow]
  exact ⟨sub,mem_rowsOf.mpr ⟨hsub,rfl⟩,rfl,rfl,rfl⟩

lemma GroupDB.Sound.ne_id (h : s.Sound home) (hsub : sub∈s.db.subs) (hrow : row∈s.db.subs) (hne : row≠sub) :
    row.id≠sub.id :=
  fun hid => hne (inj_on_of_nodup_map h.distinct.nodup hrow hsub hid)

lemma GroupDB.Sound.invalidate (h : s.Sound home) (hok : EndsAlone s id now) :
    (((adminInvalidateUserSubscription s id now).map Prod.snd).toOption.getD s).Sound home := by
  cases hend : adminInvalidateUserSubscription s id now with
  | error e => exact h
  | ok r =>
    unfold adminInvalidateUserSubscription at hend
    split at hend
    · cases hend
    split at hend
    · cases hend
    next sub hfind =>
    have hsub : sub∈s.db.subs := Table.mem_of_lookup hfind
    obtain ⟨⟨target,s'⟩,hdown,rfl⟩ := map_eq_ok hend
    obtain ⟨hdb,hoth,hgrp,hhome⟩ := downgrade_spec (h.homeward hsub) hdown
    change s'.Sound home
    refine h.ends hsub (hdb ▸ h.distinct.congr (s.db.sameKeys_save _)) ?_ ?_ hoth hgrp ?_
    · intro row hrow
      rw [hdb] at hrow
      rcases mem_save hrow with rfl | hold
      · exact .inr ⟨rfl,rfl,rfl,rfl⟩
      · exact .inl hold
    · intro row hrow hne
      have hid := h.ne_id hsub hrow hne
      rw [hdb]
      exact mem_save_of_ne hrow hid
    · rintro ⟨hact,hprev,hup⟩
      refine hhome hprev hup ?_
      rintro ⟨other,hother,hne,hupgr⟩
      obtain ⟨hmem,huser⟩ := mem_rowsOf.mp hother
      rcases mem_save hmem with rfl | hold
      · exact hne rfl
      · exact hok sub hfind ⟨hact,hprev,hup⟩ ⟨other,mem_rowsOf.mpr ⟨hold,huser⟩,hne,hupgr⟩

lemma GroupDB.Sound.delete (h : s.Sound home) (hok : EndsAlone s id now) :
    (((adminDeleteUserSubscription s id now).map Prod.snd).toOption.getD s).Sound home := by
  cases hend : adminDeleteUserSubscription s id now with
  | error e => exact h
  | ok r =>
    unfold adminDeleteUserSubscription at hend
    split at hend
    · cases hend
    split at hend
    · cases hend
    next sub hfind =>
    have hsub : sub∈s.db.subs := Table.mem_of_lookup hfind
    have hid : sub.id=id := Table.key_of_lookup hfind
    obtain ⟨⟨target,s'⟩,hdown,rfl⟩ := map_eq_ok hend
    obtain ⟨hdb,hoth,hgrp,hhome⟩ := downgrade_spec (h.homeward hsub) hdown
    change GroupDB.Sound home { s' with db := { s'.db with subs := s'.db.subs.filter fun other => other.id≠id } }
    refine h.ends hsub (hdb ▸ h.distinct.filter _) ?_ ?_ hoth hgrp ?_
    · intro row hrow
      exact .inl (hdb ▸ (mem_filter.mp hrow).1)
    · intro row hrow hne
      refine mem_filter.mpr ⟨hdb ▸ hrow,?_⟩
      simpa [← hid] using h.ne_id hsub hrow hne
    · rintro ⟨hact,hprev,hup⟩
      exact hhome hprev hup (hok sub hfind ⟨hact,hprev,hup⟩)

variable {loc : Location} {source : String}
lemma create_spec (h : s.create loc now userId plan source=.ok s') : ∃ sub group,
      (∃ count, newUserSubscription loc now s.db.nextId userId plan source (s.group userId) count=.ok (sub,group)) ∧
      s'.db={ s.db with subs := s.db.subs++[sub], nextId := s.db.nextId+1 } ∧
      s'.group=update s.group userId (group.getD (s.group userId)) := by
  obtain ⟨⟨sub,group⟩,hnew,rfl⟩ := map_eq_ok h
  refine ⟨sub,group,⟨_,hnew⟩,?_⟩
  cases group with
  | none => exact ⟨rfl,(update_eq_self _ _).symm⟩
  | some target => exact ⟨rfl,rfl⟩

lemma rowsOf_append (hdb : s'.db.subs=s.db.subs++[sub]) :
    s'.rowsOf userId=if sub.userId=userId then s.rowsOf userId++[sub] else s.rowsOf userId := by
  simp only [rowsOf,hdb,filter_append,filter_singleton]
  split <;> simp_all

lemma GroupDB.Sound.create (h : s.Sound home) (hok : Orderly home s (.create loc now userId plan source)) :
    ((s.create loc now userId plan source).toOption.getD s).Sound home := by
  cases hcreate : s.create loc now userId plan source with
  | error e => exact h
  | ok s' =>
    change s'.Sound home
    obtain ⟨hplan,hgro⟩ := hok
    obtain ⟨sub,group,⟨count,hnew⟩,hdb,hgrp⟩ := create_spec hcreate
    obtain ⟨huser,-,-,-,hid⟩ := newUserSubscription_spec hnew
    obtain ⟨hact,hup,hdown,hmvs⟩ := newUserSubscription_groups hnew
    refine ⟨hdb ▸ h.distinct.insert hid,fun user => ?_⟩
    rw [rowsOf_append (congrArg SubDB.subs hdb),hgrp]
    by_cases hbyr : userId=user
    · subst hbyr
      rw [if_pos huser,update_self]
      have hcln : trimSpace sub.upgradeGroup=sub.upgradeGroup := by rw [hup,trimSpace_trimSpace]
      rw [← hup] at hgro
      rcases hmvs with ⟨hsome,hne,hprev,rfl⟩ | ⟨-,hprev,rfl⟩
      · -- the purchase moves its buyer, who must have been at home
        obtain ⟨hhome,hread⟩ := (hgro.resolve_left hsome).resolve_left (Ne.symm hne)
        refine ⟨(h.users userId).toHomeward.append hcln (hdown.trans hplan) fun _ =>
          ⟨hprev.trans hhome,hread,hsome⟩,fun _ => ⟨sub,by simp,hact,?_,rfl⟩⟩
        rw [hprev,hhome]
        exact hread.1
      refine ⟨(h.users userId).toHomeward.append hcln (hdown.trans hplan) fun hstor =>
        absurd hprev hstor,fun haway => ?_⟩
      obtain ⟨mover,hmvr,hmvd⟩ := (h.users userId).moved haway
      exact ⟨mover,mem_append_left _ hmvr,hmvd⟩
    · rw [if_neg (by rwa [huser]),update_of_ne (Ne.symm hbyr)]
      exact h.users user

lemma sameKeys_foldl_expireUser (users : List ℕ) (s : GroupDB) : s.db.SameKeys (users.foldl (expireUser now) s).db := by
  induction users generalizing s with
  | nil => exact ⟨rfl,rfl⟩
  | cons userId users ih =>
    obtain ⟨hids,hnext⟩ := ih (expireUser now s userId)
    refine ⟨hids.trans ?_,hnext⟩
    simp only [expireUser,map_map]
    refine map_congr_left fun sub _ => ?_
    simp only [comp_apply]
    split <;> simp

lemma GroupDB.Sound.expireDue {limit : ℤ} (h : s.Sound home) (hok : Orderly home s (.expireDue limit now)) :
    (expireDueSubscriptions s limit now).Sound home := by
  refine ⟨h.distinct.congr (sameKeys_foldl_expireUser _ s),fun userId => ?_⟩
  unfold expireDueSubscriptions
  rcases foldl_expireUser (nodup_dedup _) s userId with ⟨-,hrows,hgrp⟩ | ⟨hmem,hrows,hgrp⟩
  · rw [dueUsers,hrows,hgrp]
    exact h.users userId
  · rw [dueUsers,hrows,hgrp]
    exact (h.users userId).expire (hok userId hmem)

lemma GroupDB.sound_start (home : ℕ → String) : (GroupDB.start home).Sound home :=
  ⟨⟨nodup_nil,fun _ hid => absurd hid not_mem_nil,Nat.one_pos⟩,
    fun _ => ⟨⟨fun _ hsub => absurd hsub not_mem_nil,fun _ hsub => absurd hsub not_mem_nil⟩,
      fun haway => absurd rfl haway⟩⟩

lemma GroupDB.Sound.step {op : GroupOp} (h : s.Sound home) (hok : Orderly home s op)
    (hstep : s.step op=some s') : s'.Sound home := by
  cases op with
  | create loc now userId plan source =>
    cases hstep
    exact create h hok
  | expireDue limit now =>
    cases hstep
    exact expireDue h hok
  | invalidate id now =>
    cases hstep
    exact invalidate h hok
  | delete id now =>
    cases hstep
    exact delete h hok

/-- In an orderly run, users whose upgrading subscriptions have all ended are back in the group they had
before they bought any. -/
theorem group_restored_of_orderly {home : ℕ → String} {ops : List GroupOp} {s : GroupDB}
    (hrun : Runs step (Orderly home) (.start home) ops s) (userId : ℕ)
    (hended : ∀ sub∈s.db.subs, sub.userId=userId → sub.status=.active → sub.upgradeGroup = "") :
    s.group userId=home userId := by
  have hsnd : s.Sound home := hrun.invariant _ (fun _ _ _ h hok hstep => step h hok hstep) (sound_start home)
  by_contra haway
  obtain ⟨sub,hsub,hact,hprev,-⟩ := (hsnd.users userId).moved haway
  obtain ⟨hmem,huser⟩ := mem_rowsOf.mp hsub
  exact ((hsnd.users userId).stored sub hsub hprev).2.2 (hended sub hmem huser hact)

def vipPlan : SubscriptionPlan where
  id := 1
  durationUnit := .hour
  durationValue := 1
  upgradeGroup := "vip"
  totalAmount := 1000
  quotaResetPeriod := "never"
  totalAmount_lt := thousand_lt_cap

/-- The plan is bought again after it has run out, and a renewal is cancelled before the first one ends. -/
def boughtAgain : List GroupOp :=
  [.create utc 1000 1 vipPlan "order",.expireDue 0 5000,.create utc 6000 1 vipPlan "order",
    .create utc 6100 1 vipPlan "order",.invalidate 3 6200,.expireDue 0 10000]

theorem boughtAgain_restores_group : ∃ s, exec step (.start fun _ => "default") boughtAgain=some s ∧
    s.group 1 = "default" := by
  obtain ⟨s,hexec,hruns,hend⟩ := checked_run step (Orderly fun _ => "default") (.start fun _ => "default") boughtAgain
    (fun s => ∀ sub∈s.db.subs, sub.status≠.active) (by decide +kernel)
  exact ⟨s,hexec,group_restored_of_orderly hruns 1 fun sub hsub _ hact => absurd hact (hend sub hsub)⟩

def renewedEarly : List GroupOp :=
  [.create utc 1000 1 vipPlan "order",.create utc 2000 1 vipPlan "order",.expireDue 0 5000,.expireDue 0 6000]

/-- The renewal has stored no group, so its user stays in the paying group for good. -/
theorem renewedEarly_keeps_upgraded_group :
    ∃ s, exec step (.start fun _ => "default") renewedEarly=some s ∧
      (∀ sub∈s.db.subs, sub.userId=1 → sub.status=.active → sub.upgradeGroup = "") ∧ s.group 1 = "vip" :=
  exists_of_any (by decide +kernel)
end AronaApi.Subscription
