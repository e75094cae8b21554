import Mathlib
import AronaApi.Subscription.Resets

/-! The groups that subscriptions move their users to (`model/subscription.go`): a purchase stores the group
it replaces, and the end of a subscription may put it back. Each function is one transaction. -/
namespace AronaApi.Subscription
open GoStd List Function UserSubscription

structure GroupDB where
  db : SubDB
  group : ℕ → String

namespace GroupDB

def rowsOf (s : GroupDB) (userId : ℕ) : List UserSubscription := s.db.subs.filter fun sub => sub.userId=userId

/-- `Update("group", target)`. -/
def setGroup (s : GroupDB) (userId : ℕ) (target : String) : GroupDB :=
  { s with group := update s.group userId target }

/-- `CreateUserSubscriptionFromPlanTx`. -/
def create (loc : Location) (s : GroupDB) (now : ℤ) (userId : ℕ) (plan : SubscriptionPlan) (source : String) :
    Except SubError GroupDB :=
  let count := (s.db.subs.filter fun sub => sub.userId=userId ∧ sub.planId=plan.id).length
  (newUserSubscription loc now s.db.nextId userId plan source (s.group userId) count).map fun r =>
    let s := { s with db := { s.db with subs := s.db.subs++[r.1], nextId := s.db.nextId+1 } }
    match r.2 with
    | none => s
    | some target => s.setGroup userId target
end GroupDB

/-- `status = 'active' AND end_time > now AND upgrade_group <> ''`. -/
def UserSubscription.Upgrades (sub : UserSubscription) (now : ℤ) : Prop :=
  sub.status=.active ∧ now<sub.endTime ∧ sub.upgradeGroup ≠ ""

instance (sub : UserSubscription) (now : ℤ) : Decidable (sub.Upgrades now) := inferInstanceAs (Decidable (_ ∧ _))

/-- The group to put back when `sub` is consulted; empty for none. An explicit downgrade group takes
precedence, and the stored group counts only while the user is where the subscription moved them. -/
def UserSubscription.downgradeTarget (sub : UserSubscription) (currentGroup : String) : String :=
  if trimSpace sub.downgradeGroup ≠ "" then trimSpace sub.downgradeGroup
  else if currentGroup≠trimSpace sub.upgradeGroup then ""
  else trimSpace sub.prevUserGroup

/-- `downgradeUserGroupForSubscriptionTx`: the group written, if any, and the tables after it. -/
def downgradeUserGroupForSubscription (s : GroupDB) (sub : UserSubscription) (now : ℤ) :
    Except SubError (String × GroupDB) :=
  if trimSpace sub.downgradeGroup = "" ∧ trimSpace sub.upgradeGroup = "" then .ok ("",s)
  else if sub.userId=0 then .error .invalidUserId
  else if ∃ other∈s.rowsOf sub.userId, other.id≠sub.id ∧ other.Upgrades now then .ok ("",s)
  else
    let currentGroup := s.group sub.userId
    let target := sub.downgradeTarget currentGroup
    if target = "" ∨ target=currentGroup then .ok ("",s)
    else .ok (target,s.setGroup sub.userId target)

def downgradeMessage (target : String) : String := if target ≠ "" then "用户分组将回退到 " ++ target else ""

/-- `AdminInvalidateUserSubscription`. -/
def adminInvalidateUserSubscription (s : GroupDB) (id : ℕ) (now : ℤ) : Except SubError (String × GroupDB) :=
  if id=0 then .error .invalidSubscriptionId
  else match s.db.find id with
    | none => .error .recordNotFound
    | some sub =>
      let cancelled := { s with db := s.db.save { sub with status := .cancelled, endTime := now } }
      (downgradeUserGroupForSubscription cancelled sub now).map fun r => (downgradeMessage r.1,r.2)

/-- `AdminDeleteUserSubscription`. -/
def adminDeleteUserSubscription (s : GroupDB) (id : ℕ) (now : ℤ) : Except SubError (String × GroupDB) :=
  if id=0 then .error .invalidSubscriptionId
  else match s.db.find id with
    | none => .error .recordNotFound
    | some sub => (downgradeUserGroupForSubscription s sub now).map fun r =>
        (downgradeMessage r.1,{ r.2 with db := { r.2.db with subs := r.2.db.subs.filter fun other => other.id≠id } })

/-- `status = 'active' AND end_time > 0 AND end_time <= now`. -/
def UserSubscription.Due (sub : UserSubscription) (now : ℤ) : Prop :=
  sub.status=.active ∧ 0<sub.endTime ∧ sub.endTime≤now

instance (sub : UserSubscription) (now : ℤ) : Decidable (sub.Due now) := inferInstanceAs (Decidable (_ ∧ _))

def UserSubscription.expire (now : ℤ) (sub : UserSubscription) : UserSubscription :=
  if sub.Due now then { sub with status := .expired } else sub

/-- The expired subscription that ended last among those that define a group transition. -/
def lastExpired (rows : List UserSubscription) : Option UserSubscription :=
  ((rows.filter fun sub => sub.status=.expired ∧ (sub.downgradeGroup ≠ "" ∨ sub.upgradeGroup ≠ "")).insertionSort
    fun a b => b.endTime<a.endTime ∨ a.endTime=b.endTime ∧ b.id≤a.id).head?

def UserSubscription.expiryTarget (sub : UserSubscription) (currentGroup : String) : String :=
  if trimSpace sub.downgradeGroup ≠ "" then trimSpace sub.downgradeGroup
  else if trimSpace sub.upgradeGroup = "" ∨ trimSpace sub.prevUserGroup = "" then ""
  else if currentGroup≠trimSpace sub.upgradeGroup then ""
  else trimSpace sub.prevUserGroup

/-- The user's group after a sweep; `rows` are the user's subscriptions with the due ones marked. -/
def groupAfterExpiry (rows : List UserSubscription) (currentGroup : String) (now : ℤ) : String :=
  if ∃ sub∈rows, sub.Upgrades now then currentGroup
  else match lastExpired rows with
    | none => currentGroup
    | some sub =>
      let target := sub.expiryTarget currentGroup
      if target = "" ∨ target=currentGroup then currentGroup else target

def expireUser (now : ℤ) (s : GroupDB) (userId : ℕ) : GroupDB :=
  let marked := s.db.subs.map fun sub => if sub.userId=userId then sub.expire now else sub
  { db := { s.db with subs := marked }
    group := update s.group userId
      (groupAfterExpiry (marked.filter fun sub => sub.userId=userId) (s.group userId) now) }

def dueUsers (s : GroupDB) (limit now : ℤ) : List ℕ :=
  let limit := if limit≤0 then 200 else limit.toNat
  let due := ((s.db.subs.filter fun sub => sub.Due now).insertionSort
    fun a b => a.endTime<b.endTime ∨ a.endTime=b.endTime ∧ a.id≤b.id).take limit
  ((due.map (·.userId)).filter (0 < ·)).dedup

/-- `ExpireDueSubscriptions`; the users' transactions do not touch each other's rows. -/
def expireDueSubscriptions (s : GroupDB) (limit now : ℤ) : GroupDB :=
  (dueUsers s limit now).foldl (expireUser now) s

variable {s : GroupDB} {now : ℤ} {userId other : ℕ}
@[simp] lemma expire_userId (now : ℤ) (sub : UserSubscription) : (sub.expire now).userId=sub.userId := by
  unfold expire
  split <;> rfl

@[simp] lemma expire_id (now : ℤ) (sub : UserSubscription) : (sub.expire now).id=sub.id := by
  unfold expire
  split <;> rfl

lemma rowsOf_expireUser_self : (expireUser now s userId).rowsOf userId = (s.rowsOf userId).map (expire now) := by
  simp only [expireUser,GroupDB.rowsOf]
  induction s.db.subs with
  | nil => rfl
  | cons sub subs ih =>
    by_cases hsub : sub.userId=userId <;> simp [hsub,ih]

lemma rowsOf_expireUser_of_ne (h : other≠userId) : (expireUser now s userId).rowsOf other=s.rowsOf other := by
  simp only [expireUser,GroupDB.rowsOf]
  induction s.db.subs with
  | nil => rfl
  | cons sub subs ih =>
    rw [map_cons]
    by_cases hsub : sub.userId=userId
    · have hne : sub.userId≠other := fun he => h (he.symm.trans hsub)
      rw [if_pos hsub,filter_cons_of_neg (by simpa using hne),filter_cons_of_neg (by simpa using hne),ih]
    rw [if_neg hsub]
    by_cases hoth : sub.userId=other
    · rw [filter_cons_of_pos (by simpa using hoth),filter_cons_of_pos (by simpa using hoth),ih]
    · rw [filter_cons_of_neg (by simpa using hoth),filter_cons_of_neg (by simpa using hoth),ih]

lemma group_expireUser_self : (expireUser now s userId).group userId =
    groupAfterExpiry ((s.rowsOf userId).map (expire now)) (s.group userId) now := by
  rw [← rowsOf_expireUser_self]
  exact update_self _ _ _

lemma group_expireUser_of_ne (h : other≠userId) : (expireUser now s userId).group other=s.group other :=
  update_of_ne h _ _

lemma foldl_expireUser {users : List ℕ} (hndp : users.Nodup) (s : GroupDB) (userId : ℕ) :
    (userId∉users ∧ (users.foldl (expireUser now) s).rowsOf userId=s.rowsOf userId ∧
        (users.foldl (expireUser now) s).group userId=s.group userId) ∨ userId∈users ∧
      (users.foldl (expireUser now) s).rowsOf userId=(s.rowsOf userId).map (expire now) ∧
        (users.foldl (expireUser now) s).group userId =
          groupAfterExpiry ((s.rowsOf userId).map (expire now)) (s.group userId) now := by
  induction users generalizing s with
  | nil => exact .inl ⟨not_mem_nil,rfl,rfl⟩
  | cons first users ih =>
    obtain ⟨hfrs,hrest⟩ := nodup_cons.mp hndp
    rw [foldl_cons]
    by_cases hid : userId=first
    · subst hid
      rcases ih hrest (expireUser now s userId) with ⟨-,hrows,hgrp⟩ | ⟨hmem,-⟩
      · exact .inr ⟨by simp,hrows.trans rowsOf_expireUser_self,hgrp.trans group_expireUser_self⟩
      · exact absurd hmem hfrs
    have hoth := ih hrest (expireUser now s first)
    rw [rowsOf_expireUser_of_ne hid,group_expireUser_of_ne hid] at hoth
    rcases hoth with ⟨hnot,hsame⟩ | ⟨hmem,hswp⟩
    · exact .inl ⟨fun h => (mem_cons.mp h).elim hid hnot,hsame⟩
    · exact .inr ⟨mem_cons_of_mem _ hmem,hswp⟩
end AronaApi.Subscription
