import AronaApi.Subscription.GroupRestoration

/-! What a sweep may do to the group of a user. It is to act on the subscriptions that it expires; but it
consults the expired subscription that ended last, whichever pass has expired that one. -/
namespace AronaApi.Subscription
open GoStd Schedule List UserSubscription GroupDB

def GroupDB.unexpired (s : GroupDB) : GroupDB :=
  { s with db := { s.db with subs := s.db.subs.filter fun sub => sub.status≠.expired } }

def UserSubscription.DefinesTransition (sub : UserSubscription) :
    Prop := sub.downgradeGroup ≠ "" ∨ sub.upgradeGroup ≠ ""

instance (sub : UserSubscription) : Decidable sub.DefinesTransition := inferInstanceAs (Decidable (_ ∨ _))

/-- The call changes the user's group only for a subscription that it has expired, to a group that this one
names, and as if those that expired before were not there. -/
structure OwnChange (s : GroupDB) (limit now : ℤ) (userId : ℕ) : Prop where
  caused : (expireDueSubscriptions s limit now).group userId≠s.group userId →
    ∃ sub∈s.rowsOf userId, sub.status=.active ∧
      { sub with status := .expired }∈(expireDueSubscriptions s limit now).rowsOf userId ∧ sub.DefinesTransition ∧
      ((expireDueSubscriptions s limit now).group userId=trimSpace sub.downgradeGroup ∨
        (expireDueSubscriptions s limit now).group userId=trimSpace sub.prevUserGroup)
  alone : (expireDueSubscriptions s limit now).group userId=(expireDueSubscriptions s.unexpired limit now).group userId

def UserSubscription.destination (sub : UserSubscription) (currentGroup : String) : String :=
  let target := sub.expiryTarget currentGroup
  if target = "" ∨ target=currentGroup then currentGroup else target

def regroup (consulted : Option UserSubscription) (currentGroup : String) : String :=
  match consulted with
  | none => currentGroup
  | some sub => sub.destination currentGroup

def Outlasts (a b : UserSubscription) : Prop := b.endTime<a.endTime ∨ a.endTime=b.endTime ∧ b.id≤a.id

instance : DecidableRel Outlasts := fun a b => inferInstanceAs (Decidable (b.endTime<a.endTime ∨ a.endTime=b.endTime ∧ b.id≤a.id))

instance : Std.Total Outlasts := ⟨fun a b => by unfold Outlasts; omega⟩

instance : IsTrans UserSubscription Outlasts := ⟨fun a b c hab hbc => by unfold Outlasts at *; omega⟩

/-- The row that ends last among those with `p`. -/
def IsLast (p : UserSubscription → Prop) (rows : List UserSubscription) (row : UserSubscription) : Prop :=
  row∈rows ∧ p row ∧ ∀ other∈rows, p other → Outlasts row other

def UserSubscription.Consultable (now : ℤ) (row : UserSubscription) : Prop :=
  (row.Due now ∨ row.status=.expired) ∧ row.DefinesTransition

/-- Another upgrade is still running, or the row that ended last has not expired before; if it has, it leaves
the user alone as long as no row that expires now defines a transition, and else sends them where the last of
these does. -/
def ConsultsOwn (s : GroupDB) (now : ℤ) (userId : ℕ) : Prop :=
  (∃ sub∈s.rowsOf userId, sub.Upgrades now) ∨
    ∀ old, IsLast (UserSubscription.Consultable now) (s.rowsOf userId) old → old.status=.expired →
        ((∀ row∈s.rowsOf userId, row.Due now → ¬row.DefinesTransition) →
          old.destination (s.group userId)=s.group userId) ∧
        ∀ new, IsLast (fun row => row.Due now ∧ row.DefinesTransition) (s.rowsOf userId) new →
          old.destination (s.group userId)=new.destination (s.group userId)

variable {s : GroupDB} {limit now : ℤ} {userId : ℕ} {rows : List UserSubscription} {sub : UserSubscription}
lemma groupAfterExpiry_eq (rows : List UserSubscription) (currentGroup : String) (now : ℤ) :
    groupAfterExpiry rows currentGroup now =
      if ∃ sub∈rows, sub.Upgrades now then currentGroup else regroup (lastExpired rows) currentGroup := rfl

lemma exists_upgrades_expire : (∃ sub∈rows.map (expire now), sub.Upgrades now) ↔ ∃ sub∈rows, sub.Upgrades now := by
  constructor
  · rintro ⟨sub',hsub',hupgr⟩
    obtain ⟨sub,hsub,rfl⟩ := mem_map.mp hsub'
    refine ⟨sub,hsub,?_⟩
    unfold expire at hupgr
    split at hupgr
    · cases hupgr.1
    · exact hupgr
  · rintro ⟨sub,hsub,hupgr⟩
    refine ⟨sub,mem_map.mpr ⟨sub,hsub,if_neg ?_⟩,hupgr⟩
    intro hdue
    exact absurd hdue.2.2 (not_le.mpr hupgr.2.1)

lemma exists_upgrades_unexpired : (∃ sub∈s.unexpired.rowsOf userId, sub.Upgrades now) ↔
    ∃ sub∈s.rowsOf userId, sub.Upgrades now := by
  constructor
  · rintro ⟨sub,hsub,hupgr⟩
    obtain ⟨hmem,huser⟩ := mem_rowsOf.mp hsub
    exact ⟨sub,mem_rowsOf.mpr ⟨(mem_filter.mp hmem).1,huser⟩,hupgr⟩
  · rintro ⟨sub,hsub,hupgr⟩
    obtain ⟨hmem,huser⟩ := mem_rowsOf.mp hsub
    refine ⟨sub,mem_rowsOf.mpr ⟨mem_filter.mpr ⟨hmem,?_⟩,huser⟩,hupgr⟩
    rw [hupgr.1]
    rfl

lemma dueUsers_unexpired : dueUsers s.unexpired limit now=dueUsers s limit now := by
  have hdue : (s.unexpired.db.subs.filter fun sub => sub.Due now)=s.db.subs.filter fun sub => sub.Due now := by
    simp only [unexpired,filter_filter]
    refine filter_congr fun sub _ => ?_
    by_cases hdue : sub.Due now
    · simp [hdue,hdue.1]
    · simp [hdue]
  simp only [dueUsers,hdue]

lemma foldl_expireUser_of_mem {users : List ℕ} (hndp : users.Nodup) (hmem : userId∈users) (s : GroupDB) :
    (users.foldl (expireUser now) s).rowsOf userId=(s.rowsOf userId).map (expire now) ∧
      (users.foldl (expireUser now) s).group userId =
        groupAfterExpiry ((s.rowsOf userId).map (expire now)) (s.group userId) now :=
  ((foldl_expireUser hndp s userId).resolve_left fun h => h.1 hmem).2

lemma nodup_dueUsers (s : GroupDB) (limit now : ℤ) : (dueUsers s limit now).Nodup := nodup_dedup _

lemma rowsOf_expireDue (hmem : userId∈dueUsers s limit now) :
    (expireDueSubscriptions s limit now).rowsOf userId=(s.rowsOf userId).map (expire now) :=
  (foldl_expireUser_of_mem (nodup_dueUsers s limit now) hmem s).1

lemma group_expireDue : (expireDueSubscriptions s limit now).group userId =
    if userId∈dueUsers s limit now ∧ ¬∃ sub∈s.rowsOf userId, sub.Upgrades now then
      regroup (lastExpired ((s.rowsOf userId).map (expire now))) (s.group userId)
    else s.group userId := by
  by_cases hmem : userId∈dueUsers s limit now
  · rw [expireDueSubscriptions,(foldl_expireUser_of_mem (nodup_dueUsers s limit now) hmem s).2,groupAfterExpiry_eq]
    by_cases hupgr : ∃ sub∈s.rowsOf userId, sub.Upgrades now
    · rw [if_pos (exists_upgrades_expire.mpr hupgr),if_neg fun h => h.2 hupgr]
    · rw [if_neg (mt exists_upgrades_expire.mp hupgr),if_pos ⟨hmem,hupgr⟩]
  rw [if_neg fun h => hmem h.1]
  rcases foldl_expireUser (nodup_dueUsers s limit now) s userId with ⟨-,-,hgrp⟩ | ⟨hmem',-⟩
  · exact hgrp
  · exact absurd hmem' hmem

lemma regroup_ne {consulted : Option UserSubscription} {currentGroup : String}
    (h : regroup consulted currentGroup≠currentGroup) :
    ∃ sub, consulted=some sub ∧ (regroup consulted currentGroup=trimSpace sub.downgradeGroup ∨
      regroup consulted currentGroup=trimSpace sub.prevUserGroup) := by
  cases consulted with
  | none => exact absurd rfl h
  | some sub =>
    refine ⟨sub,rfl,?_⟩
    simp only [regroup,destination] at h ⊢
    split at h
    · exact absurd rfl h
    next hmvs =>
    rw [if_neg hmvs]
    have htarg : sub.expiryTarget currentGroup ≠ "" := fun hbln => hmvs (.inl hbln)
    unfold expiryTarget at htarg ⊢
    split
    · exact .inl rfl
    next hdown =>
    rw [if_neg hdown] at htarg
    split at htarg
    · exact absurd rfl htarg
    next hstor =>
    rw [if_neg hstor]
    split at htarg
    · exact absurd rfl htarg
    next hcurr =>
    rw [if_neg hcurr]
    exact .inr rfl

lemma due_of_lastExpired (h : lastExpired ((s.unexpired.rowsOf userId).map (expire now))=some sub) :
    ∃ row∈s.rowsOf userId, row.Due now ∧ sub={ row with status := .expired } ∧ row.DefinesTransition := by
  have hfilter := mem_filter.mp ((mem_insertionSort _).mp (mem_of_head? h))
  obtain ⟨row,hrow,hexp⟩ := mem_map.mp hfilter.1
  obtain ⟨hstatus,htran⟩ := of_decide_eq_true hfilter.2
  obtain ⟨hmem,huser⟩ := mem_rowsOf.mp hrow
  obtain ⟨hsubs,hunex⟩ := mem_filter.mp hmem
  unfold expire at hexp
  split at hexp
  next hdue =>
    subst hexp
    exact ⟨row,mem_rowsOf.mpr ⟨hsubs,huser⟩,hdue,rfl,htran⟩
  · subst hexp
    exact absurd hstatus (of_decide_eq_true hunex)

lemma IsLast.eq {p : UserSubscription → Prop} {a b : UserSubscription} (hkey : ∀ x∈rows, ∀ y∈rows, x.id=y.id → x=y)
    (ha : IsLast p rows a) (hb : IsLast p rows b) : a=b := by
  have hab := ha.2.2 b hb.1 hb.2.1
  have hba := hb.2.2 a ha.1 ha.2.1
  unfold Outlasts at hab hba
  exact hkey a ha.1 b hb.1 (by omega)

lemma destination_expire (sub : UserSubscription) (now : ℤ) (currentGroup : String) :
    (sub.expire now).destination currentGroup=sub.destination currentGroup := by
  unfold expire
  split <;> rfl

lemma endTime_expire (sub : UserSubscription) (now : ℤ) : (sub.expire now).endTime=sub.endTime := by
  unfold expire
  split <;> rfl

lemma definesTransition_expire : (sub.expire now).DefinesTransition ↔ sub.DefinesTransition := by
  unfold expire
  split <;> rfl

lemma mem_unexpired : sub∈s.unexpired.rowsOf userId ↔ sub∈s.rowsOf userId ∧ sub.status≠.expired := by
  rw [mem_rowsOf,mem_rowsOf,unexpired,mem_filter,decide_eq_true_eq]
  exact and_right_comm

lemma status_expire : (sub.expire now).status=.expired ↔ sub.Due now ∨ sub.status=.expired := by
  unfold expire
  split
  next hdue => exact ⟨fun _ => .inl hdue,fun _ => rfl⟩
  next hdue => exact ⟨.inr,fun h => h.resolve_left hdue⟩

def overdue (rows : List UserSubscription) : List UserSubscription :=
  (rows.filter fun sub => sub.status=.expired ∧ (sub.downgradeGroup ≠ "" ∨ sub.upgradeGroup ≠ "")).insertionSort Outlasts

lemma lastExpired_eq (rows : List UserSubscription) : lastExpired rows=(overdue rows).head? := rfl

lemma pairwise_overdue (rows : List UserSubscription) : (overdue rows).Pairwise Outlasts := pairwise_insertionSort _ _

lemma mem_overdue : sub∈overdue (rows.map (expire now)) ↔ ∃ row∈rows, row.Consultable now ∧ row.expire now=sub := by
  rw [overdue,mem_insertionSort,mem_filter,mem_map]
  constructor
  · rintro ⟨⟨row,hrow,rfl⟩,hover⟩
    obtain ⟨hstatus,htran⟩ := of_decide_eq_true hover
    exact ⟨row,hrow,⟨status_expire.mp hstatus,definesTransition_expire.mp htran⟩,rfl⟩
  · rintro ⟨row,hrow,⟨hover,htran⟩,rfl⟩
    exact ⟨⟨row,hrow,rfl⟩,decide_eq_true ⟨status_expire.mpr hover,definesTransition_expire.mpr htran⟩⟩

lemma isLast_of_lastExpired (h : lastExpired (rows.map (expire now))=some sub) :
    ∃ row, sub=row.expire now ∧ IsLast (UserSubscription.Consultable now) rows row := by
  rw [lastExpired_eq] at h
  obtain ⟨row,hrow,hover,rfl⟩ := mem_overdue.mp (mem_of_head? h)
  refine ⟨row,rfl,hrow,hover,fun other hoth hp => ?_⟩
  obtain ⟨later,hcons⟩ := List.head?_eq_some_iff.mp h
  have hsort := pairwise_overdue (rows.map (expire now))
  have hmem : other.expire now∈overdue (rows.map (expire now)) := mem_overdue.mpr ⟨other,hoth,hp,rfl⟩
  have houtl : Outlasts (row.expire now) (other.expire now) := by
    rw [hcons] at hsort hmem
    rcases mem_cons.mp hmem with heq | hltr
    · rw [heq]
      exact .inr ⟨rfl,le_rfl⟩
    · exact (pairwise_cons.mp hsort).1 _ hltr
  unfold Outlasts at houtl ⊢
  rw [endTime_expire,endTime_expire,expire_id,expire_id] at houtl
  exact houtl

lemma lastExpired_eq_none (h : lastExpired (rows.map (expire now))=none) : ∀ row∈rows, ¬row.Consultable now := by
  intro row hrow hp
  rw [lastExpired_eq,List.head?_eq_none_iff] at h
  have hmem : row.expire now∈overdue (rows.map (expire now)) := mem_overdue.mpr ⟨row,hrow,hp,rfl⟩
  rw [h] at hmem
  cases hmem

lemma exists_isLast_or (now : ℤ) (rows : List UserSubscription) :
    (∃ row, IsLast (UserSubscription.Consultable now) rows row) ∨ ∀ row∈rows, ¬row.Consultable now := by
  cases hlast : lastExpired (rows.map (expire now)) with
  | none => exact .inr (lastExpired_eq_none hlast)
  | some sub =>
    obtain ⟨row,-,hrow⟩ := isLast_of_lastExpired hlast
    exact .inl ⟨row,hrow⟩

variable {row : UserSubscription}
lemma regroup_of_isLast (hkey : ∀ x∈rows, ∀ y∈rows, x.id=y.id → x=y)
    (h : IsLast (UserSubscription.Consultable now) rows row) (currentGroup : String) :
    regroup (lastExpired (rows.map (expire now))) currentGroup=row.destination currentGroup := by
  cases hlast : lastExpired (rows.map (expire now)) with
  | none => exact absurd h.2.1 (lastExpired_eq_none hlast row h.1)
  | some sub =>
    obtain ⟨row',hsub,hrow'⟩ := isLast_of_lastExpired hlast
    have heq : row'=row := IsLast.eq hkey hrow' h
    show sub.destination currentGroup=_
    rw [hsub,heq,destination_expire]

lemma regroup_of_none (h : ∀ row∈rows, ¬row.Consultable now) (currentGroup : String) :
    regroup (lastExpired (rows.map (expire now))) currentGroup=currentGroup := by
  cases hlast : lastExpired (rows.map (expire now)) with
  | none => rfl
  | some sub =>
    obtain ⟨row,-,hrow⟩ := isLast_of_lastExpired hlast
    exact absurd hrow.2.1 (h row hrow.1)

lemma mem_unexpired_of_due (hmem : sub∈s.rowsOf userId) (hdue : sub.Due now) : sub∈s.unexpired.rowsOf userId := by
  refine mem_unexpired.mpr ⟨hmem,?_⟩
  rw [hdue.1]
  exact nofun

lemma isLast_unexpired : IsLast (UserSubscription.Consultable now) (s.unexpired.rowsOf userId) row ↔
    IsLast (fun row => row.Due now ∧ row.DefinesTransition) (s.rowsOf userId) row := by
  constructor
  · rintro ⟨hmem,⟨hover,htran⟩,hlast⟩
    obtain ⟨hrow,hunex⟩ := mem_unexpired.mp hmem
    refine ⟨hrow,⟨hover.resolve_right hunex,htran⟩,fun other hoth hp => ?_⟩
    exact hlast other (mem_unexpired_of_due hoth hp.1) ⟨.inl hp.1,hp.2⟩
  · rintro ⟨hmem,⟨hdue,htran⟩,hlast⟩
    refine ⟨mem_unexpired_of_due hmem hdue,⟨.inl hdue,htran⟩,fun other hoth hp => ?_⟩
    obtain ⟨hoth,hunex⟩ := mem_unexpired.mp hoth
    exact hlast other hoth ⟨hp.1.resolve_right hunex,hp.2⟩

lemma regroup_eq_iff (hkey : ∀ x∈s.rowsOf userId, ∀ y∈s.rowsOf userId, x.id=y.id → x=y)
    (hidle : ¬∃ sub∈s.rowsOf userId, sub.Upgrades now) :
    regroup (lastExpired ((s.rowsOf userId).map (expire now))) (s.group userId) =
      regroup (lastExpired ((s.unexpired.rowsOf userId).map (expire now))) (s.group userId) ↔
    ConsultsOwn s now userId := by
  have hkey' : ∀ x∈s.unexpired.rowsOf userId, ∀ y∈s.unexpired.rowsOf userId, x.id=y.id → x=y :=
    fun x hx y hy => hkey x (mem_unexpired.mp hx).1 y (mem_unexpired.mp hy).1
  constructor
  · intro heq
    refine .inr fun old hold _ => ⟨fun hnone => ?_,fun new hnew => ?_⟩
    · rw [regroup_of_isLast hkey hold,regroup_of_none] at heq
      · exact heq
      · intro row hrow hp
        obtain ⟨hrow,hunex⟩ := mem_unexpired.mp hrow
        exact hnone row hrow (hp.1.resolve_right hunex) hp.2
    · rw [regroup_of_isLast hkey hold,regroup_of_isLast hkey' (isLast_unexpired.mpr hnew)] at heq
      exact heq
  · intro hown
    have hown := hown.resolve_left hidle
    rcases exists_isLast_or now (s.rowsOf userId) with ⟨row,hrow⟩ | hnone
    · rw [regroup_of_isLast hkey hrow]
      by_cases hexp : row.status=.expired
      · obtain ⟨hqt,hsame⟩ := hown row hrow hexp
        rcases exists_isLast_or now (s.unexpired.rowsOf userId) with ⟨new,hnew⟩ | hnone
        · rw [regroup_of_isLast hkey' hnew]
          exact hsame new (isLast_unexpired.mp hnew)
        rw [regroup_of_none hnone]
        exact hqt fun row hrow hdue htran =>
          hnone row (mem_unexpired_of_due hrow hdue) ⟨.inl hdue,htran⟩
      · -- the row has just expired, so it is consulted with or without the old ones
        have hfresh : IsLast (fun row => row.Due now ∧ row.DefinesTransition) (s.rowsOf userId) row :=
          ⟨hrow.1,⟨hrow.2.1.1.resolve_right hexp,hrow.2.1.2⟩,fun other hoth hp => hrow.2.2 other hoth ⟨.inl hp.1,hp.2⟩⟩
        rw [regroup_of_isLast hkey' (isLast_unexpired.mpr hfresh)]
    · rw [regroup_of_none hnone,regroup_of_none fun row hrow => hnone row (mem_unexpired.mp hrow).1]

lemma eq_of_id (hkey : (s.db.subs.map (·.id)).Nodup) : ∀ x∈s.rowsOf userId, ∀ y∈s.rowsOf userId, x.id=y.id → x=y := by
  intro x hx y hy hid
  exact inj_on_of_nodup_map hkey (mem_rowsOf.mp hx).1 (mem_rowsOf.mp hy).1 hid

/-- A call acts on its own subscriptions only, for every user, exactly if every swept user's consulted row sends
them where the last of those that expire now would. -/
theorem own_changes_iff (hkey : (s.db.subs.map (·.id)).Nodup) : (∀ userId, OwnChange s limit now userId) ↔
    ∀ userId∈dueUsers s limit now, ConsultsOwn s now userId := by
  constructor
  · intro h userId hmem
    by_cases hupgr : ∃ sub∈s.rowsOf userId, sub.Upgrades now
    · exact .inl hupgr
    have haln := (h userId).alone
    rw [group_expireDue,group_expireDue,if_pos ⟨hmem,hupgr⟩,dueUsers_unexpired,
      if_pos ⟨hmem,mt exists_upgrades_unexpired.mp hupgr⟩] at haln
    exact (regroup_eq_iff (eq_of_id hkey) hupgr).mp haln
  · intro h userId
    have haln : (expireDueSubscriptions s limit now).group userId=(expireDueSubscriptions s.unexpired limit now).group userId := by
      rw [group_expireDue,group_expireDue,dueUsers_unexpired]
      by_cases hswp : userId∈dueUsers s limit now ∧ ¬∃ sub∈s.rowsOf userId, sub.Upgrades now
      · rw [if_pos hswp,if_pos ⟨hswp.1,mt exists_upgrades_unexpired.mp hswp.2⟩]
        exact (regroup_eq_iff (eq_of_id hkey) hswp.2).mpr (h userId hswp.1)
      · rw [if_neg hswp,if_neg fun h => hswp ⟨h.1,mt exists_upgrades_unexpired.mpr h.2⟩]
        rfl
    refine ⟨fun hchan => ?_,haln⟩
    rw [haln,group_expireDue,dueUsers_unexpired] at hchan
    split at hchan
    next hswp =>
      obtain ⟨sub,hlast,hgrp⟩ := regroup_ne hchan
      obtain ⟨row,hrow,hdue,rfl,htran⟩ := due_of_lastExpired hlast
      refine ⟨row,hrow,hdue.1,?_,htran,?_⟩
      · rw [rowsOf_expireDue hswp.1]
        exact mem_map.mpr ⟨row,hrow,if_pos hdue⟩
      · rw [haln,group_expireDue,dueUsers_unexpired,if_pos hswp]
        exact hgrp
    · exact absurd rfl hchan

def plainPlan : SubscriptionPlan := { vipPlan with id := 2, upgradeGroup := "" }

def bought : Option GroupDB := exec step (.start fun _ => "default") [.create utc 1000 1 vipPlan "order"]

/-- The first plan of a user runs out, and the group is the one before. -/
theorem bought_ends_alone : ∃ s, bought=some s ∧ OwnChange s 0 5000 1 ∧ s.group 1 = "vip" ∧
    (expireDueSubscriptions s 0 5000).group 1 = "default" := by
  obtain ⟨s,hs,⟨hkey,hunex⟩,hgro⟩ : ∃ s, bought=some s ∧ ((s.db.subs.map (·.id)).Nodup ∧ ∀ sub∈s.db.subs, sub.status≠.expired) ∧
    s.group 1 = "vip" ∧ (expireDueSubscriptions s 0 5000).group 1 = "default" := exists_of_any (by decide +kernel)
  have hown : ∀ userId∈dueUsers s 0 5000, ConsultsOwn s 5000 userId :=
    fun userId _ => .inr fun old hold hexp => absurd hexp (hunex old (mem_rowsOf.mp hold.1).1)
  exact ⟨s,hs,(own_changes_iff hkey).mpr hown 1,hgro⟩

/-- A user buys the plan for paying users, which expires; an admin then moves them to that group; they buy a
plan that moves nobody. -/
def promoted : Option GroupDB := do
  let s ← exec step (.start fun _ => "default") [.create utc 1000 1 vipPlan "order",.expireDue 0 5000]
  exec step (s.setGroup 1 "vip") [.create utc 6000 1 plainPlan "order"]

/-- What expires at 10000 defines no transition; yet the sweep takes the paying group away, as the one at 5000 did. -/
theorem promoted_moved_back : ∃ s, promoted=some s ∧ s.group 1 = "vip" ∧
    (∀ sub∈s.rowsOf 1, sub.Due 10000 → ¬sub.DefinesTransition) ∧ (expireDueSubscriptions s 0 10000).group 1 = "default" :=
  exists_of_any (by decide +kernel)
end AronaApi.Subscription
