import AronaApi.Access.Account
import AronaApi.Lib.GoStd
import AronaApi.Lib.Schedule
import Mathlib

/-! Dashboard requests (`authHelper` of `middleware/auth.go`, `setupLogin` of `controller/user.go`). A session
lives in a signed cookie: it keeps the values of the login for as long as the client presents it. An access
token is looked up in the users table each time.

Whether a dashboard request that gets through is covered by the account as it is now. Access tokens are;
a cookie is only as long as its user is not disabled, deleted or demoted below what the request needs. -/
namespace AronaApi.Access
open List

/-- The users table: ids are the primary key, and the column default keeps the zero status out. -/
structure UserTable where
  rows : List Account
  nodup : (rows.map Account.id).Nodup
  id_ne_zero : ∀ user∈rows, user.id≠0
  status_ne_unset : ∀ user∈rows, user.status≠.unset

namespace UserTable

/-- A statement that changes rows in place, not their ids, and sets no zero status. -/
def modify (t : UserTable) (f : Account → Account) (hid : ∀ user, (f user).id=user.id)
    (hstatus : ∀ user, user.status≠.unset → (f user).status≠.unset) : UserTable where
  rows := t.rows.map f
  nodup := by
    have hcomp : Account.id ∘ f=Account.id := funext hid
    rw [map_map,hcomp]
    exact t.nodup
  id_ne_zero user h := by
    obtain ⟨row,hrow,rfl⟩ := mem_map.mp h
    rw [hid]
    exact t.id_ne_zero row hrow
  status_ne_unset user h := by
    obtain ⟨row,hrow,rfl⟩ := mem_map.mp h
    exact hstatus row (t.status_ne_unset row hrow)

/-- `updateWithTx` on the table. -/
def update (t : UserTable) (user : Account) : UserTable :=
  t.modify (fun row => if row.id=user.id ∧ row.deleted=false then row.assign user else row)
    (fun row => by split <;> rfl) fun row h => by
      split
      · unfold Account.assign
        simp only
        split
        · exact h
        · assumption
      · exact h

/-- `deleteUser` on the table. -/
def delete (t : UserTable) (id : ℕ) : UserTable :=
  t.modify (fun row => if row.id=id then { row with deleted := true } else row)
    (fun row => by split <;> rfl) fun row h => by
      split <;> exact h
end UserTable

structure Identity where
  id : ℕ
  username : String
  role : ℤ
  status : UserStatus

def Account.identity (user : Account) : Identity := ⟨user.id,user.username,user.role,user.status⟩

def isValidateRole (role : ℤ) : Bool :=
  role=roleGuestUser || role=roleCommonUser || role=roleAdminUser || role=roleRootUser

def validUserInfo (username : String) (role : ℤ) : Bool :=
  GoStd.trimSpace username ≠ "" && isValidateRole role

/-- The first live row with the token, less its first `"Bearer "`. -/
def validateAccessToken (token : String) (users : List Account) : Option Account :=
  if token = "" then none
  else
    let token := String.ofList (GoStd.removeFirst "Bearer ".toList token.toList)
    users.find? fun user => user.accessToken=some token && !user.deleted

/-- The header `New-Api-User`. -/
inductive ApiUser
  | absent
  | malformed
  | id (n : ℤ)

/-- Who the request is from: the session if it has one, and otherwise the owner of the access token. -/
def identify (databaseUp : Bool) (users : List Account) (session : Option Identity) (authorization : String) :
    Except Abort Identity :=
  match session with
  | some identity => .ok identity
  | none =>
    if authorization = "" then .error ⟨401,"auth.not_logged_in"⟩
    else if databaseUp=false then .error ⟨500,"common.database_error"⟩
    else match validateAccessToken authorization users with
      | none => .error ⟨200,"auth.access_token_invalid"⟩
      | some user =>
        if user.username = "" then .error ⟨200,"auth.access_token_invalid"⟩
        else if validUserInfo user.username user.role=false then .error ⟨200,"auth.user_info_invalid"⟩
        else .ok user.identity

def authHelper (databaseUp : Bool) (users : List Account) (session : Option Identity) (authorization : String)
    (apiUser : ApiUser) (minRole : ℤ) : Except Abort Identity :=
  match identify databaseUp users session authorization with
  | .error abort => .error abort
  | .ok identity =>
    match apiUser with
    | .absent => .error ⟨401,"auth.user_id_not_provided"⟩
    | .malformed => .error ⟨401,"auth.user_id_format_error"⟩
    | .id n =>
      if (identity.id : ℤ)≠n then .error ⟨401,"auth.user_id_mismatch"⟩
      else if identity.status=.disabled then .error ⟨200,"auth.user_banned"⟩
      else if identity.role < minRole then .error ⟨200,"auth.insufficient_privilege"⟩
      else if validUserInfo identity.username identity.role=false then .error ⟨200,"auth.user_info_invalid"⟩
      else .ok identity

/-- `UserAuth`, `AdminAuth` and `RootAuth`. -/
inductive Guard
  | userAuth
  | adminAuth
  | rootAuth

def Guard.minRole : Guard → ℤ
  | .userAuth => roleCommonUser
  | .adminAuth => roleAdminUser
  | .rootAuth => roleRootUser

/-- A cookie that was handed out, and whether its user has been disabled or deleted, or demoted, since. -/
structure Issued where
  session : Identity
  revoked : Bool
  demoted : Bool

def Issued.note (action : ManageAction) (id : ℕ) (cookie : Issued) : Issued :=
  if cookie.session.id=id then
    match action with
    | .disable | .delete => { cookie with revoked := true }
    | .demote => { cookie with demoted := true }
    | .enable | .promote => cookie
  else cookie

structure Passed where
  users : List Account
  id : ℕ
  minRole : ℤ

structure Site where
  table : UserTable
  issued : List Issued
  passed : List Passed

/-- `login` is `setupLogin` for the row with that id. The cookie of a request is named by its number. -/
inductive Event
  | login (id : ℕ)
  | manage (myRole : ℤ) (action : ManageAction) (id : ℕ)
  | request (guard : Guard) (cookie : Option ℕ) (authorization : String) (apiUser : ApiUser) (databaseUp : Bool)

namespace Site

/-- What `ManageUser` leaves of the table. A deletion falls through to the update. -/
def managed (t : UserTable) (action : ManageAction) (written : Account) : UserTable :=
  if action=.delete then (t.delete written.id).update written else t.update written

def session (s : Site) (cookie : Option ℕ) : Option Identity :=
  cookie.bind fun n => s.issued[n]?.map Issued.session

def step (s : Site) : Event → Option Site
  | .login id =>
    match getUserById id s.table.rows with
    | some user => some { s with issued := s.issued++[⟨user.identity,false,false⟩] }
    | none => some s
  | .manage myRole action id =>
    let user := fillUnscoped id s.table.rows
    if user.id=0 then some s
    else match manageUser myRole action user with
      | .error _ => some s
      | .ok written => some { s with
          table := managed s.table action written
          issued := s.issued.map (Issued.note action written.id) }
  | .request guard cookie authorization apiUser databaseUp =>
    match authHelper databaseUp s.table.rows (s.session cookie) authorization apiUser guard.minRole with
    | .error _ => some s
    | .ok identity => some { s with passed := s.passed++[⟨s.table.rows,identity.id,guard.minRole⟩] }

def start (table : UserTable) : Site := ⟨table,[],[]⟩
end Site

open Schedule ManageAction Account Issued

def Entitled (users : List Account) (id : ℕ) (minRole : ℤ) : Prop :=
  match getUserById id users with
  | some user => user.status=.enabled ∧ minRole≤user.role
  | none => False

variable {users : List Account} {minRole myRole : ℤ} {id : ℕ}
lemma entitled_of_getUserById {user : Account}
    (h : getUserById id users=some user) (hs : user.status=.enabled) (hr : minRole≤user.role) :
    Entitled users id minRole := by
  rw [Entitled,h]
  exact ⟨hs,hr⟩

instance (users : List Account) (id : ℕ) (minRole : ℤ) : Decidable (Entitled users id minRole) :=
  match h : getUserById id users with
  | some user => decidable_of_iff (user.status=.enabled ∧ minRole≤user.role) (by simp [Entitled,h])
  | none => isFalse (by simp [Entitled,h])

/-- Requests come with cookies whose users have not been disabled or deleted since the login, nor demoted if
more than a common user's role is needed. -/
def Site.Orderly (s : Site) : Event → Prop
  | .request guard cookie _ _ _ => ∀ n∈cookie, ∀ c∈s.issued[n]?,
      c.revoked=false ∧ (c.demoted=true → guard.minRole ≤ roleCommonUser)
  | _ => True

instance (s : Site) (e : Event) : Decidable (s.Orderly e) :=
  match e with
  | .request guard cookie _ _ _ => inferInstanceAs (Decidable (∀ n∈cookie, ∀ c∈s.issued[n]?,
      c.revoked=false ∧ (c.demoted=true → guard.minRole ≤ roleCommonUser)))
  | .login _ | .manage _ _ _ => isTrue trivial

def Current (t : UserTable) (c : Issued) : Prop :=
  c.session.status≠.unset ∧ (c.revoked=false → ∃ user, getUserById c.session.id t.rows=some user ∧
      (c.session.status=.enabled → user.status=.enabled) ∧
      (if c.demoted then roleCommonUser else c.session.role)≤user.role)

structure Site.Inv (s : Site) : Prop where
  issued : ∀ c∈s.issued, Current s.table c
  passed : ∀ p∈s.passed, Entitled p.users p.id p.minRole

lemma fillUnscoped_mem_or (id : ℕ) (users : List Account) :
    fillUnscoped id users∈users ∨ Table.lookup Account.id (fillUnscoped id users).id users=none := by
  unfold fillUnscoped
  by_cases hid : id=0
  · rw [if_pos hid]
    cases users with
    | nil => exact .inr rfl
    | cons user users => exact .inl mem_cons_self
  rw [if_neg hid]
  cases hl : Table.lookup Account.id id users with
  | none => exact .inr hl
  | some user => exact .inl (Table.mem_of_lookup hl)

namespace UserTable

variable {user : Account}
lemma mem_of_getUserById {t : UserTable} (h : getUserById id t.rows=some user) : user∈t.rows :=
  Table.mem_of_lookup (getUserById_eq_some_iff.mp h).2.1

lemma getUserById_of_mem (t : UserTable) (h : user∈t.rows) (hd : user.deleted=false) :
    getUserById user.id t.rows=some user :=
  getUserById_eq_some_iff.mpr ⟨t.id_ne_zero user h,Table.lookup_of_mem t.nodup h,hd⟩

lemma fillUnscoped_eq (t : UserTable) {row : Account}
    (h : getUserById (fillUnscoped id t.rows).id t.rows=some row) : fillUnscoped id t.rows=row := by
  obtain ⟨-,hl,-⟩ := getUserById_eq_some_iff.mp h
  obtain hmem | hnone := fillUnscoped_mem_or id t.rows
  · exact Option.some.inj ((Table.lookup_of_mem t.nodup hmem).symm.trans hl)
  rw [hnone] at hl
  cases hl
end UserTable

variable {action : ManageAction} {written : Account} {t : UserTable} {authorization : String}
variable {row : Account}
lemma getUserById_managed_of_ne (hne : id≠written.id)
    (h : getUserById id t.rows=some row) : getUserById id (Site.managed t action written).rows=some row := by
  unfold Site.managed
  split
  · exact getUserById_updateWithTx_of_ne hne (getUserById_deleteUser_of_ne hne h)
  · exact getUserById_updateWithTx_of_ne hne h

lemma getUserById_managed_self (hdel : action≠.delete) (h : getUserById written.id t.rows=some row) :
    getUserById written.id (Site.managed t action written).rows=some (row.assign written) := by
  rw [Site.managed,if_neg hdel]
  exact getUserById_updateWithTx_self h

lemma assign_of_managed (hrow : row.status≠.unset)
    (h : manageUser myRole action row=.ok written) (hdis : action≠.disable) :
    (row.status=.enabled → (row.assign written).status=.enabled) ∧
      (action≠.demote → row.role≤(row.assign written).role) ∧
      (action=.demote → (row.assign written).role=roleCommonUser) := by
  have hw := manageUser_eq_ok h
  cases action with
  | disable => exact (hdis rfl).elim
  | enable =>
    subst hw
    refine ⟨fun _ => rfl,fun _ => ?_,by simp⟩
    unfold assign apply
    simp only
    split <;> exact le_refl _
  | delete =>
    subst hw
    simp [assign,hrow]
  | promote =>
    have hlt := role_lt_of_promoted h
    subst hw
    refine ⟨fun hs => by simp [assign,apply,hs],fun _ => ?_,by simp⟩
    simpa [assign,apply,roleAdminUser] using Int.le_of_lt hlt
  | demote =>
    subst hw
    refine ⟨fun hs => by simp [assign,apply,hs],fun hne => (hne rfl).elim,fun _ => ?_⟩
    simp [assign,apply,roleCommonUser]

@[simp] lemma session_note (action : ManageAction) (id : ℕ) (c : Issued) : (c.note action id).session=c.session := by
  unfold note
  split
  · cases action <;> rfl
  · rfl

lemma current_note (hm : manageUser myRole action (fillUnscoped id t.rows)=.ok written) {c : Issued} (h : Current t c) :
    Current (Site.managed t action written) (c.note action written.id) := by
  obtain ⟨huns,hrow⟩ := h
  refine ⟨by rwa [session_note],fun hrev => ?_⟩
  by_cases hid : c.session.id=written.id
  · -- a cookie of the managed user that is not flagged: the action is neither disable nor delete
    simp only [note,if_pos hid] at hrev ⊢
    have hkept : action≠.disable ∧ action≠.delete ∧ c.revoked=false := by
      cases action with
      | disable | delete => cases hrev
      | enable | promote | demote => exact ⟨nofun,nofun,hrev⟩
    obtain ⟨hdis,hdel,hc⟩ := hkept
    obtain ⟨user,hu,hs,hr⟩ := hrow hc
    have hread : fillUnscoped id t.rows=user := by
      apply t.fillUnscoped_eq
      rw [← id_of_manageUser hm,← hid]
      exact hu
    rw [hread] at hm
    obtain ⟨hstatus,hkeep,hdem⟩ :=
      assign_of_managed (t.status_ne_unset user (UserTable.mem_of_getUserById hu)) hm hdis
    have hnew := getUserById_managed_self hdel (hid ▸ hu)
    cases action with
    | disable => exact (hdis rfl).elim
    | delete => exact (hdel rfl).elim
    | enable | promote => exact ⟨_,hid ▸ hnew,fun he => hstatus (hs he),hr.trans (hkeep nofun)⟩
    | demote => exact ⟨_,hid ▸ hnew,fun he => hstatus (hs he),(hdem rfl).ge⟩
  · unfold note at hrev ⊢
    rw [if_neg hid] at hrev ⊢
    obtain ⟨user,hu,hs,hr⟩ := hrow hrev
    exact ⟨user,getUserById_managed_of_ne hid hu,hs,hr⟩

variable {databaseUp : Bool} {identity : Identity} {apiUser : ApiUser}
lemma authHelper_eq_ok {session : Option Identity}
    (h : authHelper databaseUp users session authorization apiUser minRole=.ok identity) :
    identify databaseUp users session authorization=.ok identity ∧ identity.status≠.disabled ∧
      minRole ≤ identity.role := by
  unfold authHelper at h
  cases hi : identify databaseUp users session authorization with
  | error abort =>
    rw [hi] at h
    cases h
  | ok found =>
    rw [hi] at h
    cases apiUser with
    | absent | malformed => cases h
    | id n =>
      simp only at h
      split at h
      · cases h
      split at h
      · cases h
      split at h
      · cases h
      split at h
      · cases h
      next hstatus hrole _ =>
      cases h
      exact ⟨rfl,hstatus,Int.not_lt.mp hrole⟩

lemma identify_none_eq_ok (h : identify databaseUp users none authorization=.ok identity) :
    ∃ user∈users, user.deleted=false ∧ user.identity=identity := by
  simp only [identify] at h
  split at h
  · cases h
  split at h
  · cases h
  split at h
  · cases h
  next user hfnd =>
  split at h
  · cases h
  split at h
  · cases h
  cases h
  unfold validateAccessToken at hfnd
  split at hfnd
  · cases hfnd
  have hprop := List.find?_some hfnd
  simp only [Bool.and_eq_true,Bool.not_eq_true'] at hprop
  exact ⟨user,mem_of_find?_eq_some hfnd,hprop.2,rfl⟩

lemma UserStatus.eq_enabled {status : UserStatus} (hu : status≠.unset) (hd : status≠.disabled) : status=.enabled := by
  cases status with
  | unset => exact (hu rfl).elim
  | enabled => rfl
  | disabled => exact (hd rfl).elim

namespace Site

lemma entitled_of_request {s : Site} (h : s.Inv) {guard : Guard} {cookie : Option ℕ}
    (ho : s.Orderly (.request guard cookie authorization apiUser databaseUp))
    (hp : authHelper databaseUp s.table.rows (s.session cookie) authorization apiUser guard.minRole=.ok identity) :
    Entitled s.table.rows identity.id guard.minRole := by
  obtain ⟨hwho,hstatus,hrole⟩ := authHelper_eq_ok hp
  cases hsession : s.session cookie with
  | none =>
    rw [hsession] at hwho
    obtain ⟨user,hmem,hd,rfl⟩ := identify_none_eq_ok hwho
    have hs : user.status=.enabled := UserStatus.eq_enabled (s.table.status_ne_unset user hmem) hstatus
    exact entitled_of_getUserById (s.table.getUserById_of_mem hmem hd) hs hrole
  | some found =>
    rw [hsession] at hwho
    cases hwho
    obtain ⟨n,rfl,hn⟩ := Option.bind_eq_some_iff.mp hsession
    obtain ⟨c,hc,rfl⟩ := Option.map_eq_some_iff.mp hn
    obtain ⟨hrev,hdem⟩ := ho n rfl c hc
    obtain ⟨huns,hrow⟩ := h.issued c (mem_of_getElem? hc)
    obtain ⟨user,hu,hs,hr⟩ := hrow hrev
    refine entitled_of_getUserById hu (hs (UserStatus.eq_enabled huns hstatus)) ?_
    cases hd : c.demoted with
    | true =>
      rw [hd] at hr
      exact (hdem hd).trans hr
    | false =>
      rw [hd] at hr
      exact hrole.trans hr

lemma Inv.step {s t : Site} {e : Event} (h : s.Inv) (ho : s.Orderly e) (hstep : s.step e=some t) : t.Inv := by
  cases e with
  | login id =>
    simp only [Site.step] at hstep
    split at hstep
    next user hu =>
      cases hstep
      refine ⟨fun c hc => ?_,h.passed⟩
      simp only [mem_append,mem_singleton] at hc
      obtain hc | rfl := hc
      · exact h.issued c hc
      have hid : user.id=id := Table.key_of_lookup (getUserById_eq_some_iff.mp hu).2.1
      exact ⟨s.table.status_ne_unset user (UserTable.mem_of_getUserById hu),
        fun _ => ⟨user,by rw [← hid] at hu; exact hu,fun hs => hs,le_refl _⟩⟩
    · cases hstep
      exact h
  | manage myRole action id =>
    simp only [Site.step] at hstep
    split at hstep
    · cases hstep
      exact h
    split at hstep
    · cases hstep
      exact h
    next written hm =>
    cases hstep
    refine ⟨fun c hc => ?_,h.passed⟩
    obtain ⟨old,hold,rfl⟩ := mem_map.mp hc
    exact current_note hm (h.issued old hold)
  | request guard cookie authorization apiUser databaseUp =>
    simp only [Site.step] at hstep
    split at hstep
    · cases hstep
      exact h
    next identity hp =>
    cases hstep
    refine ⟨h.issued,fun p hmem => ?_⟩
    simp only [mem_append,mem_singleton] at hmem
    obtain hmem | rfl := hmem
    · exact h.passed p hmem
    · exact entitled_of_request h ho hp

/-- Over any history of logins, management and requests with up-to-date cookies or access tokens, every request
that got through belonged to a user who then existed, was enabled and had the role. -/
theorem passed_entitled_of_orderly {table : UserTable} {events : List Event} {s : Site}
    (h : Runs Site.step Orderly (start table) events s) : ∀ p∈s.passed, Entitled p.users p.id p.minRole := by
  have hstr : (start table).Inv :=
    ⟨fun _ hc => (not_mem_nil hc).elim,fun _ hp => (not_mem_nil hp).elim⟩
  exact (h.invariant Inv (fun _ _ _ hi ho hstep => hi.step ho hstep) hstr).passed

def twoAccounts : UserTable where
  rows := [⟨1,"root",roleRootUser,.enabled,"default",none,false⟩,
    ⟨2,"admin",roleAdminUser,.enabled,"default",some "token",false⟩]
  nodup := by decide
  id_ne_zero := by decide
  status_ne_unset := by decide

/-- After the demotion the administrator's token is refused, and the cookie serves for a common user's needs. -/
def demotion : List Event :=
  [.login 2,.request .adminAuth (some 0) "" (.id 2) true,.manage roleRootUser .demote 2,
    .request .adminAuth none "Bearer token" (.id 2) true,.request .userAuth (some 0) "" (.id 2) true,
    .request .userAuth none "Bearer token" (.id 2) true]

theorem demotion_passed_entitled :
    ∃ s, Runs Site.step Orderly (start twoAccounts) demotion s ∧
      s.passed.map (fun p => (p.id,p.minRole))=[(2,roleAdminUser),(2,roleCommonUser),(2,roleCommonUser)] ∧
      ∀ p∈s.passed, Entitled p.users p.id p.minRole := by
  obtain ⟨s,-,hruns,hpass⟩ := checked_run Site.step Orderly (start twoAccounts) demotion (fun s =>
    (s.passed.map fun p => (p.id,p.minRole))=[(2,roleAdminUser),(2,roleCommonUser),(2,roleCommonUser)]) (by decide +kernel)
  exact ⟨s,hruns,hpass,passed_entitled_of_orderly hruns⟩

/-- Demoted, disabled and deleted one after another, the administrator still gets through `AdminAuth` with
the cookie of before each time. -/
theorem staleCookie_passes :
    let cookie := Event.request .adminAuth (some 0) "" (.id 2) true
    (exec Site.step (start twoAccounts) [.login 2,.manage roleRootUser .demote 2,cookie,
        .manage roleRootUser .disable 2,cookie,.manage roleRootUser .delete 2,cookie]).map
      (fun s => s.passed.map fun p => (p.id,p.minRole,decide (Entitled p.users p.id p.minRole))) =
    some [(2,roleAdminUser,false),(2,roleAdminUser,false),(2,roleAdminUser,false)] := by decide +kernel
end Site
end AronaApi.Access
