import AronaApi.Lib.Table

/-! Accounts and what an administrator may do to them (`model/user.go`, `ManageUser` of
`controller/user.go`). Rows are deleted softly: a deleted row stays, and ordinary queries pass over it. -/
namespace AronaApi.Access
open Table

/-- `unset` is the zero that a struct has before a row is read into it. -/
inductive UserStatus
  | unset
  | enabled
  | disabled
  deriving DecidableEq, Inhabited

structure Account where
  id : ℕ
  username : String
  role : ℤ
  status : UserStatus
  group : String
  accessToken : Option String
  deleted : Bool

structure Abort where
  status : ℕ
  message : String
  deriving DecidableEq

def roleGuestUser : ℤ := 0
def roleCommonUser : ℤ := 1
def roleAdminUser : ℤ := 10
def roleRootUser : ℤ := 100

/-- `DB.First(&user, "id = ?", id)`. Key 0 is refused before the query. -/
def getUserById (id : ℕ) (users : List Account) : Option Account :=
  if id=0 then none else (Table.lookup Account.id id users).filter fun user => !user.deleted

/-- `model.User{Id: id}`. -/
def Account.blank (id : ℕ) : Account where
  id := id
  username := ""
  role := 0
  status := .unset
  group := ""
  accessToken := none
  deleted := false

/-- `DB.Unscoped().Where(&user).First(&user)`: deleted rows are found too, and since a zero key is no
condition at all, id 0 names the first row. When nothing is found the struct keeps the id it was given. -/
def fillUnscoped (id : ℕ) (users : List Account) : Account :=
  (if id=0 then users.head? else Table.lookup Account.id id users).getD (.blank id)

/-- `Updates` with a struct writes its non-zero fields. -/
def Account.assign (row user : Account) : Account :=
  { row with
    username := if user.username = "" then row.username else user.username
    role := if user.role=0 then row.role else user.role
    status := if user.status=.unset then row.status else user.status
    group := if user.group = "" then row.group else user.group
    accessToken := user.accessToken.or row.accessToken }

/-- The two statements of `UpdateWithTx`. The first one reads the row back into the struct, where it shows
only through fields that were zero; no row is found or written once it is deleted. -/
def updateWithTx (user : Account) (users : List Account) : List Account :=
  users.map fun row => if row.id=user.id ∧ row.deleted=false then row.assign user else row

/-- The struct after `UpdateWithTx`. -/
def afterUpdate (user : Account) (users : List Account) : Account :=
  match getUserById user.id users with
  | some row => row.assign user
  | none => user

/-- `DB.Delete(user)`. -/
def deleteUser (id : ℕ) (users : List Account) : List Account :=
  users.map fun row => if row.id=id then { row with deleted := true } else row

inductive ManageAction
  | disable
  | enable
  | delete
  | promote
  | demote
  deriving DecidableEq

def canManageTargetRole (myRole targetRole : ℤ) : Bool := myRole=roleRootUser || myRole > targetRole

/-- The checks of `ManageUser` and the struct that it goes on to write, for the row it has read. -/
def manageUser (myRole : ℤ) (action : ManageAction) (user : Account) : Except String Account :=
  if canManageTargetRole myRole user.role=false then .error "user.no_permission_higher_level"
  else match action with
    | .disable =>
      if user.role=roleRootUser then .error "user.cannot_disable_root_user"
      else .ok { user with status := .disabled }
    | .enable => .ok { user with status := .enabled }
    | .delete => if user.role=roleRootUser then .error "user.cannot_delete_root_user" else .ok user
    | .promote =>
      if myRole≠roleRootUser then .error "user.admin_cannot_promote"
      else if user.role≥roleAdminUser then .error "user.already_admin"
      else .ok { user with role := roleAdminUser }
    | .demote =>
      if user.role=roleRootUser then .error "user.cannot_demote_root_user"
      else if user.role=roleCommonUser then .error "user.already_common"
      else .ok { user with role := roleCommonUser }

def Enabled (users : List Account) (id : ℕ) : Prop :=
  ∃ user, getUserById id users=some user ∧ user.status=.enabled

def Deleted (users : List Account) (id : ℕ) : Prop :=
  ∀ user, Table.lookup Account.id id users=some user → user.deleted=true

@[simp] lemma Account.assign_id (row user : Account) : (row.assign user).id=row.id := rfl
lemma Account.assign_status_of_disabled (row : Account) {user : Account} (h : user.status=.disabled) :
    (row.assign user).status=.disabled := by simp [Account.assign,h]

lemma lookup_updateWithTx (user : Account) (id : ℕ) (users : List Account) :
    Table.lookup Account.id id (updateWithTx user users)=(Table.lookup Account.id id users).map fun row =>
      if row.id=user.id ∧ row.deleted=false then row.assign user else row := by
  apply lookup_map
  intro row
  split <;> rfl

lemma lookup_deleteUser (id k : ℕ) (users : List Account) :
    Table.lookup Account.id k (deleteUser id users)=(Table.lookup Account.id k users).map fun row =>
      if row.id=id then { row with deleted := true } else row := by
  apply lookup_map
  intro row
  split <;> rfl

variable {users : List Account} {user written row : Account} {id : ℕ}
lemma getUserById_eq_some_iff : getUserById id users=some user ↔
      id≠0 ∧ Table.lookup Account.id id users=some user ∧ user.deleted=false := by
  unfold getUserById
  by_cases hid : id=0
  · simp [hid]
  · simp [hid,Option.filter_eq_some_iff]

lemma enabled_iff : Enabled users id ↔ id≠0 ∧
      ∃ user, Table.lookup Account.id id users=some user ∧ user.deleted=false ∧ user.status=.enabled := by
  simp only [Enabled,getUserById_eq_some_iff,and_assoc,exists_and_left]

lemma not_enabled_of_deleted (h : Deleted users id) : ¬Enabled users id := by
  rw [enabled_iff]
  rintro ⟨-,user,hl,hd,-⟩
  rw [h user hl] at hd
  cases hd

lemma deleted_deleteUser_self (id : ℕ) (users : List Account) : Deleted (deleteUser id users) id := by
  intro user h
  rw [lookup_deleteUser] at h
  obtain ⟨row,hrow,rfl⟩ := Option.map_eq_some_iff.mp h
  rw [if_pos (key_of_lookup hrow)]

lemma Deleted.deleteUser (h : Deleted users id) (k : ℕ) : Deleted (deleteUser k users) id := by
  intro user hu
  rw [lookup_deleteUser] at hu
  obtain ⟨row,hrow,rfl⟩ := Option.map_eq_some_iff.mp hu
  split
  · rfl
  · exact h row hrow

lemma Deleted.updateWithTx (h : Deleted users id) (user : Account) : Deleted (updateWithTx user users) id := by
  intro row' hu
  rw [lookup_updateWithTx] at hu
  obtain ⟨row,hrow,rfl⟩ := Option.map_eq_some_iff.mp hu
  split <;> exact h row hrow

lemma not_enabled_deleteUser (h : ¬Enabled users id) (k : ℕ) : ¬Enabled (deleteUser k users) id := by
  rw [enabled_iff] at h ⊢
  rintro ⟨hid,user,hl,hd,hs⟩
  rw [lookup_deleteUser] at hl
  obtain ⟨row,hrow,rfl⟩ := Option.map_eq_some_iff.mp hl
  split at hd
  · cases hd
  next hk =>
  rw [if_neg hk] at hs
  exact h ⟨hid,row,hrow,hd,hs⟩

lemma not_enabled_updateWithTx (h : ¬Enabled users id ∨ id=user.id)
    (hu : user.status=.disabled ∨ Deleted users user.id) : ¬Enabled (updateWithTx user users) id := by
  rw [enabled_iff]
  rintro ⟨hid,found,hl,hd,hs⟩
  rw [lookup_updateWithTx] at hl
  obtain ⟨row,hrow,rfl⟩ := Option.map_eq_some_iff.mp hl
  have hkey : row.id=id := key_of_lookup hrow
  by_cases hcond : row.id=user.id ∧ row.deleted=false
  · rw [if_pos hcond] at hs
    obtain hdis | hdel := hu
    · rw [row.assign_status_of_disabled hdis] at hs
      cases hs
    rw [← hcond.1,hkey] at hdel
    rw [hdel row hrow] at hcond
    cases hcond.2
  · rw [if_neg hcond] at hd hs
    obtain hoff | rfl := h
    · exact hoff (enabled_iff.mpr ⟨hid,row,hrow,hd,hs⟩)
    · exact hcond ⟨hkey,hd⟩

lemma afterUpdate_status_of_disabled (users : List Account) (h : user.status=.disabled) :
    (afterUpdate user users).status=.disabled := by
  unfold afterUpdate
  split
  next row _ => exact row.assign_status_of_disabled h
  · exact h

lemma afterUpdate_id (user : Account) (users : List Account) : (afterUpdate user users).id=user.id := by
  unfold afterUpdate
  split
  next row h =>
    rw [Account.assign_id]
    exact key_of_lookup (getUserById_eq_some_iff.mp h).2.1
  · rfl

def ManageAction.apply (user : Account) : ManageAction → Account
  | .disable => { user with status := .disabled }
  | .enable => { user with status := .enabled }
  | .delete => user
  | .promote => { user with role := roleAdminUser }
  | .demote => { user with role := roleCommonUser }

variable {myRole : ℤ} {action : ManageAction}
lemma manageUser_eq_ok (h : manageUser myRole action user=.ok written) : written=action.apply user := by
  unfold manageUser at h
  split at h
  · cases h
  cases action with
  | enable => exact (Except.ok.inj h).symm
  | disable | delete =>
    simp only at h
    split at h
    · cases h
    · exact (Except.ok.inj h).symm
  | promote | demote =>
    simp only at h
    split at h
    · cases h
    split at h
    · cases h
    · exact (Except.ok.inj h).symm

lemma role_lt_of_promoted (h : manageUser myRole .promote user=.ok written) : user.role < roleAdminUser := by
  unfold manageUser at h
  split at h
  · cases h
  simp only at h
  split at h
  · cases h
  split at h
  · cases h
  next hrole => exact Int.not_le.mp hrole

lemma id_of_manageUser (h : manageUser myRole action user=.ok written) : written.id=user.id := by
  rw [manageUser_eq_ok h]
  cases action <;> rfl

lemma getUserById_updateWithTx_self (h : getUserById user.id users=some row) :
    getUserById user.id (updateWithTx user users)=some (row.assign user) := by
  obtain ⟨hid,hl,hd⟩ := getUserById_eq_some_iff.mp h
  refine getUserById_eq_some_iff.mpr ⟨hid,?_,hd⟩
  rw [lookup_updateWithTx,hl,Option.map_some,if_pos ⟨key_of_lookup hl,hd⟩]

lemma getUserById_updateWithTx_of_ne (hne : id≠user.id)
    (h : getUserById id users=some row) : getUserById id (updateWithTx user users)=some row := by
  obtain ⟨hid,hl,hd⟩ := getUserById_eq_some_iff.mp h
  refine getUserById_eq_some_iff.mpr ⟨hid,?_,hd⟩
  rw [lookup_updateWithTx,hl,Option.map_some,if_neg]
  rintro ⟨heq,-⟩
  exact hne ((key_of_lookup hl).symm.trans heq)

lemma getUserById_deleteUser_of_ne {k : ℕ} (hne : id≠k)
    (h : getUserById id users=some row) : getUserById id (deleteUser k users)=some row := by
  obtain ⟨hid,hl,hd⟩ := getUserById_eq_some_iff.mp h
  refine getUserById_eq_some_iff.mpr ⟨hid,?_,hd⟩
  rw [lookup_deleteUser,hl,Option.map_some,if_neg]
  intro heq
  exact hne ((key_of_lookup hl).symm.trans heq)
end AronaApi.Access
