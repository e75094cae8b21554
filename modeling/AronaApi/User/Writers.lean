import AronaApi.Lib.Interleave
import AronaApi.Lib.RowStore
import AronaApi.User.Row
import Mathlib

/-! The operations that write one user's row: quota changes in place, directly or through a node's
batch, and profile changes that write back a row read earlier. The locking clauses of the source are
ignored by the ORM, so a `SELECT` locks nothing. -/
namespace AronaApi.UserQuota
open Function User

structure Config where
  quotaPerUnit : ℚ
  quotaForInviter : ℤ
  batchUpdateEnabled : Bool

/-- `Updates(newUser)`: the columns whose field in the struct is not the zero value. -/
def updates (newUser row : User) : User where
  username := if newUser.username ≠ "" then newUser.username else row.username
  password := if newUser.password ≠ "" then newUser.password else row.password
  displayName := if newUser.displayName ≠ "" then newUser.displayName else row.displayName
  role := if newUser.role≠0 then newUser.role else row.role
  status := if newUser.status≠0 then newUser.status else row.status
  email := if newUser.email ≠ "" then newUser.email else row.email
  quota := if newUser.quota≠0 then newUser.quota else row.quota
  group := if newUser.group ≠ "" then newUser.group else row.group
  affCode := if newUser.affCode ≠ "" then newUser.affCode else row.affCode
  affCount := if newUser.affCount≠0 then newUser.affCount else row.affCount
  affQuota := if newUser.affQuota≠0 then newUser.affQuota else row.affQuota
  affHistoryQuota := if newUser.affHistoryQuota≠0 then newUser.affHistoryQuota else row.affHistoryQuota
  setting := if newUser.setting ≠ "" then newUser.setting else row.setting
  stripeCustomer := if newUser.stripeCustomer ≠ "" then newUser.stripeCustomer else row.stripeCustomer

/-- What a profile change does to the row it has read: a new setting text (`UpdateSelf`,
`UpdateSubscriptionPreference`), a first invitation code (`GetAffCode`), a status or a role
(`ManageUser`). -/
inductive Edit
  | setting (merge : String → String)
  | affCode (code : String)
  | status (value : ℤ)
  | role (value : ℤ)

def Edit.apply : Edit → User → Option User
  | .setting merge,u => some { u with setting := merge u.setting }
  | .affCode code,u => if u.affCode = "" then some { u with affCode := code } else none
  | .status value,u => some { u with status := value }
  | .role value,u => some { u with role := value }

/-- `demote` saves inside a transaction, the other changes on their own. -/
def Edit.inTx : Edit → Bool
  | .role value => decide (value=1)
  | _ => false

/-- What a completed top-up writes: the credit, and for some providers the customer or the email. -/
def credit (quota : ℤ) (stripeCustomer email : Option String) (u : User) : User :=
  { u with
    quota := u.quota+quota
    stripeCustomer := stripeCustomer.getD u.stripeCustomer
    email := email.getD u.email }

/-- One operation. `GetUserById` leaves the password out unless `selectAll`. `cleanUser` is the struct
`UpdateSelf` fills with a user name, a password and a display name. -/
inductive Op (N : Type*)
  | increaseUserQuota (node : N) (quota : ℤ) (db : Bool)
  | decreaseUserQuota (node : N) (quota : ℤ) (db : Bool)
  | batchUpdate (node : N)
  | redeem (quota : ℤ)
  | recharge (quota : ℤ) (stripeCustomer email : Option String)
  | purchaseSubscriptionWithBalance (requiredQuota : ℤ)
  | transferAffQuotaToQuota (quota : ℤ)
  | inviteUser
  | update (selectAll : Bool) (edit : Edit)
  | updateSelf (username password displayName : String)

/-- The row, and each node's batch: what was added to it, and what its updater has taken out and not
yet written. -/
structure Shared (W N : Type*) where
  db : RowStore W Unit (fun _ => User)
  batch : N → ℤ
  flushing : N → Option ℤ

inductive Phase
  | idle
  | read (row : User)
  | wrote (delta : ℤ)
  | done (ok : Bool)
  deriving DecidableEq

/-- `take` empties a node's batch; `finish` ends a transaction, after its other statements. -/
inductive Act
  | select (fails : Bool)
  | write (fails : Bool)
  | finish (fails : Bool)
  | take
  deriving DecidableEq

/-- An operation has reported success; `delta` is what it promises to do to the quota. -/
inductive Event
  | reported (delta : ℤ)

section
variable {W N : Type*} [DecidableEq W] [DecidableEq N] (cfg : Config) (w : W) (s : Shared W N)
def giveUp : Shared W N × Phase × List Event := ({ s with db := s.db.abort w },.done false,[])

def autocommit (f : User → User) (delta : ℤ) (fails : Bool) : Option (Shared W N × Phase × List Event) :=
  if fails then some (giveUp w s)
  else (s.db.update w () f).map fun db => ({ s with db := db.commit w },.done true,[.reported delta])

def write (f : User → User) (delta : ℤ) (fails : Bool) : Option (Shared W N × Phase × List Event) :=
  if fails then some (giveUp w s)
  else (s.db.update w () f).map fun db => ({ s with db := db },.wrote delta,[])

/-- `IncreaseUserQuota` and `DecreaseUserQuota` once the amount is checked. -/
def changeQuota (node : N) (delta : ℤ) (db fails : Bool) : Option (Shared W N × Phase × List Event) :=
  if db=false ∧ cfg.batchUpdateEnabled=true then
    some ({ s with batch := update s.batch node (s.batch node+delta) },.done true,[.reported delta])
  else autocommit w s (addQuota delta) delta fails

/-- `batchUpdate`. A failing statement is logged and its amount is gone. -/
def flush (node : N) (fails : Bool) : Option (Shared W N × Phase × List Event) :=
  match s.flushing node with
  | none => none
  | some v =>
    let s' : Shared W N := { s with flushing := update s.flushing node none }
    if v=0 ∨ fails then some (s',.idle,[])
    else (s.db.update w () (addQuota v)).map fun db => ({ s' with db := db.commit w },.idle,[])

/-- The checks on the row after the `SELECT`. -/
def examine (row : User) : Op N → Phase
  | .purchaseSubscriptionWithBalance n => if 0<n ∧ row.quota<n then .done false else .read row
  | .transferAffQuotaToQuota n => if row.affQuota<n then .done false else .read row
  | .inviteUser => .read row
  | .update selectAll edit =>
    match edit.apply (if selectAll then row else { row with password := "" }) with
    | none => .done true
    | some newUser => .read newUser
  | _ => .done false

def select (op : Op N) (fails : Bool) : Option (Shared W N × Phase × List Event) :=
  match op with
  | .purchaseSubscriptionWithBalance _ | .inviteUser | .update _ _ =>
    if fails then some (giveUp w s) else some (s,examine (s.db.view w ()) op,[])
  | .transferAffQuotaToQuota n =>
    if (n : ℚ)<cfg.quotaPerUnit ∨ fails then some (giveUp w s) else some (s,examine (s.db.view w ()) op,[])
  | _ => none

def next (op : Op N) : Phase → Act → Option (Shared W N × Phase × List Event)
  | .idle,.select fails => select cfg w s op fails
  | .idle,.take =>
    match op with
    | .batchUpdate node =>
      if s.flushing node=none then
        some ({ s with
          batch := update s.batch node 0
          flushing := update s.flushing node (some (s.batch node)) },.idle,[])
      else none
    | _ => none
  | .idle,.write fails =>
    match op with
    | .increaseUserQuota node quota db => if quota<0 then some (giveUp w s) else changeQuota cfg w s node quota db fails
    | .decreaseUserQuota node quota db =>
      if quota<0 then some (giveUp w s) else changeQuota cfg w s node (-quota) db fails
    | .batchUpdate node => flush w s node fails
    | .redeem quota => write w s (addQuota quota) quota fails
    | .recharge quota stripeCustomer email => write w s (credit quota stripeCustomer email) quota fails
    | .updateSelf username password displayName =>
      let cleanUser : User := { blank username with
        password := password, displayName := displayName, role := 0, status := 0, group := "" }
      autocommit w s (updates cleanUser) 0 fails
    | _ => none
  | .read row,.write fails =>
    match op with
    | .purchaseSubscriptionWithBalance n => if 0<n then write w s (addQuota (-n)) (-n) fails else some (s,.wrote 0,[])
    | .transferAffQuotaToQuota n =>
      write w s (fun _ => { row with affQuota := row.affQuota-n, quota := row.quota+n }) n fails
    | .inviteUser =>
      autocommit w s (fun _ => { row with
        affCount := row.affCount+1
        affQuota := row.affQuota+cfg.quotaForInviter
        affHistoryQuota := row.affHistoryQuota+cfg.quotaForInviter }) 0 fails
    | .update _ edit => if edit.inTx then write w s (updates row) 0 fails else autocommit w s (updates row) 0 fails
    | _ => none
  | .wrote delta,.finish fails =>
    if fails then some (giveUp w s)
    else some ({ s with db := s.db.commit w },.done true,[.reported delta])
  | _,_ => none
end

abbrev Sys (W N : Type*) := Interleave W (Shared W N) Phase Event

def step {W N : Type*} [DecidableEq W] [DecidableEq N] (cfg : Config) (job : W → Op N) :
    Sys W N → W × Act → Option (Sys W N) :=
  Interleave.step fun w s => next cfg w s (job w)

def init (W N : Type*) (row : User) : Sys W N :=
  Interleave.start ⟨RowStore.quiet fun _ => row,fun _ => 0,fun _ => none⟩ .idle
end AronaApi.UserQuota
