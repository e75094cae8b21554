import AronaApi.Access.Account
import AronaApi.Lib.HashCache
import AronaApi.Lib.Interleave

/-! API calls and the calls that revoke their permission, with Redis enabled (`middleware/auth.go` TokenAuth,
`controller/user.go` ManageUser, `model/token.go`). Every SQL statement and every Redis command of a call is
a step of its own, which may fail; cache writes left to goroutines are tasks of the two caches. A token row
is named by its key, which never changes and is as unique as its id. -/
namespace AronaApi.Access

inductive TokenStatus
  | enabled
  | disabled
  | expired
  | exhausted
  deriving DecidableEq, Inhabited

structure TokenBase where
  userId : ℕ
  status : TokenStatus
  expiredTime : ℤ
  remainQuota : ℤ
  unlimitedQuota : Bool
  allowIps : String
  group : String
  deriving DecidableEq, Inhabited

structure TokenRow where
  key : String
  base : TokenBase
  deleted : Bool

structure UserBase where
  status : UserStatus
  group : String
  deriving DecidableEq, Inhabited

def Account.toBaseUser (user : Account) : UserBase := ⟨user.status,user.group⟩

def getTokenByKey (key : String) (tokens : List TokenRow) : Option TokenBase :=
  ((Table.lookup TokenRow.key key tokens).filter fun row => !row.deleted).map TokenRow.base

/-- The UPDATE of `Token.Update`; the owner is not among the columns it writes. -/
def updateToken (key : String) (token : TokenBase) (tokens : List TokenRow) : List TokenRow :=
  tokens.map fun row =>
    if row.key=key ∧ row.deleted=false then { row with base := { token with userId := row.base.userId } } else row

def deleteToken (key : String) (tokens : List TokenRow) : List TokenRow :=
  tokens.map fun row => if row.key=key then { row with deleted := true } else row

/-- What is left of a request once the key has been taken from its headers: `specificChannel` says that the
key was followed by the name of a channel. -/
structure Request where
  key : String
  specificChannel : Bool
  clientIp : String
  now : ℤ

/-- `GetIpLimits`, `net.ParseIP`, `IsIpInCIDRList` and the group settings of the site. -/
structure AuthEnv where
  ipLimits : String → List String
  parseIp : String → Bool
  isIpInCIDRList : String → List String → Bool
  userUsableGroups : String → List String
  containsGroupRatio : String → Bool

def tokenInvalid : Abort := ⟨401,"token.invalid"⟩
def databaseError : Abort := ⟨500,"common.database_error"⟩

/-- The checks of `ValidateUserToken` on a token it has found. -/
def validToken (now : ℤ) (token : TokenBase) : Bool :=
  token.status=.enabled && !(token.expiredTime ≠ -1 && token.expiredTime<now) &&
    !(!token.unlimitedQuota && token.remainQuota≤0)

def tokenAbort (env : AuthEnv) (r : Request) (token : TokenBase) : Option Abort :=
  let allowIps := env.ipLimits token.allowIps
  if validToken r.now token=false then some tokenInvalid
  else if allowIps=[] then none
  else if env.parseIp r.clientIp=false then some ⟨403,"无法解析客户端 IP 地址"⟩
  else if env.isIpInCIDRList r.clientIp allowIps=false then some ⟨403,"您的 IP 不在令牌允许访问的列表中"⟩
  else none

def isAdmin (id : ℕ) (users : List Account) : Bool :=
  ((getUserById id users).map fun user => decide (user.role≥roleAdminUser)).getD false

def userAbort (env : AuthEnv) (users : List Account) (r : Request) (token : TokenBase) (user : UserBase) :
    Option Abort :=
  if user.status≠.enabled then some ⟨403,"auth.user_banned"⟩
  else if token.group ≠ "" ∧ token.group∉env.userUsableGroups user.group then
    some ⟨403,"无权访问 " ++ token.group ++ " 分组"⟩
  else if token.group ≠ "" ∧ env.containsGroupRatio token.group=false ∧ token.group ≠ "auto" then
    some ⟨403,"分组 " ++ token.group ++ " 已被弃用"⟩
  else if r.specificChannel ∧ isAdmin token.userId users=false then some ⟨403,"普通用户不支持指定渠道"⟩
  else none

inductive Target
  | user (id : ℕ)
  | token (key : String)

/-- A revoking call that has returned, with the numbers of background writes to either cache that were
started before it returned and have not finished yet. -/
structure Returned where
  target : Target
  userWrites : ℕ
  tokenWrites : ℕ

structure Shared where
  users : List Account
  tokens : List TokenRow
  userCache : HashCache ℕ UserBase
  tokenCache : HashCache String TokenBase
  returned : List Returned

namespace Shared

def owner (s : Shared) (key : String) : Option ℕ :=
  (Table.lookup TokenRow.key key s.tokens).map fun row => row.base.userId

def mark (s : Shared) (target : Target) : Shared :=
  { s with returned := s.returned++[⟨target,s.userCache.tasks.length,s.tokenCache.tasks.length⟩] }

/-- A revocation that concerns the token has returned and every background write from before has finished. -/
def late (s : Shared) (key : String) : Bool :=
  s.returned.any fun r => r.userWrites=0 && r.tokenWrites=0 && match r.target with
    | .user id => s.owner key=some id
    | .token k => k=key

def backgroundUser (s : Shared) (b : Background ℕ) : Shared :=
  { s with
    userCache := s.userCache.background b
    returned := s.returned.map fun r => { r with userWrites := s.userCache.left r.userWrites b } }

def backgroundToken (s : Shared) (b : Background String) : Shared :=
  { s with
    tokenCache := s.tokenCache.background b
    returned := s.returned.map fun r => { r with tokenWrites := s.tokenCache.left r.tokenWrites b } }
end Shared

inductive Revocation
  | disable
  | delete
  deriving DecidableEq

def Revocation.action : Revocation → ManageAction
  | .disable => .disable
  | .delete => .delete

/-- `updateToken` is `UpdateToken` of the controller with `status_only` and status disabled. -/
inductive Call
  | tokenAuth (r : Request)
  | manageUser (myRole : ℤ) (rev : Revocation) (id : ℕ)
  | updateToken (key : String)
  | deleteToken (key : String)

/-- The next command of `TokenAuth`: the token's hash, its row, the goroutine that caches the row, and the
same for the user. -/
inductive AuthStep
  | getToken
  | readToken
  | cacheToken (token : TokenBase)
  | getUser (token : TokenBase)
  | readUser (token : TokenBase)
  | cacheUser (token : TokenBase) (user : UserBase)

inductive ManageStep
  | delete
  | invalidate
  | findKeys
  | deleteKeys (keys : List String)
  | update
  | updateCache

inductive TokenStep
  | update (token : TokenBase)
  | spawnSet (token : TokenBase)
  | delete
  | spawnDelete

inductive Phase
  | idle
  | auth (r : Request) (late : Bool) (step : AuthStep)
  | manage (rev : Revocation) (step : ManageStep) (user : Account)
  | token (key : String) (step : TokenStep)

inductive Failure
  | message (text : String)
  | driver
  deriving DecidableEq

/-- `late` says that the request came after a revocation of its token or user, as `Shared.late` has it. -/
inductive Outcome
  | accepted (key : String) (late : Bool)
  | rejected (key : String) (abort : Abort)
  | returned (failure : Option Failure)
  deriving DecidableEq

def checkToken (env : AuthEnv) (r : Request) (late : Bool) (token : TokenBase) : Phase × List Outcome :=
  match tokenAbort env r token with
  | some abort => (.idle,[.rejected r.key abort])
  | none => (.auth r late (.getUser token),[])

def checkUser (env : AuthEnv) (users : List Account) (r : Request) (late : Bool) (token : TokenBase)
    (user : UserBase) : Phase × List Outcome :=
  match userAbort env users r token user with
  | some abort => (.idle,[.rejected r.key abort])
  | none => (.idle,[.accepted r.key late])

/-- `TokenAuth`. Redis failing is as good as a miss. -/
def authNext (env : AuthEnv) (s : Shared) (r : Request) (late ok : Bool) :
    AuthStep → Shared × Phase × List Outcome
  | .getToken =>
    match if ok then s.tokenCache.entry r.key else none with
    | some token => (s,checkToken env r late token)
    | none => (s,.auth r late .readToken,[])
  | .readToken =>
    if ok then
      match getTokenByKey r.key s.tokens with
      | some token => (s,.auth r late (.cacheToken token),[])
      | none => (s,.idle,[.rejected r.key tokenInvalid])
    else (s,.idle,[.rejected r.key databaseError])
  | .cacheToken token =>
    ({ s with tokenCache := s.tokenCache.spawn (.put r.key token) },checkToken env r late token)
  | .getUser token =>
    match if ok then s.userCache.entry token.userId else none with
    | some user => (s,checkUser env s.users r late token user)
    | none => (s,.auth r late (.readUser token),[])
  | .readUser token =>
    match if ok then getUserById token.userId s.users else none with
    | some user => (s,.auth r late (.cacheUser token user.toBaseUser),[])
    | none => (s,.idle,[.rejected r.key databaseError])
  | .cacheUser token user =>
    ({ s with userCache := s.userCache.spawn (.put token.userId user) },checkUser env s.users r late token user)

def returnRevoked (s : Shared) (target : Target) (failure : Option Failure) : Shared × Phase × List Outcome :=
  (s.mark target,.idle,[.returned failure])

/-- `ManageUser` after its checks. Disabling runs update, updateCache, invalidate, findKeys, deleteKeys;
deleting runs delete, invalidate, findKeys, deleteKeys and then falls through to update and updateCache. -/
def manageNext (s : Shared) (rev : Revocation) (user : Account) (ok : Bool) :
    ManageStep → Shared × Phase × List Outcome
  | .delete =>
    if ok then ({ s with users := deleteUser user.id s.users },.manage rev .invalidate user,[])
    else (s,.idle,[.returned (some .driver)])
  | .invalidate =>
    if ok then ({ s with userCache := s.userCache.remove user.id },.manage rev .findKeys user,[])
    else match rev with
      | .disable => (s,.manage rev .findKeys user,[])
      | .delete => returnRevoked s (.user user.id) (some .driver)
  | .findKeys =>
    let keys := (s.tokens.filter fun row => row.base.userId=user.id ∧ row.key ≠ "").map TokenRow.key
    (s,.manage rev (.deleteKeys (if ok then keys else [])) user,[])
  | .deleteKeys [] =>
    match rev with
    | .disable => returnRevoked s (.user user.id) none
    | .delete => (s,.manage rev .update user,[])
  | .deleteKeys (key::keys) =>
    ({ s with tokenCache := if ok then s.tokenCache.remove key else s.tokenCache },
      .manage rev (.deleteKeys keys) user,[])
  | .update =>
    if ok then
      ({ s with users := updateWithTx user s.users },.manage rev .updateCache (afterUpdate user s.users),[])
    else match rev with
      | .disable => (s,.idle,[.returned (some .driver)])
      | .delete => returnRevoked s (.user user.id) (some .driver)
  | .updateCache =>
    if ok then
      let s := { s with userCache := s.userCache.set user.id user.toBaseUser }
      match rev with
      | .disable => (s,.manage rev .invalidate user,[])
      | .delete => returnRevoked s (.user user.id) none
    else returnRevoked s (.user user.id) (some .driver)

/-- `Token.Update` and `Token.Delete`. The cache is left to a goroutine. -/
def tokenNext (s : Shared) (key : String) (ok : Bool) : TokenStep → Shared × Phase × List Outcome
  | .update token =>
    if ok then ({ s with tokens := updateToken key token s.tokens },.token key (.spawnSet token),[])
    else (s,.idle,[.returned (some .driver)])
  | .spawnSet token =>
    returnRevoked { s with tokenCache := s.tokenCache.spawn (.put key token) } (.token key) none
  | .delete =>
    if ok then ({ s with tokens := deleteToken key s.tokens },.token key .spawnDelete,[])
    else (s,.idle,[.returned (some .driver)])
  | .spawnDelete =>
    returnRevoked { s with tokenCache := s.tokenCache.spawn (.delete key) } (.token key) none

/-- A call comes in. The rows that `ManageUser`, `UpdateToken` and `DeleteTokenById` work on are read now. -/
def receive (s : Shared) (ok : Bool) : Call → Shared × Phase × List Outcome
  | .tokenAuth r =>
    if r.key = "" then (s,.idle,[.rejected r.key tokenInvalid]) else (s,.auth r (s.late r.key) .getToken,[])
  | .manageUser myRole rev id =>
    let user := if ok then fillUnscoped id s.users else .blank id
    if user.id=0 then (s,.idle,[.returned (some (.message "user.not_exists"))])
    else match manageUser myRole rev.action user with
      | .error text => (s,.idle,[.returned (some (.message text))])
      | .ok user => (s,.manage rev (if rev=.disable then .update else .delete) user,[])
  | .updateToken key =>
    match if ok then getTokenByKey key s.tokens else none with
    | some token => (s,.token key (.update { token with status := .disabled }),[])
    | none => (s,.idle,[.returned (some .driver)])
  | .deleteToken key =>
    match if ok then getTokenByKey key s.tokens else none with
    | some _ => (s,.token key .delete,[])
    | none => (s,.idle,[.returned (some .driver)])

inductive Input
  | call (call : Call) (ok : Bool)
  | next (ok : Bool)

def next (env : AuthEnv) (s : Shared) : Phase → Input → Option (Shared × Phase × List Outcome)
  | .idle,.call call ok => some (receive s ok call)
  | .auth r late step,.next ok => some (authNext env s r late ok step)
  | .manage rev step user,.next ok => some (manageNext s rev user ok step)
  | .token key step,.next ok => some (tokenNext s key ok step)
  | _,_ => none

abbrev System (W : Type) := Interleave W Shared Phase Outcome

inductive Action (W : Type)
  | worker (w : W) (input : Input)
  | userCache (b : Background ℕ)
  | tokenCache (b : Background String)

variable {W : Type} [DecidableEq W]
def step (env : AuthEnv) (s : System W) : Action W → Option (System W)
  | .worker w input => Interleave.step (fun _ => next env) s (w,input)
  | .userCache b => some { s with shared := s.shared.backgroundUser b }
  | .tokenCache b => some { s with shared := s.shared.backgroundToken b }

def start (users : List Account) (tokens : List TokenRow) : System W :=
  Interleave.start ⟨users,tokens,.empty,.empty,[]⟩ .idle
end AronaApi.Access
