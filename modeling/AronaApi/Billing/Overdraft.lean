import AronaApi.Billing.Session
import AronaApi.Lib.HashCache
import AronaApi.Lib.Interleave
import AronaApi.Lib.Sums

/-! Sessions on wallets opened at the same time. Each read and each update is a step of its own; the checks
read the cache where there is one, and the updates take their amount whatever the row holds by then.

How much concurrent sessions may hold. A check is only worth something at the update that it guards:
if each pre-consume finds at least what it has read, the sessions never hold more than there was. -/
namespace AronaApi.Billing.Concurrent

section
/-- A user's `quota` or a token's `remain_quota`. -/
inductive Account
  | user (id : ℕ)
  | token (id : ℕ)
  deriving DecidableEq

structure Accounts where
  balance : Account → ℤ
  cache : HashCache Account ℤ

namespace Accounts

/-- `UPDATE … SET quota = quota + delta`. -/
def add (s : Accounts) (a : Account) (delta : ℤ) : Accounts :=
  { s with balance := Function.update s.balance a (s.balance a+delta) }

def spawn (redis : Bool) (s : Accounts) (task : CacheTask Account ℤ) : Accounts :=
  if redis then { s with cache := s.cache.spawn task } else s

/-- `cacheIncrUserQuota`, `cacheIncrTokenQuota` and their inverses, started before the row is updated. -/
def spawnAdd (redis : Bool) (s : Accounts) (a : Account) (delta : ℤ) : Accounts :=
  s.spawn redis (.amend a (·+delta) false)
end Accounts

structure Request where
  info : RelayInfo
  tokenId : ℕ
  preConsumedQuota : ℤ

def Request.wallet (r : Request) : Account := .user r.info.userId
def Request.token (r : Request) : Account := .token r.tokenId

inductive Stage
  | getUserQuota
  | getUserById
  | selectQuota
  | getTokenByKey (userQuota : ℤ)
  | selectToken (userQuota : ℤ)
  | decreaseTokenQuota (userQuota remainQuota : ℤ)
  | decreaseUserQuota (userQuota : ℤ)
  | rollbackToken
  | refused
  | granted
  | settleFunding (delta : ℤ)
  | settleToken (delta : ℤ)
  | refundFunding
  | refundToken
  | ended
  deriving DecidableEq

/-- A session on its way; the last two fields record what its statements have taken from the rows. -/
structure Progress where
  stage : Stage
  preConsumedQuota : ℤ
  walletOut : ℤ
  tokenOut : ℤ

def Progress.start : Progress := ⟨.getUserQuota,0,0,0⟩

inductive Act
  | work (fails : Bool)
  | settle (actualQuota : ℕ)
  | refund

section
variable (cfg : Config) (redis : Bool) (r : Request) (s : Accounts) (p : Progress)
/-- `tryWallet` and `preConsume` up to the next statement, once the quota is read. -/
def afterUserQuota (userQuota : ℤ) : Accounts × Progress :=
  if userQuota≤0 then (s,{ p with stage := .refused })
  else if userQuota-r.preConsumedQuota<0 then (s,{ p with stage := .refused })
  else
    let session := BillingSession.fresh { r.info with userQuota := userQuota } (.wallet 0)
    let effectiveQuota := if session.shouldTrust cfg then 0 else r.preConsumedQuota
    let p := { p with preConsumedQuota := effectiveQuota }
    if 0<effectiveQuota then
      if r.info.isPlayground then
        (s.spawnAdd redis r.wallet (-effectiveQuota),{ p with stage := .decreaseUserQuota userQuota })
      else (s,{ p with stage := .getTokenByKey userQuota })
    else (s,{ p with stage := .granted })

/-- `PreConsumeTokenQuota` up to the update, once the token is read. -/
def afterToken (userQuota remainQuota : ℤ) : Accounts × Progress :=
  if r.info.tokenUnlimited=false ∧ remainQuota<p.preConsumedQuota then (s,{ p with stage := .refused })
  else (s.spawnAdd redis r.token (-p.preConsumedQuota),{ p with stage := .decreaseTokenQuota userQuota remainQuota })

/-- The next statement of a session; `fails` is the answer of the database or of Redis to it. -/
def work (fails : Bool) : Option (Accounts × Progress) :=
  let stop := some (s,{ p with stage := .refused })
  match p.stage with
  | .getUserQuota =>
    if redis then
      match if fails then none else s.cache.entry r.wallet with
      | some userQuota => some (afterUserQuota cfg redis r s p userQuota)
      | none => some (s,{ p with stage := .getUserById })
    else if fails then stop
    else some (afterUserQuota cfg redis r s p (s.balance r.wallet))
  | .getUserById =>
    if fails then some (s,{ p with stage := .selectQuota })
    else
      let userQuota := s.balance r.wallet
      some (afterUserQuota cfg redis r (s.spawn redis (.put r.wallet userQuota)) p userQuota)
  | .selectQuota =>
    if fails then stop
    else
      let userQuota := s.balance r.wallet
      some (afterUserQuota cfg redis r (s.spawn redis (.amend r.wallet (fun _ => userQuota) false)) p userQuota)
  | .getTokenByKey userQuota =>
    if redis then
      match if fails then none else s.cache.entry r.token with
      | some remainQuota => some (afterToken redis r s p userQuota remainQuota)
      | none => some (s,{ p with stage := .selectToken userQuota })
    else if fails then stop
    else some (afterToken redis r s p userQuota (s.balance r.token))
  | .selectToken userQuota =>
    if fails then stop
    else
      let remainQuota := s.balance r.token
      some (afterToken redis r (s.spawn redis (.put r.token remainQuota)) p userQuota remainQuota)
  | .decreaseTokenQuota userQuota _ =>
    if fails then stop
    else some ((s.add r.token (-p.preConsumedQuota)).spawnAdd redis r.wallet (-p.preConsumedQuota),
      { p with stage := .decreaseUserQuota userQuota, tokenOut := p.tokenOut+p.preConsumedQuota })
  | .decreaseUserQuota _ =>
    if fails then
      if r.info.isPlayground then stop
      else some (s.spawnAdd redis r.token p.preConsumedQuota,{ p with stage := .rollbackToken })
    else some (s.add r.wallet (-p.preConsumedQuota),
      { p with stage := .granted, walletOut := p.walletOut+p.preConsumedQuota })
  | .rollbackToken =>
    if fails then stop
    else some (s.add r.token p.preConsumedQuota,
      { p with stage := .refused, tokenOut := p.tokenOut-p.preConsumedQuota })
  | .settleFunding delta =>
    -- a failed settlement leaves the session open
    if fails then some (s,{ p with stage := .granted })
    else
      let s := s.add r.wallet (-delta)
      let p := { p with walletOut := p.walletOut+delta }
      if r.info.isPlayground then some (s,{ p with stage := .ended })
      else some (s.spawnAdd redis r.token (-delta),{ p with stage := .settleToken delta })
  | .settleToken delta =>
    if fails then some (s,{ p with stage := .ended })
    else some (s.add r.token (-delta),{ p with stage := .ended, tokenOut := p.tokenOut+delta })
  | .refundFunding =>
    let sp := if fails then (s,p)
      else (s.add r.wallet p.preConsumedQuota,{ p with walletOut := p.walletOut-p.preConsumedQuota })
    if r.info.isPlayground then some (sp.1,{ sp.2 with stage := .ended })
    else some (sp.1.spawnAdd redis r.token p.preConsumedQuota,{ sp.2 with stage := .refundToken })
  | .refundToken =>
    if fails then some (s,{ p with stage := .ended })
    else some (s.add r.token p.preConsumedQuota,{ p with stage := .ended, tokenOut := p.tokenOut-p.preConsumedQuota })
  | .refused | .granted | .ended => none

/-- `Settle` up to its first statement. -/
def settle (actualQuota : ℤ) : Option (Accounts × Progress) :=
  if p.stage=.granted then
    let delta := actualQuota-p.preConsumedQuota
    if delta=0 then some (s,{ p with stage := .ended })
    else some (s.spawnAdd redis r.wallet (-delta),{ p with stage := .settleFunding delta })
  else none

/-- `Refund` up to its first statement; there is nothing to do when nothing was taken. -/
def refund : Option (Accounts × Progress) :=
  if p.stage=.granted ∧ 0<p.preConsumedQuota then
    some (s.spawnAdd redis r.wallet p.preConsumedQuota,{ p with stage := .refundFunding })
  else none

def next : Act → Option (Accounts × Progress)
  | .work fails => work cfg redis r s p fails
  | .settle actualQuota => settle redis r s p actualQuota
  | .refund => refund redis r s p
end

abbrev Sys (W : Type*) := Interleave W Accounts Progress Empty

inductive Action (W : Type*)
  | session (w : W) (act : Act)
  | cache (event : Background Account)

variable {W : Type*} [DecidableEq W] (cfg : Config) (redis : Bool) (req : W → Request)
def step (s : Sys W) : Action W → Option (Sys W)
  | .session w act => (next cfg redis (req w) s.shared (s.phase w) act).map fun r => s.advance w (r.1,r.2,[])
  | .cache event => some { s with shared := { s.shared with cache := s.shared.cache.background event } }

def start (balance : Account → ℤ) : Sys W := Interleave.start ⟨balance,.empty⟩ .start
end

open Schedule Progress Stage BillingSession

def Stage.isOpen : Stage → Bool
  | .granted | .settleFunding _ | .refundFunding => true
  | _ => false

def Stage.isSettling : Stage → Bool
  | .settleFunding _ | .settleToken _ => true
  | _ => false

def Stage.isTaking : Stage → Bool
  | .decreaseUserQuota _ | .rollbackToken => true
  | _ => false

def Stage.isReading : Stage → Bool
  | .getUserQuota | .getUserById | .selectQuota | .getTokenByKey _ | .selectToken _ => true
  | _ => false

def Stage.isUpdating : Stage → Bool
  | .decreaseTokenQuota _ _ | .decreaseUserQuota _ | .rollbackToken => true
  | _ => false

namespace Progress
variable (r : Request) (p : Progress)
def held : Account → ℤ
  | .user id => if id=r.info.userId ∧ p.stage.isOpen then p.preConsumedQuota else 0
  | .token id => if id=r.tokenId ∧ r.info.isPlayground=false ∧ p.stage.isOpen then p.preConsumedQuota else 0

/-- As `held`, with what is on its way, and never negative. -/
def reserved : Account → ℤ
  | .user id => if id=r.info.userId ∧ p.stage.isOpen then max p.preConsumedQuota 0 else 0
  | .token id =>
    if id=r.tokenId ∧ r.info.isPlayground=false ∧ (p.stage.isOpen ∨ p.stage.isTaking) then max p.preConsumedQuota 0
    else 0

def out : Account → ℤ
  | .user id => if id=r.info.userId then p.walletOut else 0
  | .token id => if id=r.tokenId then p.tokenOut else 0

def Backed : Prop :=
  p.walletOut=max p.preConsumedQuota 0 ∧ p.tokenOut=if r.info.isPlayground then 0 else max p.preConsumedQuota 0

def Valid : Prop :=
  match p.stage with
  | .getUserQuota | .getUserById | .selectQuota => p.walletOut=0 ∧ p.tokenOut=0
  | .getTokenByKey userQuota | .selectToken userQuota =>
    p.walletOut=0 ∧ p.tokenOut=0 ∧ 0<p.preConsumedQuota ∧ p.preConsumedQuota≤userQuota ∧ r.info.isPlayground=false
  | .decreaseTokenQuota userQuota remainQuota =>
    p.walletOut=0 ∧ p.tokenOut=0 ∧ 0<p.preConsumedQuota ∧ p.preConsumedQuota≤userQuota ∧
      r.info.isPlayground=false ∧ (r.info.tokenUnlimited=false → p.preConsumedQuota ≤ remainQuota)
  | .decreaseUserQuota userQuota =>
    p.walletOut=0 ∧ (p.tokenOut=if r.info.isPlayground then 0 else p.preConsumedQuota) ∧
      0<p.preConsumedQuota ∧ p.preConsumedQuota≤userQuota
  | .rollbackToken => p.walletOut=0 ∧ p.tokenOut=p.preConsumedQuota ∧ 0<p.preConsumedQuota ∧ r.info.isPlayground=false
  | .granted => p.Backed r
  | .settleFunding delta => p.Backed r ∧ 0≤p.preConsumedQuota+delta
  | .settleToken delta => 0≤p.walletOut ∧ 0≤p.tokenOut ∧ 0≤p.tokenOut+delta
  | .refundFunding => p.Backed r ∧ 0<p.preConsumedQuota
  | .refundToken => 0≤p.walletOut ∧ p.tokenOut=p.preConsumedQuota ∧ 0<p.preConsumedQuota
  | .refused | .ended => 0≤p.walletOut ∧ 0≤p.tokenOut
end Progress

variable {cfg : Config} {redis : Bool} {r : Request} {s s' : Accounts} {p p' : Progress}
lemma Progress.Valid.nonneg (h : p.Valid r) : 0≤p.walletOut ∧ 0≤p.tokenOut := by
  unfold Progress.Valid Progress.Backed at h
  split at h <;> omega

lemma Progress.Valid.out_nonneg (h : p.Valid r) (a : Account) : 0≤p.out r a := by
  cases a with
  | user id =>
    simp only [out]
    split
    · exact h.nonneg.1
    · exact le_rfl
  | token id =>
    simp only [out]
    split
    · exact h.nonneg.2
    · exact le_rfl

lemma Progress.Valid.reserved_le_out (h : p.Valid r) (a : Account) : p.reserved r a≤p.out r a := by
  have hnonn := h.out_nonneg a
  unfold reserved
  split
  next id =>
    split
    next hopen =>
      obtain ⟨rfl,hopen⟩ := hopen
      rw [out,if_pos rfl]
      unfold Progress.Valid Progress.Backed at h
      split at h <;> simp_all [isOpen]
    · exact hnonn
  next id =>
  split
  next hopen =>
    obtain ⟨rfl,hplay,hopen⟩ := hopen
    rw [out,if_pos rfl]
    unfold Progress.Valid Progress.Backed at h
    split at h <;> simp_all [isOpen,isTaking] <;> omega
  · exact hnonn

lemma Progress.held_le_reserved (r : Request) (p : Progress) (a : Account) : p.held r a≤p.reserved r a := by
  cases a with
  | user id =>
    simp only [held,reserved]
    split
    · exact le_max_left _ _
    · exact le_rfl
  | token id =>
    simp only [held,reserved]
    split
    next hopen =>
      rw [if_pos ⟨hopen.1,hopen.2.1,.inl hopen.2.2⟩]
      exact le_max_left _ _
    · split
      · exact le_max_right _ _
      · exact le_rfl

@[simp] lemma balance_spawn (task : CacheTask Account ℤ) : (s.spawn redis task).balance=s.balance := by
  unfold Accounts.spawn
  split <;> rfl

@[simp] lemma balance_spawnAdd (a : Account) (delta : ℤ) : (s.spawnAdd redis a delta).balance=s.balance :=
  balance_spawn _

lemma balance_add_self (a : Account) (delta : ℤ) : (s.add a delta).balance a=s.balance a+delta :=
  Function.update_self _ _ _

lemma balance_add_of_ne {a b : Account} (h : b≠a) (delta : ℤ) : (s.add a delta).balance b=s.balance b :=
  Function.update_of_ne h _ _

def Limited (r : Request) (a : Account) : Prop := a=r.token → r.info.tokenUnlimited=false

/-- What one step of a session does. The rows and the session's books move together, and an account that is
drawn upon for a new reservation is not overdrawn. -/
structure Effect (r : Request) (s : Accounts) (p : Progress) (s' : Accounts) (p' : Progress) : Prop where
  valid : p'.Valid r
  conserves : ∀ a, s'.balance a+p'.out r a=s.balance a+p.out r a
  covered : ∀ a, Limited r a → 0 ≤ s'.balance a ∨
    p'.reserved r a≤p.reserved r a ∧ (p.stage.isSettling=true ∨ s.balance a ≤ s'.balance a)

lemma Effect.quiet (hvalid : p'.Valid r) (hbal : s'.balance=s.balance)
    (hwall : p'.walletOut=p.walletOut) (htkn : p'.tokenOut=p.tokenOut)
    (hres : ∀ a, p'.reserved r a≤p.reserved r a) : Effect r s p s' p' where
  valid := hvalid
  conserves a := by cases a <;> simp only [out,hbal,hwall,htkn]
  covered a _ := .inr ⟨hres a,.inr (by rw [hbal])⟩

/-- An amount is taken from one account. -/
lemma Effect.moved {acc : Account} (delta : ℤ) (hvalid : p'.Valid r) (hbal : s'.balance=(s.add acc (-delta)).balance)
    (hself : p'.out r acc=p.out r acc+delta) (hout : ∀ a, a≠acc → p'.out r a=p.out r a)
    (hcov : Limited r acc → 0 ≤ s.balance acc-delta ∨ p'.reserved r acc≤p.reserved r acc ∧
      (p.stage.isSettling=true ∨ delta≤0))
    (hoth : ∀ a, a≠acc → p'.reserved r a≤p.reserved r a) : Effect r s p s' p' where
  valid := hvalid
  conserves a := by
    rw [hbal]
    by_cases ha : a=acc
    · rw [ha,balance_add_self,hself]
      omega
    · rw [balance_add_of_ne ha,hout a ha]
  covered a hlim := by
    rw [hbal]
    by_cases ha : a=acc
    · rw [ha] at hlim ⊢
      rw [balance_add_self]
      rcases hcov hlim with hcov | ⟨hres,hkind⟩
      · exact .inl (by omega)
      · exact .inr ⟨hres,hkind.imp id fun hneg => by omega⟩
    · rw [balance_add_of_ne ha]
      exact .inr ⟨hoth a ha,.inr le_rfl⟩

lemma Effect.wallet (delta : ℤ) (hvalid : p'.Valid r)
    (hbal : s'.balance=(s.add r.wallet (-delta)).balance) (hwall : p'.walletOut=p.walletOut+delta)
    (htkn : p'.tokenOut=p.tokenOut)
    (hself : 0 ≤ s.balance r.wallet-delta ∨ p'.reserved r r.wallet≤p.reserved r r.wallet ∧
      (p.stage.isSettling=true ∨ delta≤0))
    (hoth : ∀ a, a≠r.wallet → p'.reserved r a≤p.reserved r a) : Effect r s p s' p' := by
  refine .moved delta hvalid hbal (by simp [Request.wallet,out,hwall]) (fun a ha => ?_) (fun _ => hself) hoth
  cases a <;> simp_all [Request.wallet,out]

lemma Effect.token (delta : ℤ) (hvalid : p'.Valid r)
    (hbal : s'.balance=(s.add r.token (-delta)).balance) (hwall : p'.walletOut=p.walletOut)
    (htkn : p'.tokenOut=p.tokenOut+delta) (hself : r.info.tokenUnlimited=false → 0 ≤ s.balance r.token-delta ∨
      p'.reserved r r.token≤p.reserved r r.token ∧ (p.stage.isSettling=true ∨ delta≤0))
    (hoth : ∀ a, a≠r.token → p'.reserved r a≤p.reserved r a) : Effect r s p s' p' := by
  refine .moved delta hvalid hbal (by simp [Request.token,out,
    htkn]) (fun a ha => ?_) (fun hlim => hself (hlim rfl)) hoth
  cases a <;> simp_all [Request.token,out]

lemma Progress.reserved_nonneg (r : Request) (p : Progress) (a : Account) : 0≤p.reserved r a := by
  cases a with
  | user id | token id =>
    simp only [reserved]
    split
    · exact le_max_right _ _
    · exact le_rfl

lemma Progress.reserved_of_closed (hopen : p.stage.isOpen=false) (htaking : p.stage.isTaking=false)
    (a : Account) : p.reserved r a=0 := by
  cases a <;> simp [reserved,hopen,htaking]

lemma Progress.reserved_le_of_closed (hopen : p'.stage.isOpen=false) (htaking : p'.stage.isTaking=false)
    (a : Account) : p'.reserved r a≤p.reserved r a :=
  (reserved_of_closed hopen htaking a).trans_le (p.reserved_nonneg r a)

section
variable (hvalid : p'.Valid r) (hopen : p'.stage.isOpen=false) (htaking : p'.stage.isTaking=false)
include hvalid hopen htaking
/-! Steps to a stage that holds no reservation: without a statement, or with one of a settlement or a refund. -/

lemma Effect.closing (hbal : s'.balance=s.balance) (hwall : p'.walletOut=p.walletOut)
    (htkn : p'.tokenOut=p.tokenOut) : Effect r s p s' p' :=
  .quiet hvalid hbal hwall htkn (reserved_le_of_closed hopen htaking)

lemma Effect.closingWallet (delta : ℤ) (hbal : s'.balance=(s.add r.wallet (-delta)).balance)
    (hwall : p'.walletOut=p.walletOut+delta) (htkn : p'.tokenOut=p.tokenOut)
    (hkind : p.stage.isSettling=true ∨ delta≤0) : Effect r s p s' p' :=
  .wallet delta hvalid hbal hwall htkn (.inr ⟨reserved_le_of_closed hopen htaking _,hkind⟩)
    fun a _ => reserved_le_of_closed hopen htaking a

lemma Effect.closingToken (delta : ℤ) (hbal : s'.balance=(s.add r.token (-delta)).balance)
    (hwall : p'.walletOut=p.walletOut) (htkn : p'.tokenOut=p.tokenOut+delta)
    (hkind : p.stage.isSettling=true ∨ delta≤0) : Effect r s p s' p' :=
  .token delta hvalid hbal hwall htkn (fun _ => .inr ⟨reserved_le_of_closed hopen htaking _,hkind⟩)
    fun a _ => reserved_le_of_closed hopen htaking a
end

variable {userQuota : ℤ} {fails : Bool} {s₀ : Accounts}
lemma afterUserQuota_effect (hs : s₀.balance=s.balance) (hwall : p.walletOut=0)
    (htkn : p.tokenOut=0) (h : afterUserQuota cfg redis r s₀ p userQuota=(s',p')) : Effect r s p s' p' := by
  unfold afterUserQuota at h
  split at h
  · cases h
    exact .closing ⟨hwall.ge,htkn.ge⟩ rfl rfl hs rfl rfl
  split at h
  · cases h
    exact .closing ⟨hwall.ge,htkn.ge⟩ rfl rfl hs rfl rfl
  next hchc =>
  simp only at h
  generalize heff : (if shouldTrust cfg _=true then (0 : ℤ) else r.preConsumedQuota) = effective at h
  have hle : 0<effective → effective≤userQuota := by
    intro hpos
    split at heff <;> omega
  split at h
  next hpos =>
    split at h
    next hplay =>
      cases h
      refine .quiet ⟨hwall,?_,hpos,hle hpos⟩ (by simpa using hs) rfl rfl fun a => ?_
      · rw [if_pos hplay]
        exact htkn
      · refine le_of_eq_of_le ?_ (p.reserved_nonneg r a)
        cases a <;> simp [reserved,isOpen,hplay]
    next hplay =>
    cases h
    exact .closing ⟨hwall,htkn,hpos,hle hpos,by simpa using hplay⟩ rfl rfl hs rfl rfl
  next hpos =>
  cases h
  have hzero : max effective 0=0 := max_eq_right (not_lt.mp hpos)
  refine .quiet ⟨?_,?_⟩ hs rfl rfl fun a => ?_
  · exact hwall.trans hzero.symm
  · simp only [hzero,ite_self]
    exact htkn
  · refine le_of_eq_of_le ?_ (p.reserved_nonneg r a)
    cases a <;> simp [reserved,hzero]

variable {remainQuota : ℤ}
lemma afterToken_effect (hs : s₀.balance=s.balance) (hwall : p.walletOut=0)
    (htkn : p.tokenOut=0) (hpos : 0<p.preConsumedQuota) (hle : p.preConsumedQuota≤userQuota)
    (hplay : r.info.isPlayground=false) (h : afterToken redis r s₀ p userQuota remainQuota=(s',p')) :
    Effect r s p s' p' := by
  unfold afterToken at h
  split at h
  · cases h
    exact .closing ⟨hwall.ge,htkn.ge⟩ rfl rfl hs rfl rfl
  next henough =>
  cases h
  refine .closing ⟨hwall,htkn,hpos,hle,hplay,fun hlim => ?_⟩ rfl rfl (by simpa using hs) rfl rfl
  exact not_lt.mp fun hlt => henough ⟨hlim,hlt⟩

def FreshAt (r : Request) (s : Accounts) (p : Progress) : Act → Prop
  | .work false =>
    match p.stage with
    | .decreaseTokenQuota _ remainQuota => r.info.tokenUnlimited=false → remainQuota ≤ s.balance r.token
    | .decreaseUserQuota userQuota => userQuota ≤ s.balance r.wallet
    | _ => True
  | _ => True

def Stage.fallback : Stage → Option Stage
  | .getUserQuota => some .getUserById
  | .getUserById => some .selectQuota
  | .getTokenByKey userQuota => some (.selectToken userQuota)
  | _ => none

inductive Reads (cfg : Config) (redis : Bool) (r : Request) (s : Accounts) (p : Progress) : Accounts × Progress → Prop
  | refused : Reads cfg redis r s p (s,{ p with stage := .refused })
  | fallback {stage : Stage} (next : p.stage.fallback=some stage) : Reads cfg redis r s p (s,{ p with stage := stage })
  | userQuota {s₀ : Accounts} {userQuota : ℤ} (same : s₀.balance=s.balance)
      (stage : p.stage=.getUserQuota ∨ p.stage=.getUserById ∨ p.stage=.selectQuota) :
      Reads cfg redis r s p (afterUserQuota cfg redis r s₀ p userQuota)
  | token {s₀ : Accounts} {userQuota remainQuota : ℤ} (same : s₀.balance=s.balance)
      (stage : p.stage=.getTokenByKey userQuota ∨ p.stage=.selectToken userQuota) :
      Reads cfg redis r s p (afterToken redis r s₀ p userQuota remainQuota)

variable {x : Accounts × Progress} {act : Act}
lemma work_reads (h : work cfg redis r s p fails=some x) (hstg : p.stage.isReading=true) : Reads cfg redis r s p x := by
  unfold work at h
  cases hs : p.stage with
  | getUserQuota =>
    simp only [hs] at h
    split at h
    · split at h <;> cases h
      · exact .userQuota rfl (.inl hs)
      · exact .fallback (by rw [hs]; rfl)
    split at h <;> cases h
    · exact .refused
    · exact .userQuota rfl (.inl hs)
  | getUserById =>
    simp only [hs] at h
    split at h <;> cases h
    · exact .fallback (by rw [hs]; rfl)
    · exact .userQuota (balance_spawn _) (.inr (.inl hs))
  | selectQuota =>
    simp only [hs] at h
    split at h <;> cases h
    · exact .refused
    · exact .userQuota (balance_spawn _) (.inr (.inr hs))
  | getTokenByKey userQuota =>
    simp only [hs] at h
    split at h
    · split at h <;> cases h
      · exact .token rfl (.inl hs)
      · exact .fallback (by rw [hs]; rfl)
    split at h <;> cases h
    · exact .refused
    · exact .token rfl (.inl hs)
  | selectToken userQuota =>
    simp only [hs] at h
    split at h <;> cases h
    · exact .refused
    · exact .token (balance_spawn _) (.inr hs)
  | _ =>
    rw [hs] at hstg
    cases hstg

lemma read_effect (hvalid : p.Valid r) (h : work cfg redis r s p fails=some (s',p'))
    (hstg : p.stage.isReading=true) : Effect r s p s' p' := by
  obtain ⟨stage,pre,walletOut,tokenOut⟩ := p
  generalize hx : (s',p')=x at h
  cases work_reads h hstg with
  | refused =>
    cases hx
    exact .closing hvalid.nonneg rfl rfl rfl rfl rfl
  | fallback hnext =>
    cases hx
    cases stage <;> cases hnext <;> exact .closing hvalid rfl rfl rfl rfl rfl
  | userQuota hsame hreads =>
    obtain ⟨hw,ht⟩ : walletOut=0 ∧ tokenOut=0 := by rcases hreads with rfl | rfl | rfl <;> exact hvalid
    exact afterUserQuota_effect hsame hw ht hx.symm
  | @token s₀ userQuota _ hsame hreads =>
    obtain ⟨hw,ht,hpos,hle,hplay⟩ :
        walletOut=0 ∧ tokenOut=0 ∧ 0<pre ∧ pre≤userQuota ∧ r.info.isPlayground=false := by
      rcases hreads with rfl | rfl <;> exact hvalid
    exact afterToken_effect hsame hw ht hpos hle hplay hx.symm

lemma take_effect (hvalid : p.Valid r) (hfresh : FreshAt r s p (.work fails))
    (h : work cfg redis r s p fails=some (s',p')) (hstg : p.stage.isUpdating=true) : Effect r s p s' p' := by
  have hnonn := hvalid.nonneg
  obtain ⟨stage,pre,walletOut,tokenOut⟩ := p
  cases stage with
  | decreaseTokenQuota userQuota remainQuota =>
    obtain ⟨hw,ht,hpos,hle,hplay,henough⟩ := hvalid
    simp only at hw ht hpos hle henough
    simp only [work] at h
    split at h
    · cases h
      exact .closing hnonn rfl rfl rfl rfl rfl
    next hok =>
    cases h
    rw [Bool.not_eq_true] at hok
    subst hok
    refine .token pre ⟨hw,?_,hpos,hle⟩ (balance_spawnAdd _ _) rfl rfl (fun hlim => .inl ?_) fun a ha => ?_
    · simp only [hplay,ht]
      simp
    · have hread : remainQuota ≤ s.balance r.token := hfresh hlim
      have hrd' := henough hlim
      omega
    · refine le_of_eq_of_le ?_ (reserved_nonneg r _ a)
      cases a with
      | user id => simp [reserved,isOpen]
      | token id =>
        have hne : id≠r.tokenId := fun he => ha (congrArg Account.token he)
        simp [reserved,hne]
  | decreaseUserQuota userQuota =>
    obtain ⟨hw,ht,hpos,hle⟩ := hvalid
    simp only at hw ht hpos hle
    simp only [work] at h
    split at h
    · split at h
      · cases h
        exact .closing hnonn rfl rfl rfl rfl rfl
      next hplay =>
      cases h
      rw [if_neg hplay] at ht
      refine .quiet ⟨hw,ht,hpos,by simpa using hplay⟩ (balance_spawnAdd _ _) rfl rfl fun a => ?_
      cases a <;> simp [reserved,isOpen,isTaking]
    next hok =>
    cases h
    rw [Bool.not_eq_true] at hok
    subst hok
    have hmax : max pre 0=pre := max_eq_left hpos.le
    refine .wallet pre ⟨?_,?_⟩ rfl rfl rfl (.inl ?_) fun a ha => ?_
    · simp only [hmax,hw]
      omega
    · simp only [hmax]
      exact ht
    · have hread : userQuota ≤ s.balance r.wallet := hfresh
      omega
    · cases a with
      | user id =>
        have hne : id≠r.info.userId := fun he => ha (congrArg Account.user he)
        simp [reserved,hne]
      | token id => simp [reserved,isOpen,isTaking]
  | rollbackToken =>
    obtain ⟨hw,ht,hpos,-⟩ := hvalid
    simp only at ht hpos
    simp only [work] at h
    split at h
    · cases h
      exact .closing hnonn rfl rfl rfl rfl rfl
    cases h
    have hback : 0≤tokenOut-pre := by omega
    exact .closingToken ⟨hnonn.1,hback⟩ rfl rfl (-pre) (by rw [neg_neg]) rfl (sub_eq_add_neg _ _)
      (.inr (by omega))
  | _ => cases hstg

lemma settle_effect (hvalid : p.Valid r) (h : work cfg redis r s p fails=some (s',p'))
    (hstg : p.stage.isSettling=true) : Effect r s p s' p' := by
  obtain ⟨stage,pre,walletOut,tokenOut⟩ := p
  cases stage with
  | settleFunding delta =>
    obtain ⟨⟨hw,ht⟩,hact⟩ := hvalid
    simp only at hw ht hact
    simp only [work] at h
    have hleft : 0≤walletOut+delta := by omega
    split at h
    · cases h
      exact .quiet ⟨hw,ht⟩ rfl rfl rfl fun a => by cases a <;> simp [reserved,isOpen]
    split at h
    next hplay =>
      cases h
      rw [if_pos hplay] at ht
      exact .closingWallet ⟨hleft,ht.ge⟩ rfl rfl delta rfl rfl rfl (.inl rfl)
    next hplay =>
    cases h
    rw [if_neg hplay] at ht
    refine .closingWallet ⟨hleft,?_,?_⟩ rfl rfl delta (balance_spawnAdd _ _) rfl rfl (.inl rfl)
    all_goals
      simp only
      omega
  | settleToken delta =>
    obtain ⟨hw,ht,hdlt⟩ := hvalid
    simp only [work] at h
    split at h <;> cases h
    · exact .closing ⟨hw,ht⟩ rfl rfl rfl rfl rfl
    · exact .closingToken ⟨hw,hdlt⟩ rfl rfl delta rfl rfl rfl (.inl rfl)
  | _ => cases hstg

def Stage.isRefunding : Stage → Bool
  | .refundFunding | .refundToken => true
  | _ => false

lemma refund_effect (hvalid : p.Valid r) (h : work cfg redis r s p fails=some (s',p'))
    (hstg : p.stage.isRefunding=true) : Effect r s p s' p' := by
  have hnonn := hvalid.nonneg
  obtain ⟨stage,pre,walletOut,tokenOut⟩ := p
  cases stage with
  | refundFunding =>
    obtain ⟨⟨hw,ht⟩,hpos⟩ := hvalid
    simp only at hw ht hpos
    rw [max_eq_left hpos.le] at hw ht
    have hback : 0≤walletOut-pre := by omega
    simp only [work] at h
    split at h
    · cases h
      split
      · exact .closing hnonn rfl rfl rfl rfl rfl
      exact .closingWallet ⟨hback,hnonn.2⟩ rfl rfl (-pre) (by rw [neg_neg]) (sub_eq_add_neg _ _) rfl
        (.inr (by omega))
    next hplay =>
    cases h
    rw [if_neg hplay] at ht
    split
    · exact .closing ⟨hnonn.1,ht,hpos⟩ rfl rfl (balance_spawnAdd _ _) rfl rfl
    exact .closingWallet ⟨hback,ht,hpos⟩ rfl rfl (-pre) (by rw [neg_neg,balance_spawnAdd]) (sub_eq_add_neg _ _) rfl
      (.inr (by omega))
  | refundToken =>
    obtain ⟨-,ht,hpos⟩ := hvalid
    simp only at ht hpos
    have hback : 0≤tokenOut-pre := by omega
    simp only [work] at h
    split at h <;> cases h
    · exact .closing hnonn rfl rfl rfl rfl rfl
    · exact .closingToken ⟨hnonn.1,hback⟩ rfl rfl (-pre) (by rw [neg_neg]) rfl (sub_eq_add_neg _ _)
        (.inr (by omega))
  | _ => cases hstg

lemma work_kind (h : work cfg redis r s p fails=some x) :
    p.stage.isReading=true ∨ p.stage.isUpdating=true ∨ p.stage.isSettling=true ∨ p.stage.isRefunding=true := by
  unfold work at h
  cases hs : p.stage <;> simp [hs,isReading,isUpdating,isSettling,isRefunding] at h ⊢

lemma next_effect (hvalid : p.Valid r) (hfresh : FreshAt r s p act)
    (h : next cfg redis r s p act=some (s',p')) : Effect r s p s' p' := by
  cases act with
  | work fails =>
    rcases work_kind h with hstg | hstg | hstg | hstg
    · exact read_effect hvalid h hstg
    · exact take_effect hvalid hfresh h hstg
    · exact settle_effect hvalid h hstg
    · exact refund_effect hvalid h hstg
  | settle actualQuota =>
    have hnonn := hvalid.nonneg
    obtain ⟨stage,pre,walletOut,tokenOut⟩ := p
    simp only [next,settle] at h
    split at h
    next hstg =>
      cases hstg
      have hback : walletOut=max pre 0 ∧ tokenOut=if r.info.isPlayground then 0 else max pre 0 := hvalid
      split at h
      · cases h
        exact .closing hnonn rfl rfl rfl rfl rfl
      cases h
      refine .quiet ⟨hback,?_⟩ (balance_spawnAdd _ _) rfl rfl fun a => ?_
      · simp only
        omega
      · cases a <;> simp [reserved,isOpen]
    · cases h
  | refund =>
    obtain ⟨stage,pre,walletOut,tokenOut⟩ := p
    simp only [next,refund] at h
    split at h
    next hstg =>
      obtain ⟨hgran,hpos⟩ := hstg
      cases hgran
      cases h
      refine .quiet ⟨hvalid,hpos⟩ (balance_spawnAdd _ _) rfl rfl fun a => ?_
      cases a <;> simp [reserved,isOpen]
    · cases h

instance (r : Request) (s : Accounts) (p : Progress) (act : Act) : Decidable (FreshAt r s p act) := by
  unfold FreshAt
  split
  · split <;> infer_instance
  · infer_instance

lemma afterUserQuota_isSettling (h : afterUserQuota cfg redis r s p userQuota=(s',p')) : p'.stage.isSettling=false := by
  unfold afterUserQuota at h
  split at h
  · cases h
    rfl
  split at h
  · cases h
    rfl
  simp only at h
  generalize (if shouldTrust cfg _=true then (0 : ℤ) else r.preConsumedQuota)=effective at h
  split at h
  · split at h <;> cases h <;> rfl
  cases h
  rfl

lemma afterToken_isSettling (h : afterToken redis r s p userQuota remainQuota=(s',p')) : p'.stage.isSettling=false := by
  unfold afterToken at h
  split at h <;> cases h <;> rfl

lemma next_isSettling (hact : ∀ n, act≠.settle n) (hstg : p.stage.isSettling=false)
    (h : next cfg redis r s p act=some (s',p')) : p'.stage.isSettling=false := by
  cases act with
  | settle actualQuota => exact absurd rfl (hact actualQuota)
  | refund =>
    simp only [next,refund] at h
    split at h <;> cases h
    rfl
  | work fails =>
    rcases work_kind h with hkind | hkind | hkind | hkind
    · generalize hx : (s',p')=x at h
      cases work_reads h hkind with
      | refused =>
        cases hx
        rfl
      | fallback hnext =>
        cases hx
        unfold fallback at hnext
        split at hnext <;> cases hnext <;> rfl
      | userQuota => exact afterUserQuota_isSettling hx.symm
      | token => exact afterToken_isSettling hx.symm
    · obtain ⟨stage,pre,walletOut,tokenOut⟩ := p
      cases stage with
      | decreaseUserQuota userQuota =>
        simp only [next,work] at h
        split at h
        · split at h <;> cases h <;> rfl
        cases h
        rfl
      | decreaseTokenQuota | rollbackToken =>
        simp only [next,work] at h
        split at h <;> cases h <;> rfl
      | _ => cases hkind
    · rw [hkind] at hstg
      cases hstg
    · obtain ⟨stage,pre,walletOut,tokenOut⟩ := p
      cases stage with
      | refundFunding =>
        simp only [next,work] at h
        split at h <;> cases h <;> split <;> rfl
      | refundToken =>
        simp only [next,work] at h
        split at h <;> cases h <;> rfl
      | _ => cases hkind

section
variable {W : Type*} {cfg : Config} {redis : Bool} {req : W → Request} {s s' : Sys W}
def Fresh (req : W → Request) (s : Sys W) : Action W → Prop
  | .session w act => FreshAt (req w) s.shared (s.phase w) act
  | .cache _ => True

instance (req : W → Request) (s : Sys W) (action : Action W) : Decidable (Fresh req s action) := by
  cases action <;> unfold Fresh <;> infer_instance

def held [Fintype W] (req : W → Request) (s : Sys W) (a : Account) : ℤ := ∑ w, (s.phase w).held (req w) a

/-- The rows and the sessions' books agree, and no account has more reserved than it had. -/
structure Sound [Fintype W] (req : W → Request) (balance : Account → ℤ) (s : Sys W) : Prop where
  valid : ∀ w, (s.phase w).Valid (req w)
  conserves : ∀ a, s.shared.balance a+∑ w, (s.phase w).out (req w) a=balance a
  covered : ∀ a, (∀ w, Limited (req w) a) → 0≤balance a → ∑ w, (s.phase w).reserved (req w) a≤balance a

variable [Fintype W] {balance : Account → ℤ}
lemma sound_start : Sound req balance (start balance) where
  valid w := ⟨rfl,rfl⟩
  conserves a := by
    have hout : ∀ w, ((start balance : Sys W).phase w).out (req w) a=0 := by
      intro w
      cases a <;> simp [start,Interleave.start,Progress.start,out]
    rw [Finset.sum_congr rfl fun w _ => hout w,Finset.sum_const_zero,add_zero]
    rfl
  covered a _ hbalance := by
    rw [Finset.sum_congr rfl fun w _ => reserved_of_closed rfl rfl a,Finset.sum_const_zero]
    exact hbalance

variable [DecidableEq W]
lemma Sound.advance (h : Sound req balance s) {w : W} {t : Accounts}
    (heff : Effect (req w) s.shared (s.phase w) t p) : Sound req balance (s.advance w (t,p,[])) := by
  have hout : ∀ a, t.balance a+∑ v, ((s.advance w (t,p,[])).phase v).out (req v) a=balance a := by
    intro a
    have hsum := sum_apply_update (fun v (q : Progress) => q.out (req v) a) s.phase w p
    have hcons := heff.conserves a
    have hbef := h.conserves a
    simp only [Interleave.advance] at hsum ⊢
    omega
  have hvalid : ∀ v, ((s.advance w (t,p,[])).phase v).Valid (req v) :=
    Interleave.forall_phase_advance _ (fun v q => q.Valid (req v)) h.valid heff.valid fun _ _ hv => hv
  refine ⟨hvalid,hout,fun a hlim hbal => ?_⟩
  rcases heff.covered a (hlim w) with hnonn | ⟨hres,-⟩
  · -- the row still holds something, so all that was taken from it was there
    have hle : ∑ v, ((s.advance w (t,p,[])).phase v).reserved (req v) a ≤
        ∑ v, ((s.advance w (t,p,[])).phase v).out (req v) a :=
      Finset.sum_le_sum fun v _ => (hvalid v).reserved_le_out a
    have hsum := hout a
    omega
  have hsum := sum_apply_update (fun v (q : Progress) => q.reserved (req v) a) s.phase w p
  have hbef := h.covered a hlim hbal
  simp only [Interleave.advance] at hsum ⊢
  omega

variable {action : Action W}
lemma sound_step (h : Sound req balance s) (hfresh : Fresh req s action)
    (hstep : step cfg redis req s action=some s') : Sound req balance s' := by
  cases action with
  | cache event =>
    cases hstep
    exact ⟨h.valid,h.conserves,h.covered⟩
  | session w act =>
    obtain ⟨⟨t,p⟩,hnext,rfl⟩ := Option.map_eq_some_iff.mp hstep
    exact h.advance (next_effect (h.valid w) hfresh hnext)

structure Solvent (req : W → Request) (balance : Account → ℤ) (s : Sys W) : Prop where
  unsettled : ∀ w, (s.phase w).stage.isSettling=false
  nonneg : ∀ a, (∀ w, Limited (req w) a) → 0≤balance a → 0 ≤ s.shared.balance a

def Action.isSettle : Action W → Bool
  | .session _ (.settle _) => true
  | _ => false

lemma solvent_step (hsnd : Sound req balance s) (h : Solvent req balance s)
    (hfresh : Fresh req s action) (hset : action.isSettle=false)
    (hstep : step cfg redis req s action=some s') : Solvent req balance s' := by
  cases action with
  | cache event =>
    cases hstep
    exact ⟨h.unsettled,h.nonneg⟩
  | session w act =>
    obtain ⟨⟨t,p⟩,hnext,rfl⟩ := Option.map_eq_some_iff.mp hstep
    have heff := next_effect (hsnd.valid w) hfresh hnext
    have hact : ∀ n, act≠.settle n := by
      rintro n rfl
      cases hset
    have huns := Interleave.closed_advance (fun q : Progress => q.stage.isSettling) (w := w) (r := (t,p,[]))
      (fun v _ => h.unsettled v) (next_isSettling hact (h.unsettled w) hnext)
    refine ⟨huns,fun a hlim hbal => ?_⟩
    rcases heff.covered a (hlim w) with hnonn | ⟨-,hsett | hle⟩
    · exact hnonn
    · rw [h.unsettled w] at hsett
      cases hsett
    · exact (h.nonneg a hlim hbal).trans hle

/-- In a run whose pre-consumes all find what was read, the open sessions never hold more of a wallet or of a
token with a limit than it had, and without settlements neither column becomes negative. -/
theorem held_le_balance_of_fresh {actions : List (Action W)}
    (hrun : Runs (step cfg redis req) (Fresh req) (start balance) actions s) (a : Account)
    (hlimited : ∀ w, a=(req w).token → (req w).info.tokenUnlimited=false) (hbalance : 0≤balance a) :
    held req s a≤balance a ∧ ((∀ action∈actions, action.isSettle=false) → 0 ≤ s.shared.balance a) := by
  constructor
  · have hsnd : Sound req balance s :=
      hrun.invariant _ (fun _ _ _ h hfresh hstep => sound_step h hfresh hstep) sound_start
    calc held req s a ≤ ∑ w, (s.phase w).reserved (req w) a :=
          Finset.sum_le_sum fun w _ => held_le_reserved (req w) (s.phase w) a
      _≤balance a := hsnd.covered a hlimited hbalance
  · intro hnone
    have hboth : Sound req balance s ∧ Solvent req balance s :=
      (hrun.restrict hnone).invariant (fun s => Sound req balance s ∧ Solvent req balance s)
        (fun _ _ _ h hok hstep => ⟨sound_step h.1 hok.1 hstep,solvent_step h.1 h.2 hok.1 hok.2 hstep⟩)
        ⟨sound_start,fun _ => rfl,fun _ _ hnonn => hnonn⟩
    exact hboth.2.nonneg a hlimited hbalance
end

def smallRequest : Request := ⟨⟨1,"request",false,false,0,false,"wallet_only",0,0,.unset,0,0,0,0,0⟩,1,10⟩

def smallConfig : Config := ⟨500000,fun _ => ""⟩

def twoRequests : Fin 2 → Request := fun _ => smallRequest

def balances (quota remainQuota : ℤ) : Account → ℤ
  | .user _ => quota
  | .token _ => remainQuota

def works (w : Fin 2) (n : ℕ) : List (Action (Fin 2)) := List.replicate n (.session w (.work false))

def oneAfterTheOther : List (Action (Fin 2)) := works 0 6++List.replicate 6 (.cache (.run 0))++works 1 4

theorem oneAfterTheOther_within_balance :
    ∃ s, exec (step smallConfig true twoRequests) (start (balances 20 100)) oneAfterTheOther=some s ∧
      held twoRequests s (.user 1)≤20 ∧ 0 ≤ s.shared.balance (.user 1) ∧ held twoRequests s (.user 1)=20 := by
  obtain ⟨s,hexec,hruns,hheld⟩ := checked_run (step smallConfig true twoRequests) (Fresh twoRequests) (start (balances 20 100))
    oneAfterTheOther (fun s => held twoRequests s (.user 1)=20) (by decide +kernel)
  have hbnd := held_le_balance_of_fresh hruns (.user 1) (fun _ he => by cases he) (by decide)
  exact ⟨s,hexec,hbnd.1,hbnd.2 (by decide +kernel),hheld⟩

def bothCheckFirst : List (Action (Fin 2)) := works 0 1++works 1 1++works 0 3++works 1 3

theorem bothCheckFirst_overdraws :
    ∃ s, exec (step smallConfig false twoRequests) (start (balances 10 100)) bothCheckFirst=some s ∧
      held twoRequests s (.user 1)=20 ∧ s.shared.balance (.user 1) = -10 := exists_of_any (by decide +kernel)
end AronaApi.Billing.Concurrent
