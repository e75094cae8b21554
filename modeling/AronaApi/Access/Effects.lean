import AronaApi.Access.TokenAuth

/-! What one step of a call can do to the rows of users and tokens and to their caches. -/
namespace AronaApi.Access

def TokenEnabled (tokens : List TokenRow) (key : String) : Prop :=
  ∃ token, getTokenByKey key tokens=some token ∧ token.status=.enabled

variable {tokens : List TokenRow} {token : TokenBase} {s : Shared} {p p' : Phase} {o : List Outcome}
lemma getTokenByKey_eq_some_iff {key : String} : getTokenByKey key tokens=some token ↔
      ∃ row, Table.lookup TokenRow.key key tokens=some row ∧ row.deleted=false ∧ row.base=token := by
  simp [getTokenByKey,Option.filter_eq_some_iff,and_assoc]

variable (env : AuthEnv) (key : String) (users : List Account) (r : Request) (late : Bool)
lemma lookup_updateToken (k : String) (token : TokenBase) (tokens : List TokenRow) :
    Table.lookup TokenRow.key k (updateToken key token tokens) =
      (Table.lookup TokenRow.key k tokens).map fun row => if row.key=key ∧ row.deleted=false then
        { row with base := { token with userId := row.base.userId } } else row := by
  apply Table.lookup_map
  intro row
  split <;> rfl

lemma lookup_deleteToken (k : String) (tokens : List TokenRow) :
    Table.lookup TokenRow.key k (deleteToken key tokens) =
      (Table.lookup TokenRow.key k tokens).map fun row => if row.key=key then { row with deleted := true } else row := by
  apply Table.lookup_map
  intro row
  split <;> rfl

lemma not_tokenEnabled_updateToken (ht : token.status=.disabled) {k : String}
    (h : ¬TokenEnabled tokens k ∨ k=key) : ¬TokenEnabled (updateToken key token tokens) k := by
  rintro ⟨found,hfnd,hs⟩
  obtain ⟨row',hl,hd,rfl⟩ := getTokenByKey_eq_some_iff.mp hfnd
  rw [lookup_updateToken] at hl
  obtain ⟨row,hrow,rfl⟩ := Option.map_eq_some_iff.mp hl
  by_cases hcond : row.key=key ∧ row.deleted=false
  · rw [if_pos hcond] at hs
    rw [show token.status=.enabled from hs] at ht
    cases ht
  rw [if_neg hcond] at hd hs
  obtain h | rfl := h
  · exact h ⟨row.base,getTokenByKey_eq_some_iff.mpr ⟨row,hrow,hd,rfl⟩,hs⟩
  · exact hcond ⟨Table.key_of_lookup hrow,hd⟩

lemma not_tokenEnabled_deleteToken {k : String} (h : ¬TokenEnabled tokens k ∨ k=key) :
    ¬TokenEnabled (deleteToken key tokens) k := by
  rintro ⟨found,hfnd,hs⟩
  obtain ⟨row',hl,hd,rfl⟩ := getTokenByKey_eq_some_iff.mp hfnd
  rw [lookup_deleteToken] at hl
  obtain ⟨row,hrow,rfl⟩ := Option.map_eq_some_iff.mp hl
  by_cases hcond : row.key=key
  · rw [if_pos hcond] at hd
    cases hd
  rw [if_neg hcond] at hd hs
  obtain h | rfl := h
  · exact h ⟨row.base,getTokenByKey_eq_some_iff.mpr ⟨row,hrow,hd,rfl⟩,hs⟩
  · exact hcond (Table.key_of_lookup hrow)

lemma validToken_eq_true (now : ℤ) (h : validToken now token=true) : token.status=.enabled := by
  simp only [validToken,Bool.and_eq_true,decide_eq_true_eq] at h
  exact h.1.1

/-! What is on its way to a cache: writes of goroutines, and rows that running requests have read. -/

def Phase.userCopy : Phase → Option (ℕ × UserBase)
  | .auth _ _ (.cacheUser t user) => some (t.userId,user)
  | _ => none

def Phase.tokenCopy : Phase → Option (String × TokenBase)
  | .auth r _ (.cacheToken t) => some (r.key,t)
  | _ => none

@[simp] lemma userCopy_checkToken (token : TokenBase) : (checkToken env r late token).1.userCopy=none := by
  unfold checkToken
  split <;> rfl

@[simp] lemma tokenCopy_checkToken (token : TokenBase) : (checkToken env r late token).1.tokenCopy=none := by
  unfold checkToken
  split <;> rfl

lemma checkUser_idle (token : TokenBase) (user : UserBase) : (checkUser env users r late token user).1=.idle := by
  unfold checkUser
  split <;> rfl

@[simp] lemma userCopy_checkUser
    (token : TokenBase) (user : UserBase) : (checkUser env users r late token user).1.userCopy=none := by
  rw [checkUser_idle]
  rfl

@[simp] lemma tokenCopy_checkUser
    (token : TokenBase) (user : UserBase) : (checkUser env users r late token user).1.tokenCopy=none := by
  rw [checkUser_idle]
  rfl

inductive UserWrite (s : Shared) (p : Phase) : HashCache ℕ UserBase → Prop
  | none : UserWrite s p s.userCache
  | spawn {k : ℕ} {user : UserBase} (h : p.userCopy=some (k,user)) :
      UserWrite s p (s.userCache.spawn (.put k user))
  | remove (id : ℕ) : UserWrite s p (s.userCache.remove id)
  | set (id : ℕ) {user : UserBase} (h : user.status≠.enabled) : UserWrite s p (s.userCache.set id user)

inductive TokenWrite (s : Shared) (p : Phase) : HashCache String TokenBase → Prop
  | none : TokenWrite s p s.tokenCache
  | spawnPut {k : String} {token : TokenBase} (h : p.tokenCopy=some (k,token) ∨ token.status=.disabled)
      (ho : s.owner k=some token.userId) : TokenWrite s p (s.tokenCache.spawn (.put k token))
  | spawnDelete (k : String) : TokenWrite s p (s.tokenCache.spawn (.delete k))
  | remove (k : String) : TokenWrite s p (s.tokenCache.remove k)

/-- Rows are only ever revoked, caches get what the call has read or a revocation, and what is newly held for
the cache has just been read. -/
structure Effect (s : Shared) (p : Phase) (x : Shared × Phase × List Outcome) : Prop where
  owner : ∀ key, x.1.owner key=s.owner key
  notEnabled : ∀ id, ¬Enabled s.users id → ¬Enabled x.1.users id
  deleted : ∀ id, Deleted s.users id → Deleted x.1.users id
  notTokenEnabled : ∀ key, ¬TokenEnabled s.tokens key → ¬TokenEnabled x.1.tokens key
  userCache : UserWrite s p x.1.userCache
  tokenCache : TokenWrite s p x.1.tokenCache
  userCopy : ∀ k user, x.2.1.userCopy=some (k,user) → ∃ row, getUserById k s.users=some row ∧ row.toBaseUser=user
  tokenCopy : ∀ k token, x.2.1.tokenCopy=some (k,token) → getTokenByKey k s.tokens=some token

lemma UserWrite.within {c : HashCache ℕ UserBase} (h : UserWrite s p c) {P : ℕ → UserBase → Prop}
    (hP : s.userCache.Within P) (hcopy : ∀ k user, p.userCopy=some (k,user) → P k user)
    (hoff : ∀ k user, user.status≠.enabled → P k user) : c.Within P := by
  cases h with
  | none => exact hP
  | spawn h => exact hP.spawn_put (hcopy _ _ h)
  | remove id => exact hP.remove id
  | set id h => exact hP.set (hoff _ _ h)

variable {c : HashCache String TokenBase}
lemma TokenWrite.within (h : TokenWrite s p c) {P : String → TokenBase → Prop}
    (hP : s.tokenCache.Within P) (hput : ∀ k token, p.tokenCopy=some (k,token) ∨ token.status=.disabled →
      s.owner k=some token.userId → P k token) : c.Within P := by
  cases h with
  | none => exact hP
  | spawnPut h ho => exact hP.spawn_put (hput _ _ h ho)
  | spawnDelete k => exact hP.spawn_delete k
  | remove k => exact hP.remove k

lemma TokenWrite.tasks (h : TokenWrite s p c) : ∃ more, c.tasks=s.tokenCache.tasks++more := by
  cases h with
  | none | remove k => exact ⟨[],(List.append_nil _).symm⟩
  | spawnPut h ho | spawnDelete k => exact ⟨_,rfl⟩

lemma Effect.still {x : Shared × Phase × List Outcome} (hu : x.1.users=s.users) (ht : x.1.tokens=s.tokens)
    (huc : UserWrite s p x.1.userCache) (htc : TokenWrite s p x.1.tokenCache) (hcu : x.2.1.userCopy=none)
    (hct : x.2.1.tokenCopy=none) : Effect s p x where
  owner key := by rw [Shared.owner,ht,Shared.owner]
  notEnabled id h := hu ▸ h
  deleted id h := hu ▸ h
  notTokenEnabled key h := ht ▸ h
  userCache := huc
  tokenCache := htc
  userCopy k user h := by
    rw [hcu] at h
    cases h
  tokenCopy k token h := by
    rw [hct] at h
    cases h

lemma Effect.reads
    (hcu : ∀ k user, p'.userCopy=some (k,user) → ∃ row, getUserById k s.users=some row ∧ row.toBaseUser=user)
    (hct : ∀ k token, p'.tokenCopy=some (k,token) → getTokenByKey k s.tokens=some token) : Effect s p (s,p',o) :=
  ⟨fun _ => rfl,fun _ h => h,fun _ h => h,fun _ h => h,.none,.none,hcu,hct⟩

lemma Effect.writesUsers {users : List Account} (hne : ∀ id, ¬Enabled s.users id → ¬Enabled users id)
    (hd : ∀ id, Deleted s.users id → Deleted users id) (hcu : p'.userCopy=none) (hct : p'.tokenCopy=none) :
    Effect s p ({ s with users := users },p',o) :=
  { Effect.still (x := (s,p',o)) rfl rfl .none .none hcu hct with notEnabled := hne, deleted := hd }

lemma Effect.writesTokens (ho : ∀ key, { s with tokens := tokens }.owner key=s.owner key)
    (hte : ∀ key, ¬TokenEnabled s.tokens key → ¬TokenEnabled tokens key) (hcu : p'.userCopy=none)
    (hct : p'.tokenCopy=none) : Effect s p ({ s with tokens := tokens },p',o) :=
  { Effect.still (x := (s,p',o)) rfl rfl .none .none hcu hct with owner := ho, notTokenEnabled := hte }

lemma Effect.quiet {s' : Shared} (hs : s'=s ∨ ∃ target, s'=s.mark target) (hcu : p'.userCopy=none)
    (hct : p'.tokenCopy=none) : Effect s p (s',p',o) := by
  obtain rfl | ⟨target,rfl⟩ := hs <;> exact .still rfl rfl .none .none hcu hct

lemma effect_authNext {r : Request} (ok : Bool) {step : AuthStep}
    (hown : ∀ token, step=.cacheToken token → s.owner r.key=some token.userId) :
    Effect s (.auth r late step) (authNext env s r late ok step) := by
  cases step with
  | getToken =>
    simp only [authNext]
    split
    next token _ => exact .quiet (.inl rfl) (userCopy_checkToken ..) (tokenCopy_checkToken ..)
    · exact .quiet (.inl rfl) rfl rfl
  | readToken =>
    simp only [authNext]
    split
    · split
      next token h =>
        refine .reads (fun k user he => (nomatch he)) fun k t he => ?_
        cases he
        exact h
      · exact .quiet (.inl rfl) rfl rfl
    · exact .quiet (.inl rfl) rfl rfl
  | cacheToken token =>
    exact .still rfl rfl .none (.spawnPut (.inl rfl) (hown token rfl)) (userCopy_checkToken ..)
      (tokenCopy_checkToken ..)
  | getUser token =>
    simp only [authNext]
    split
    · exact .quiet (.inl rfl) (userCopy_checkUser ..) (tokenCopy_checkUser ..)
    · exact .quiet (.inl rfl) rfl rfl
  | readUser token =>
    simp only [authNext]
    split
    next user h =>
      refine .reads (fun k u he => ?_) fun k t he => (nomatch he)
      cases he
      refine ⟨user,?_,rfl⟩
      split at h
      · exact h
      · cases h
    · exact .quiet (.inl rfl) rfl rfl
  | cacheUser token user =>
    exact .still rfl rfl (.spawn rfl) .none (userCopy_checkUser ..) (tokenCopy_checkUser ..)

lemma effect_receive (s : Shared) (p : Phase) (ok : Bool) (call : Call) : Effect s p (receive s ok call) := by
  cases call with
  | tokenAuth r | updateToken key | deleteToken key =>
    simp only [receive]
    split <;> exact .quiet (.inl rfl) rfl rfl
  | manageUser myRole rev id =>
    simp only [receive]
    generalize (if ok=true then fillUnscoped id s.users else Account.blank id)=user
    split
    · exact .quiet (.inl rfl) rfl rfl
    split
    · exact .quiet (.inl rfl) rfl rfl
    · exact .quiet (.inl rfl) rfl rfl

lemma owner_updateToken (s : Shared) (key k : String) (token : TokenBase) :
    { s with tokens := updateToken key token s.tokens }.owner k=s.owner k := by
  rw [Shared.owner,lookup_updateToken,Option.map_map,Shared.owner]
  congr 1
  funext row
  rw [Function.comp]
  split <;> rfl

lemma owner_deleteToken (s : Shared) (key k : String) :
    { s with tokens := deleteToken key s.tokens }.owner k=s.owner k := by
  rw [Shared.owner,lookup_deleteToken,Option.map_map,Shared.owner]
  congr 1
  funext row
  rw [Function.comp]
  split <;> rfl

lemma effect_manageNext {rev : Revocation} {step : ManageStep} {user : Account} (ok : Bool)
    (hupd : step=.update → user.status=.disabled ∨ Deleted s.users user.id)
    (hoff : step=.updateCache → ok=true → user.status≠.enabled) :
    Effect s (.manage rev step user) (manageNext s rev user ok step) := by
  cases step with
  | delete =>
    simp only [manageNext]
    split
    · exact .writesUsers (fun id h => not_enabled_deleteUser h user.id) (fun id h => h.deleteUser user.id) rfl rfl
    · exact .quiet (.inl rfl) rfl rfl
  | invalidate =>
    simp only [manageNext]
    split
    · exact .still rfl rfl (.remove user.id) .none rfl rfl
    split
    · exact .quiet (.inl rfl) rfl rfl
    · exact .quiet (.inr ⟨_,rfl⟩) rfl rfl
  | findKeys => exact .quiet (.inl rfl) rfl rfl
  | deleteKeys keys =>
    cases keys with
    | nil =>
      simp only [manageNext]
      split
      · exact .quiet (.inr ⟨_,rfl⟩) rfl rfl
      · exact .quiet (.inl rfl) rfl rfl
    | cons key keys =>
      cases ok with
      | true => exact .still rfl rfl .none (.remove key) rfl rfl
      | false => exact .still rfl rfl .none .none rfl rfl
  | update =>
    simp only [manageNext]
    split
    · exact .writesUsers (fun id h => not_enabled_updateWithTx (.inl h) (hupd rfl)) (fun id h => h.updateWithTx user)
        rfl rfl
    split
    · exact .quiet (.inl rfl) rfl rfl
    · exact .quiet (.inr ⟨_,rfl⟩) rfl rfl
  | updateCache =>
    simp only [manageNext]
    split
    next hok =>
      have hset : UserWrite s (.manage rev .updateCache user) (s.userCache.set user.id user.toBaseUser) :=
        .set user.id (hoff rfl hok)
      split <;> exact .still rfl rfl hset .none rfl rfl
    · exact .quiet (.inr ⟨_,rfl⟩) rfl rfl

lemma effect_tokenNext {key : String} {step : TokenStep} (ok : Bool)
    (hoff : ∀ token, step=.update token ∨ step=.spawnSet token →
      token.status=.disabled ∧ s.owner key=some token.userId) :
    Effect s (.token key step) (tokenNext s key ok step) := by
  cases step with
  | update token =>
    simp only [tokenNext]
    split
    · have hs := (hoff token (.inl rfl)).1
      exact .writesTokens (fun k => owner_updateToken s key k token)
        (fun k h => not_tokenEnabled_updateToken key hs (.inl h)) rfl rfl
    · exact .quiet (.inl rfl) rfl rfl
  | spawnSet token =>
    obtain ⟨hs,ho⟩ := hoff token (.inr rfl)
    exact .still rfl rfl .none (.spawnPut (.inr hs) ho) rfl rfl
  | delete =>
    simp only [tokenNext]
    split
    · exact .writesTokens (owner_deleteToken s key) (fun k h => not_tokenEnabled_deleteToken key (.inl h)) rfl rfl
    · exact .quiet (.inl rfl) rfl rfl
  | spawnDelete => exact .still rfl rfl .none (.spawnDelete key) rfl rfl
end AronaApi.Access
