import AronaApi.Access.Effects
import Mathlib

/-! Whether a revocation reaches the API. A revoked user or token is gone for good once its row, its cache
entry, the writes on their way to the cache and the copies held by running requests all say so: from then on
no step brings an enabled copy back. The calls establish this when nothing overtakes them. -/
namespace AronaApi.Access
open Schedule List Interleave HashCache Outcome Shared

def UserOff (id k : ℕ) (user : UserBase) : Prop := k=id → user.status≠.enabled

def TokenOff (key k : String) (token : TokenBase) : Prop := k=key → token.status≠.enabled

variable {W : Type} {r : Request}
structure UserGone (s : System W) (id : ℕ) : Prop where
  row : ¬Enabled s.shared.users id
  cache : s.shared.userCache.Within (UserOff id)
  flight : ∀ w k user, (s.phase w).userCopy=some (k,user) → UserOff id k user

structure TokenGone (s : System W) (key : String) : Prop where
  row : ¬TokenEnabled s.shared.tokens key
  cache : s.shared.tokenCache.Within (TokenOff key)
  flight : ∀ w k token, (s.phase w).tokenCopy=some (k,token) → TokenOff key k token

def corrects : CacheTask String TokenBase → Option String
  | .put key token => if token.status=.enabled then none else some key
  | .amend _ _ _ => none
  | .delete key => some key

def UserQuiet (s : System W) (id : ℕ) : Prop :=
  (∀ task∈s.shared.userCache.tasks, ∀ copy∈task.carries, ¬(copy.1=id ∧ copy.2.status=.enabled)) ∧
    ∀ w, ∀ copy∈(s.phase w).userCopy, ¬(copy.1=id ∧ copy.2.status=.enabled)

def TokenQuiet (s : System W) (key : String) : Prop :=
  (∀ task∈s.shared.tokenCache.tasks, ∀ copy∈task.carries, ¬(copy.1=key ∧ copy.2.status=.enabled)) ∧
    ∀ w, ∀ copy∈(s.phase w).tokenCopy, ¬(copy.1=key ∧ copy.2.status=.enabled)

/-- The next command of `ManageUser` does its part. Redis carries it out; no enabled copy of the user is on
its way when the user's entry is cleared; a deletion has no enabled user to write back. -/
def ManageStep.Undisturbed (s : System W) (rev : Revocation) (user : Account) (ok : Bool) : ManageStep → Prop
  | .invalidate => ok=true ∧ UserQuiet s user.id
  | .updateCache =>
    match rev with
    | .disable => ok=true
    | .delete => ok=true → user.status≠.enabled
  | _ => True

/-- The runs in which revocations work. `ManageUser` does its part; the write that corrects a token's entry
does not fail, and no enabled copy of the token is on its way when it is performed. -/
def Orderly (s : System W) : Action W → Prop
  | .worker w (.next ok) =>
    match s.phase w with
    | .manage rev step user => step.Undisturbed s rev user ok
    | _ => True
  | .tokenCache (.run n) => ∀ key∈s.shared.tokenCache.tasks[n]?.bind corrects, TokenQuiet s key
  | .tokenCache (.fail n) => s.shared.tokenCache.tasks[n]?.bind corrects=none
  | _ => True

def Late (s : System W) (key : String) (late : Bool) : Prop :=
  late=true → TokenGone s key ∨ ∃ id, s.shared.owner key=some id ∧ UserGone s id

def Phase.Sound (s : System W) : Phase → Prop
  | .idle => True
  | .auth r late .getToken => Late s r.key late
  | .auth r late .readToken => Late s r.key late
  | .auth r late (.cacheToken t) => Late s r.key late ∧ s.shared.owner r.key=some t.userId
  | .auth _ late (.getUser t) => late=true → UserGone s t.userId
  | .auth _ late (.readUser t) => late=true → UserGone s t.userId
  | .auth _ late (.cacheUser t _) => late=true → UserGone s t.userId
  | .manage _ .delete _ => True
  | .manage .disable .update user => user.status=.disabled
  | .manage .disable .updateCache user => user.status=.disabled ∧ ¬Enabled s.shared.users user.id
  | .manage .disable .invalidate user => ¬Enabled s.shared.users user.id
  | .manage .disable _ user => UserGone s user.id
  | .manage .delete .invalidate user => Deleted s.shared.users user.id
  | .manage .delete _ user => Deleted s.shared.users user.id ∧ UserGone s user.id
  | .token key (.update t) => t.status=.disabled ∧ s.shared.owner key=some t.userId
  | .token key (.spawnSet t) =>
    (t.status=.disabled ∧ s.shared.owner key=some t.userId) ∧ ¬TokenEnabled s.shared.tokens key
  | .token _ .delete => True
  | .token key .spawnDelete => ¬TokenEnabled s.shared.tokens key

/-- After a revocation has returned, the target is gone or the write that corrects its entry is among those
still waited for. -/
def Settled (s : System W) (r : Returned) : Prop :=
  match r.target with
  | .user id => UserGone s id
  | .token key => ¬TokenEnabled s.shared.tokens key ∧ (TokenGone s key ∨
      ∃ i, i < r.tokenWrites ∧ s.shared.tokenCache.tasks[i]?.bind corrects=some key)

structure Inv (s : System W) : Prop where
  users : s.shared.userCache.Within fun _ _ => True
  owned : s.shared.tokenCache.Within fun key token => s.shared.owner key=some token.userId
  phases : ∀ w, (s.phase w).Sound s
  returned : ∀ r∈s.shared.returned, Settled s r
  log : ∀ w key late, (w,accepted key late)∈s.log → late=false

structure Keeps (s t : System W) : Prop where
  owner : ∀ key, t.shared.owner key=s.shared.owner key
  notEnabled : ∀ id, ¬Enabled s.shared.users id → ¬Enabled t.shared.users id
  deleted : ∀ id, Deleted s.shared.users id → Deleted t.shared.users id
  notTokenEnabled : ∀ key, ¬TokenEnabled s.shared.tokens key → ¬TokenEnabled t.shared.tokens key
  userGone : ∀ id, UserGone s id → UserGone t id
  tokenGone : ∀ key, TokenGone s key → TokenGone t key

variable {s t : System W} {key : String} {late : Bool} {token : TokenBase}
lemma Late.mono (hk : Keeps s t) (h : Late s key late) : Late t key late := by
  intro hl
  obtain htok | ⟨id,ho,hid⟩ := h hl
  · exact .inl (hk.tokenGone key htok)
  · exact .inr ⟨id,(hk.owner key).trans ho,hk.userGone id hid⟩

lemma Phase.Sound.mono (hk : Keeps s t) {p : Phase} (h : p.Sound s) : p.Sound t := by
  cases p with
  | idle => trivial
  | auth r late step =>
    cases step with
    | getToken | readToken => exact Late.mono hk h
    | cacheToken token => exact ⟨Late.mono hk h.1,(hk.owner r.key).trans h.2⟩
    | getUser token | readUser token | cacheUser token user => exact fun hl => hk.userGone _ (h hl)
  | manage rev step user =>
    cases rev with
    | disable =>
      cases step with
      | delete => trivial
      | update => exact h
      | updateCache => exact ⟨h.1,hk.notEnabled _ h.2⟩
      | invalidate => exact hk.notEnabled _ h
      | findKeys | deleteKeys keys => exact hk.userGone _ h
    | delete =>
      cases step with
      | delete => trivial
      | invalidate => exact hk.deleted _ h
      | update | updateCache | findKeys | deleteKeys keys => exact ⟨hk.deleted _ h.1,hk.userGone _ h.2⟩
  | token key step =>
    cases step with
    | update token => exact ⟨h.1,(hk.owner key).trans h.2⟩
    | spawnSet token => exact ⟨⟨h.1.1,(hk.owner key).trans h.1.2⟩,hk.notTokenEnabled _ h.2⟩
    | delete => trivial
    | spawnDelete => exact hk.notTokenEnabled _ h

lemma Settled.mono (hk : Keeps s t) (more : List (CacheTask String TokenBase))
    (htsk : t.shared.tokenCache.tasks=s.shared.tokenCache.tasks++more) {r : Returned} (h : Settled s r) :
    Settled t r := by
  unfold Settled at h ⊢
  cases htarget : r.target with
  | user id =>
    rw [htarget] at h
    exact hk.userGone id h
  | token key =>
    rw [htarget] at h
    refine ⟨hk.notTokenEnabled key h.1,?_⟩
    obtain hgone | ⟨i,hi,hc⟩ := h.2
    · exact .inl (hk.tokenGone key hgone)
    obtain ⟨task,htask,-⟩ := Option.bind_eq_some_iff.mp hc
    refine .inr ⟨i,hi,?_⟩
    rw [htsk,List.getElem?_append_left (List.getElem?_eq_some_iff.mp htask).choose]
    exact hc

structure Lands (s t : System W) (x : Shared × Phase × List Outcome) : Prop where
  phase : x.2.1.Sound t
  returned : ∀ r∈x.1.returned, r∈s.shared.returned ∨ Settled t r
  log : ∀ key late, accepted key late∈x.2.2 → late=false

lemma Lands.moves {x : Shared × Phase × List Outcome} (hr : x.1.returned=s.shared.returned)
    (ho : ∀ key late, accepted key late∉x.2.2) (hp : x.2.1.Sound t) : Lands s t x :=
  ⟨hp,fun _ h => .inl (hr ▸ h),fun key late h => (ho key late h).elim⟩

lemma Lands.returns {s' : Shared} {target : Target} (failure : Option Failure) (hr : s'.returned=s.shared.returned)
    (h : Settled t ⟨target,s'.userCache.tasks.length,s'.tokenCache.tasks.length⟩) :
    Lands s t (returnRevoked s' target failure) := by
  refine ⟨trivial,fun r hm => ?_,fun key late hm => ?_⟩
  · rw [returnRevoked,mark,hr,mem_append,mem_singleton] at hm
    obtain hm | rfl := hm
    · exact .inl hm
    · exact .inr h
  · simp [returnRevoked] at hm

lemma late_of_inv (h : Inv s) (key : String) : Late s key (s.shared.late key) := by
  intro hlate
  obtain ⟨r,hr,hcond⟩ := any_eq_true.mp hlate
  simp only [Bool.and_eq_true,decide_eq_true_eq] at hcond
  obtain ⟨⟨-,hzero⟩,htarg⟩ := hcond
  have hset := h.returned r hr
  unfold Settled at hset
  cases ht : r.target with
  | user id =>
    rw [ht] at htarg hset
    exact .inr ⟨id,of_decide_eq_true htarg,hset⟩
  | token k =>
    rw [ht] at htarg hset
    have hk : k=key := of_decide_eq_true htarg
    subst hk
    obtain hgone | ⟨i,hi,-⟩ := hset.2
    · exact .inl hgone
    · omega

lemma owner_of_getTokenByKey {s : Shared} (h : getTokenByKey key s.tokens=some token) :
    s.owner key=some token.userId := by
  obtain ⟨row,hrow,-,rfl⟩ := getTokenByKey_eq_some_iff.mp h
  rw [owner,hrow]
  rfl

lemma sound_checkToken (env : AuthEnv) (h : token.status=.enabled → late=true → UserGone t token.userId) :
    (checkToken env r late token).1.Sound t := by
  unfold checkToken
  split
  · trivial
  next hnone =>
  refine h (validToken_eq_true r.now ?_)
  unfold tokenAbort at hnone
  simp only at hnone
  split at hnone
  · cases hnone
  next hv => simpa using hv

lemma log_checkToken (env : AuthEnv) (r : Request) (late : Bool) (token : TokenBase) (key : String) (l : Bool) :
    accepted key l∉(checkToken env r late token).2 := by
  unfold checkToken
  split <;> simp

lemma log_checkUser {env : AuthEnv} {users : List Account} {user : UserBase} {l : Bool}
    (h : accepted key l∈(checkUser env users r late token user).2) : l=late ∧ user.status=.enabled := by
  unfold checkUser at h
  split at h
  · simp at h
  next hnone =>
  simp only [mem_singleton,accepted.injEq] at h
  refine ⟨h.2,?_⟩
  unfold userAbort at hnone
  split at hnone
  · cases hnone
  next hs => exact of_not_not hs

lemma Late.userGone (h : Late s key late) (ho : s.shared.owner key=some token.userId)
    (htok : TokenGone s key → token.status≠.enabled) (hs : token.status=.enabled) (hlate : late=true) :
    UserGone s token.userId := by
  obtain hgone | ⟨id,hid,hgone⟩ := h hlate
  · exact (htok hgone hs).elim
  rw [ho,Option.some.injEq] at hid
  exact hid ▸ hgone

lemma lands_authNext (env : AuthEnv) (h : Inv s) {w : W} {step : AuthStep}
    (hp : s.phase w=.auth r late step) (ok : Bool) (hk : Keeps s t) :
    Lands s t (authNext env s.shared r late ok step) := by
  have hs : Phase.Sound s (.auth r late step) := hp ▸ h.phases w
  -- an acceptance on a copy of the user that a late request cannot have found enabled
  have hacc : ∀ (token : TokenBase) (user : UserBase),(late=true → user.status≠.enabled) → ∀ key l,
        accepted key l∈(checkUser env s.shared.users r late token user).2 → l=false := by
    intro token user hoff key l hm
    obtain ⟨rfl,huser⟩ := log_checkUser hm
    cases l with
    | false => rfl
    | true => exact (hoff rfl huser).elim
  have hidle : ∀ (token : TokenBase) (user : UserBase),(checkUser env s.shared.users r late token user).1.Sound t := by
    intro token user
    rw [checkUser_idle]
    trivial
  cases step with
  | getToken =>
    simp only [authNext]
    split
    next token hread =>
      split at hread
      · refine .moves rfl (log_checkToken env r late token) (sound_checkToken env fun hen hlate => ?_)
        refine hk.userGone _ (Late.userGone hs (h.owned.entry r.key token hread) (fun hgone => ?_) hen hlate)
        exact hgone.cache.entry r.key token hread rfl
      · cases hread
    · exact .moves rfl (by simp) (Late.mono hk hs)
  | readToken =>
    simp only [authNext]
    split
    · split
      next token hread =>
        exact .moves rfl (by simp) ⟨Late.mono hk hs,(hk.owner r.key).trans (owner_of_getTokenByKey hread)⟩
      · exact .moves rfl (by simp) trivial
    · exact .moves rfl (by simp) trivial
  | cacheToken token =>
    refine .moves rfl (log_checkToken env r late token) (sound_checkToken env fun hen hlate => ?_)
    refine hk.userGone _ (Late.userGone hs.1 hs.2 (fun hgone => ?_) hen hlate)
    exact hgone.flight w r.key token (by rw [hp]; rfl) rfl
  | getUser token =>
    simp only [authNext]
    split
    next user hread =>
      split at hread
      · refine ⟨hidle token user,fun _ hr => .inl hr,hacc token user fun hlate => ?_⟩
        exact (hs hlate).cache.entry token.userId user hread rfl
      · cases hread
    · exact .moves rfl (by simp) fun hlate => hk.userGone _ (hs hlate)
  | readUser token =>
    simp only [authNext]
    split
    · exact .moves rfl (by simp) fun hlate => hk.userGone _ (hs hlate)
    · exact .moves rfl (by simp) trivial
  | cacheUser token user =>
    refine ⟨hidle token user,fun _ hr => .inl hr,hacc token user fun hlate => ?_⟩
    exact (hs hlate).flight w token.userId user (by rw [hp]; rfl) rfl

lemma keeps_userCache (s : System W) (b : Background ℕ) : Keeps s { s with shared := s.shared.backgroundUser b } where
  owner _ := rfl
  notEnabled _ h := h
  deleted _ h := h
  notTokenEnabled _ h := h
  userGone _ h := ⟨h.row,h.cache.background b,h.flight⟩
  tokenGone _ h := ⟨h.row,h.cache,h.flight⟩

lemma keeps_tokenCache (s : System W) (b : Background String) :
    Keeps s { s with shared := s.shared.backgroundToken b } where
  owner _ := rfl
  notEnabled _ h := h
  deleted _ h := h
  notTokenEnabled _ h := h
  userGone _ h := ⟨h.row,h.cache,h.flight⟩
  tokenGone _ h := ⟨h.row,h.cache.background b,h.flight⟩

lemma inv_userCache (h : Inv s) (b : Background ℕ) : Inv { s with shared := s.shared.backgroundUser b } where
  users := h.users.background b
  owned := h.owned
  phases w := (h.phases w).mono (keeps_userCache s b)
  returned r' hr' := by
    obtain ⟨r,hr,rfl⟩ := mem_map.mp hr'
    exact (h.returned r hr).mono (keeps_userCache s b) [] (append_nil _).symm
  log := h.log

lemma tokenGone_of_correction (h : Inv s) {i : ℕ} (hrow : ¬TokenEnabled s.shared.tokens key)
    (hc : s.shared.tokenCache.tasks[i]?.bind corrects=some key) (hq : TokenQuiet s key) :
    TokenGone { s with shared := s.shared.backgroundToken (.run i) } key := by
  obtain ⟨task,htask,hcorr⟩ := Option.bind_eq_some_iff.mp hc
  have hput : ∀ k token, .put k token∈s.shared.tokenCache.tasks.eraseIdx i → TokenOff key k token :=
    fun k token hm hk hs => hq.1 _ (mem_of_mem_eraseIdx hm) (k,token) rfl ⟨hk,hs⟩
  have hamn := (h.owned.drop i).amend
  refine ⟨hrow,?_,fun v k token he hk hs => ?_⟩
  · simp only [backgroundToken,background,HashCache.run,htask]
    cases task with
    | put k token =>
      simp only [corrects] at hcorr
      split at hcorr
      · cases hcorr
      next hoff =>
      cases hcorr
      exact within_update (fun k v _ hne hk => (hne hk).elim) hput hamn fun v hv _ => Option.some.inj hv ▸ hoff
    | amend k f live => cases hcorr
    | delete k =>
      cases hcorr
      exact within_update (fun k v _ hne hk => (hne hk).elim) hput hamn fun v hv => (Option.not_mem_none v hv).elim
  · exact hq.2 v (k,token) he ⟨hk,hs⟩

lemma inv_tokenCache (h : Inv s) {b : Background String} (ho : Orderly s (.tokenCache b)) :
    Inv { s with shared := s.shared.backgroundToken b } where
  users := h.users
  owned := h.owned.background b
  phases w := (h.phases w).mono (keeps_tokenCache s b)
  returned r' hr' := by
    obtain ⟨r,hr,rfl⟩ := mem_map.mp hr'
    have hset := h.returned r hr
    unfold Settled at hset ⊢
    cases ht : r.target with
    | user id =>
      rw [ht] at hset
      exact (keeps_tokenCache s b).userGone id hset
    | token key =>
      rw [ht] at hset
      refine ⟨hset.1,?_⟩
      obtain hgone | ⟨i,hi,hc⟩ := hset.2
      · exact .inl ((keeps_tokenCache s b).tokenGone key hgone)
      by_cases hrun : b=.run i
      · subst hrun
        exact .inl (tokenGone_of_correction h hset.1 hc (ho key hc))
      have hfail : b≠.fail i := by
        rintro rfl
        rw [Orderly,hc] at ho
        cases ho
      obtain ⟨task,htask,hcorr⟩ := Option.bind_eq_some_iff.mp hc
      obtain ⟨j,hj,hjt⟩ := exists_left h.owned hi htask hrun hfail
      exact .inr ⟨j,hj,Option.bind_eq_some_iff.mpr ⟨task,hjt,hcorr⟩⟩
  log := h.log

lemma inv_start (users : List Account) (tokens : List TokenRow) : Inv (start users tokens : System W) where
  users := within_empty
  owned := within_empty
  phases _ := trivial
  returned _ hr := (not_mem_nil hr).elim
  log _ _ _ hm := (not_mem_nil hm).elim

section
variable [DecidableEq W]
variable {x : Shared × Phase × List Outcome}
variable {w : W}
lemma Effect.keeps (h : Effect s.shared (s.phase w) x) : Keeps s (s.advance w x) where
  owner := h.owner
  notEnabled := h.notEnabled
  deleted := h.deleted
  notTokenEnabled := h.notTokenEnabled
  userGone id hg := by
    refine ⟨h.notEnabled id hg.row,h.userCache.within hg.cache (hg.flight w) fun k user hu _ => hu,?_⟩
    refine forall_phase_advance (fun _ (p : Phase) => ∀ k user, p.userCopy=some (k,user) → UserOff id k user)
      (fun _ (p : Phase) => ∀ k user, p.userCopy=some (k,user) → UserOff id k user) hg.flight ?_ fun _ _ hv => hv
    intro k user he hk hs
    obtain ⟨row,hrow,rfl⟩ := h.userCopy k user he
    exact hg.row ⟨row,hk ▸ hrow,hs⟩
  tokenGone key hg := by
    refine ⟨h.notTokenEnabled key hg.row,h.tokenCache.within hg.cache fun k token hor _ => ?_,?_⟩
    · obtain hcopy | hs := hor
      · exact hg.flight w k token hcopy
      intro _
      simp [hs]
    · refine forall_phase_advance (fun _ (p : Phase) => ∀ k token, p.tokenCopy=some (k,token) → TokenOff key k token)
        (fun _ (p : Phase) => ∀ k token, p.tokenCopy=some (k,token) → TokenOff key k token) hg.flight ?_ fun _ _ hv => hv
      intro k token he hk hs
      exact hg.row ⟨token,hk ▸ h.tokenCopy k token he,hs⟩

lemma Inv.advance (h : Inv s) (he : Effect s.shared (s.phase w) x) (hl : Lands s (s.advance w x) x) :
    Inv (s.advance w x) where
  users := he.userCache.within h.users (fun _ _ _ => trivial) fun _ _ _ => trivial
  owned := (he.tokenCache.within h.owned fun _ _ _ ho => ho).mono fun key _ ho => (he.owner key).trans ho
  phases := forall_phase_advance (fun _ (p : Phase) => p.Sound s)
    (fun _ (p : Phase) => p.Sound (s.advance w x)) h.phases
    hl.phase fun _ _ hp => hp.mono he.keeps
  returned r hr := by
    obtain hold | hnew := hl.returned r hr
    · obtain ⟨more,hmore⟩ := he.tokenCache.tasks
      exact (h.returned r hold).mono he.keeps more hmore
    · exact hnew
  log v key late hm := by
    rw [advance_log,mem_append] at hm
    obtain hm | hm := hm
    · exact h.log v key late hm
    obtain ⟨outcome,ho,heq⟩ := mem_map.mp hm
    cases heq
    exact hl.log key late ho

lemma lands_receive (h : Inv s) (w : W) (ok : Bool) (call : Call) :
    Lands s (s.advance w (receive s.shared ok call)) (receive s.shared ok call) := by
  have hk : Keeps s (s.advance w (receive s.shared ok call)) := (effect_receive s.shared (s.phase w) ok call).keeps
  revert hk
  generalize s.advance w (receive s.shared ok call)=t
  intro hk
  cases call with
  | tokenAuth r =>
    simp only [receive]
    split
    · exact .moves rfl (by simp) trivial
    · exact .moves rfl (by simp) ((late_of_inv h r.key).mono hk)
  | manageUser myRole rev id =>
    simp only [receive]
    generalize (if ok=true then fillUnscoped id s.shared.users else Account.blank id)=user
    split
    · exact .moves rfl (by simp) trivial
    split
    · exact .moves rfl (by simp) trivial
    next user' hm =>
    refine .moves rfl (by simp) ?_
    cases rev with
    | disable =>
      rw [manageUser_eq_ok hm]
      rfl
    | delete => trivial
  | updateToken key =>
    simp only [receive]
    split
    next token hread =>
      split at hread
      · have ho := owner_of_getTokenByKey hread
        exact .moves rfl (by simp) ⟨rfl,(hk.owner key).trans ho⟩
      · cases hread
    · exact .moves rfl (by simp) trivial
  | deleteToken key =>
    simp only [receive]
    split <;> exact .moves rfl (by simp) trivial

lemma userGone_of_quiet {id : ℕ} (hbase : s.shared.userCache.Within fun _ _ => True) (hq : UserQuiet s id)
    (hrow : ¬Enabled x.1.users id) (hch : x.1.userCache=s.shared.userCache.remove id)
    (hcopy : x.2.1.userCopy=none) : UserGone (s.advance w x) id := by
  have hflig : ∀ v k user, (s.phase v).userCopy=some (k,user) → UserOff id k user :=
    fun v k user he hk hs => hq.2 v (k,user) he ⟨hk,hs⟩
  refine ⟨hrow,?_,?_⟩
  · rw [advance_shared,hch]
    exact within_update (fun k v _ hne hk => (hne hk).elim)
      (fun k v hm hk hs => hq.1 _ hm (k,v) rfl ⟨hk,hs⟩) hbase.amend
      fun v hv => (Option.not_mem_none v hv).elim
  · refine forall_phase_advance (fun _ (p : Phase) => ∀ k user, p.userCopy=some (k,user) → UserOff id k user)
      (fun _ (p : Phase) => ∀ k user, p.userCopy=some (k,user) → UserOff id k user) hflig ?_ fun _ _ hv => hv
    intro k user he
    rw [hcopy] at he
    cases he

lemma lands_manageNext (h : Inv s) {rev : Revocation} {step : ManageStep} {user : Account}
    (hp : s.phase w=.manage rev step user) {ok : Bool} (ho : Orderly s (.worker w (.next ok)))
    (hk : Keeps s (s.advance w (manageNext s.shared rev user ok step))) :
    Lands s (s.advance w (manageNext s.shared rev user ok step)) (manageNext s.shared rev user ok step) := by
  have hs : Phase.Sound s (.manage rev step user) := hp ▸ h.phases w
  simp only [Orderly,hp] at ho
  cases step with
  | delete =>
    cases ok with
    | false => exact .moves rfl (by simp [manageNext]) trivial
    | true =>
      have hdel := deleted_deleteUser_self user.id s.shared.users
      refine .moves rfl (by simp [manageNext]) ?_
      cases rev with
      | disable => exact not_enabled_of_deleted hdel
      | delete => exact hdel
  | invalidate =>
    obtain ⟨rfl,hq⟩ := ho
    refine .moves rfl (by simp [manageNext]) ?_
    cases rev with
    | disable => exact userGone_of_quiet h.users hq hs rfl rfl
    | delete => exact ⟨hs,userGone_of_quiet h.users hq (not_enabled_of_deleted hs) rfl rfl⟩
  | findKeys =>
    refine .moves rfl (by simp [manageNext]) ?_
    cases rev with
    | disable => exact hk.userGone _ hs
    | delete => exact ⟨hk.deleted _ hs.1,hk.userGone _ hs.2⟩
  | deleteKeys keys =>
    cases keys with
    | nil =>
      cases rev with
      | disable => exact .returns none rfl (hk.userGone _ hs)
      | delete => exact .moves rfl (by simp [manageNext]) ⟨hk.deleted _ hs.1,hk.userGone _ hs.2⟩
    | cons key keys =>
      refine .moves rfl (by simp [manageNext]) ?_
      cases rev with
      | disable => exact hk.userGone _ hs
      | delete => exact ⟨hk.deleted _ hs.1,hk.userGone _ hs.2⟩
  | update =>
    cases ok with
    | false =>
      cases rev with
      | disable => exact .moves rfl (by simp [manageNext]) trivial
      | delete => exact .returns _ rfl (hk.userGone _ hs.2)
    | true =>
      refine .moves rfl (by simp [manageNext]) ?_
      have hid := afterUpdate_id user s.shared.users
      cases rev with
      | disable =>
        refine ⟨afterUpdate_status_of_disabled s.shared.users hs,?_⟩
        rw [hid]
        exact not_enabled_updateWithTx (.inr rfl) (.inl hs)
      | delete =>
        refine ⟨?_,?_⟩
        · rw [hid]
          exact hk.deleted _ hs.1
        · rw [hid]
          exact hk.userGone _ hs.2
  | updateCache =>
    cases rev with
    | disable =>
      subst ho
      exact .moves rfl (by simp [manageNext]) (hk.notEnabled _ hs.2)
    | delete =>
      cases ok with
      | true => exact .returns none rfl (hk.userGone _ hs.2)
      | false => exact .returns _ rfl (hk.userGone _ hs.2)

lemma lands_tokenNext (h : Inv s) {step : TokenStep}
    (hp : s.phase w=.token key step) (ok : Bool) (ht : t=s.advance w (tokenNext s.shared key ok step))
    (hk : Keeps s t) : Lands s t (tokenNext s.shared key ok step) := by
  have hs : Phase.Sound s (.token key step) := hp ▸ h.phases w
  subst ht
  cases step with
  | update token =>
    cases ok with
    | false => exact .moves rfl (by simp [tokenNext]) trivial
    | true =>
      exact .moves rfl (by simp [tokenNext])
        ⟨⟨hs.1,(hk.owner key).trans hs.2⟩,not_tokenEnabled_updateToken key hs.1 (.inr rfl)⟩
  | spawnSet token =>
    refine .returns none rfl ⟨hk.notTokenEnabled _ hs.2,.inr ⟨s.shared.tokenCache.tasks.length,?_,?_⟩⟩
    · simp [spawn]
    · simp [tokenNext,returnRevoked,mark,spawn,corrects,hs.1.1]
  | delete =>
    cases ok with
    | false => exact .moves rfl (by simp [tokenNext]) trivial
    | true => exact .moves rfl (by simp [tokenNext]) (not_tokenEnabled_deleteToken key (.inr rfl))
  | spawnDelete =>
    refine .returns none rfl ⟨hk.notTokenEnabled _ hs,.inr ⟨s.shared.tokenCache.tasks.length,?_,?_⟩⟩
    · simp [spawn]
    · simp [tokenNext,returnRevoked,mark,spawn,corrects]

lemma inv_next (env : AuthEnv) (h : Inv s) {input : Input} (ho : Orderly s (.worker w input))
    (hstep : step env s (.worker w input)=some t) : Inv t := by
  have hnext : Interleave.step (fun _ => next env) s (w,input)=some t := hstep
  obtain ⟨x,hx,rfl⟩ := step_eq_some.mp hnext
  have hs := h.phases w
  cases hp : s.phase w <;> rw [hp] at hx hs <;> cases input
  case idle.next | auth.call | manage.call | token.call => cases hx
  all_goals cases hx
  case idle.call call ok => exact h.advance (effect_receive ..) (lands_receive h w ok call)
  case auth.next r late step ok =>
    have he : Effect s.shared (s.phase w) (authNext env s.shared r late ok step) := by
      rw [hp]
      refine effect_authNext env late ok fun token htok => ?_
      subst htok
      exact hs.2
    exact h.advance he (lands_authNext env h hp ok he.keeps)
  case manage.next rev step user ok =>
    have he : Effect s.shared (s.phase w) (manageNext s.shared rev user ok step) := by
      rw [hp]
      simp only [Orderly,hp] at ho
      refine effect_manageNext ok (fun hstep => ?_) fun hstep hok => ?_
      · subst hstep
        cases rev with
        | disable => exact .inl hs
        | delete => exact .inr hs.1
      · subst hstep
        cases rev with
        | disable => simp [hs.1]
        | delete => exact ho hok
    exact h.advance he (lands_manageNext h hp ho he.keeps)
  case token.next key step ok =>
    have he : Effect s.shared (s.phase w) (tokenNext s.shared key ok step) := by
      rw [hp]
      refine effect_tokenNext ok fun token htok => ?_
      obtain rfl | rfl := htok
      · exact hs
      · exact hs.1
    exact h.advance he (lands_tokenNext h hp ok rfl he.keeps)

lemma inv_step (env : AuthEnv) {a : Action W} (h : Inv s) (ho : Orderly s a) (hstep : step env s a=some t) : Inv t := by
  cases a with
  | worker w input => exact inv_next env h ho hstep
  | userCache b =>
    cases hstep
    exact inv_userCache h b
  | tokenCache b =>
    cases hstep
    exact inv_tokenCache h ho

/-- In an orderly run no request that comes after a revocation has returned, and after the background writes
started before that have finished, is accepted with the revoked token or with a token of the revoked user. -/
theorem late_not_accepted_of_orderly (env : AuthEnv) (users : List Account) (tokens : List TokenRow)
    {as : List (Action W)} {s : System W} (h : Runs (step env) Orderly (start users tokens) as s) :
    ∀ w key late, (w,accepted key late)∈s.log → late=false :=
  (h.invariant Inv (fun _ _ _ hi ho hstep => inv_step env hi ho hstep) (inv_start users tokens)).log
end

instance [Fintype W] (s : System W) (id : ℕ) : Decidable (UserQuiet s id) :=
  inferInstanceAs (Decidable (_ ∧ _))

instance [Fintype W] (s : System W) (key : String) : Decidable (TokenQuiet s key) :=
  inferInstanceAs (Decidable (_ ∧ _))

instance [Fintype W] (s : System W) (rev : Revocation) (user : Account) (ok : Bool) (step : ManageStep) :
    Decidable (step.Undisturbed s rev user ok) :=
  match step with
  | .invalidate => inferInstanceAs (Decidable (_ ∧ _))
  | .updateCache => match rev with
    | .disable => inferInstanceAs (Decidable (_=_))
    | .delete => inferInstanceAs (Decidable (_ → _))
  | .delete | .findKeys | .deleteKeys _ | .update => isTrue trivial

instance [Fintype W] (s : System W) (a : Action W) : Decidable (Orderly s a) :=
  match a with
  | .worker w (.next ok) =>
    have : ∀ p : Phase, Decidable (match p with
        | .manage rev step user => step.Undisturbed s rev user ok
        | _ => True) := fun p => match p with
      | .manage rev step user => inferInstanceAs (Decidable (step.Undisturbed s rev user ok))
      | .idle | .auth _ _ _ | .token _ _ => isTrue trivial
    this (s.phase w)
  | .tokenCache (.run _) => inferInstanceAs (Decidable (∀ key∈_, TokenQuiet s key))
  | .tokenCache (.fail _) => inferInstanceAs (Decidable (_=_))
  | .worker _ (.call _ _) | .userCache _ | .tokenCache (.expire _) => isTrue trivial

def openSite : AuthEnv := ⟨fun _ => [],fun _ => true,fun _ _ => true,fun _ => [],fun _ => true⟩

def memberAccount : Account := ⟨2,"member",roleCommonUser,.enabled,"default",none,false⟩

def memberToken (key : String) : TokenRow := ⟨key,⟨2,.enabled,-1,100,false,"",""⟩,false⟩

def memberRequest (key : String) : Request := ⟨key,false,"",0⟩

/-- A call with all of its `n` commands succeeding. -/
def whole (w : Fin 2) (call : Call) (n : ℕ) : List (Action (Fin 2)) :=
  .worker w (.call call true)::List.replicate n (.worker w (.next true))

/-- A request fills the caches; the token is disabled and used before and after the cache is corrected; then
the user is disabled and comes with another token. -/
def orderlyRun : List (Action (Fin 2)) :=
  whole 0 (.tokenAuth (memberRequest "first")) 6++[.tokenCache (.run 0),.userCache (.run 0)] ++
    whole 0 (.updateToken "first") 2++whole 1 (.tokenAuth (memberRequest "first")) 2 ++
    [.tokenCache (.run 0)]++whole 1 (.tokenAuth (memberRequest "first")) 1 ++
    whole 0 (.manageUser roleRootUser .disable 2) 7++whole 1 (.tokenAuth (memberRequest "second")) 6

theorem orderlyRun_late_rejected :
    ∃ s, Runs (step openSite) Orderly (start [memberAccount] [memberToken "first",memberToken "second"]) orderlyRun s ∧
      s.log=[(0,.accepted "first" false),(0,.returned none),(1,.accepted "first" false),
        (1,.rejected "first" tokenInvalid),(0,.returned none),(1,.rejected "second" ⟨403,"auth.user_banned"⟩)] ∧
      ∀ w key late, (w,accepted key late)∈s.log → late=false := by
  obtain ⟨s,-,hruns,hlog⟩ := checked_run (step openSite) Orderly
    (start [memberAccount] [memberToken "first",memberToken "second"]) orderlyRun
    (fun s => s.log=[(0,.accepted "first" false),(0,.returned none),(1,.accepted "first" false),
        (1,.rejected "first" tokenInvalid),(0,.returned none),(1,.rejected "second" ⟨403,"auth.user_banned"⟩)])
    (by decide +kernel)
  exact ⟨s,hruns,hlog,late_not_accepted_of_orderly openSite _ _ hruns⟩

/-- `ManageUser` deletes a user and, falling through to `Update`, writes the row it read back into the cache.
Nothing else is running, and the user's next request is accepted. -/
theorem deletedUser_accepted :
    (exec (step openSite) (start [memberAccount] [memberToken "first"])
      (whole 0 (.manageUser roleRootUser .delete 2) 7++whole 1 (.tokenAuth (memberRequest "first")) 4)).map
      (fun s => (s.shared.users.map Account.deleted,s.log)) =
    some ([true],[(0,.returned none),(1,.accepted "first" true)]) := by decide +kernel
end AronaApi.Access
