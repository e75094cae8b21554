import AronaApi.Lib.SlidingWindow
import Mathlib.Data.Int.Notation

/-! The limit on the model requests of a user (`middleware/model-rate-limit.go`), with Redis and with the memory
of the process (`common/rate-limit.go`). Moments are in milliseconds.

What the two handlers count. Redis keeps the last successes and refuses when all of them are recent on the clocks
of the zone. The memory of the process counts, in whole seconds, every request that passed the check, takes a limit
of 0 for 1, and forgets a queue that was not used for a while. -/
namespace AronaApi.RateLimit
open Function

structure Config where
  durationMinutes : ℕ
  totalMaxCount : ℕ
  successMaxCount : ℕ

def Config.duration (cfg : Config) : ℕ := cfg.durationMinutes*60

/-- A request that is handled from its arrival to its completion; `ok` is a status below 400. -/
structure Request where
  arrival : ℕ
  completion : ℕ
  ok : Bool

inductive Outcome
  | accepted
  | successLimit
  | totalLimit
deriving DecidableEq

structure RedisList where
  entries : List ℕ
  expires : ℕ

def RedisList.at (l : RedisList) (now : ℕ) : List ℕ := if l.expires<now then [] else l.entries

/-- The bucket of `lua/rate_limit.lua`, in whole seconds of the server. -/
structure Bucket where
  tokens : ℕ
  lastTime : ℕ

structure RedisState where
  success : RedisList
  total : Option Bucket

def RedisState.init : RedisState := ⟨⟨[],0⟩,none⟩

/-- A moment as it is read back: it is written in local time, `zone` ahead of UTC, with a `Z`. -/
def readBack (zone : ℕ → ℤ) (t : ℕ) : ℤ := t+zone t

/-- `checkRedisRateLimit`: the answer, and the list with its new expiry. -/
def checkRedisRateLimit (zone : ℕ → ℤ) (l : RedisList) (maxCount duration now : ℕ) : Bool × RedisList :=
  if maxCount=0 then (true,l)
  else if (l.at now).length < maxCount then (true,l)
  else
    match (l.at now).getLast? with
    -- not reached: the list is not empty
    | none => (true,l)
    | some oldTime =>
      if (readBack zone now-readBack zone oldTime).tdiv 1000<duration then (false,⟨l.at now,now+duration*1000⟩)
      else (true,l)

def recordRedisRequest (l : RedisList) (maxCount duration now : ℕ) : RedisList :=
  if maxCount=0 then l else ⟨(now::l.at now).take maxCount,now+duration*1000⟩

/-- `tb.Allow` with the capacity, rate and request of the handler. -/
def allow (bucket : Option Bucket) (totalMaxCount duration now : ℕ) : Bool × Bucket :=
  let nowInSeconds := now/1000
  let capacity := totalMaxCount*duration
  let tokens := match bucket with
    | none => capacity
    | some b => min capacity (b.tokens+(nowInSeconds-b.lastTime)*totalMaxCount)
  if duration≤tokens then (true,⟨tokens-duration,nowInSeconds⟩) else (false,⟨tokens,nowInSeconds⟩)

def checkTotal (bucket : Option Bucket) (totalMaxCount duration now : ℕ) : Bool × Option Bucket :=
  if totalMaxCount=0 then (true,bucket)
  else ((allow bucket totalMaxCount duration now).1,some (allow bucket totalMaxCount duration now).2)

/-- `redisRateLimitHandler`. After an abort for the total limit nothing is handled or recorded. -/
def redisRateLimitHandler (zone : ℕ → ℤ) (cfg : Config) (st : RedisState) (r : Request) : Outcome × RedisState :=
  let (allowed,success) := checkRedisRateLimit zone st.success cfg.successMaxCount cfg.duration r.arrival
  if !allowed then (.successLimit,{ st with success := success })
  else
    let (allowed,total) := checkTotal st.total cfg.totalMaxCount cfg.duration r.arrival
    if !allowed then (.totalLimit,⟨success,total⟩)
    else if r.ok then
      (.accepted,⟨recordRedisRequest success cfg.successMaxCount cfg.duration r.completion,total⟩)
    else (.accepted,⟨success,total⟩)

/-- The store of an `InMemoryRateLimiter`: the oldest moment of a queue, in seconds, is the first. -/
abbrev Store := String → Option (List ℕ)

/-- `InMemoryRateLimiter.Request`. -/
def Store.request (store : Store) (key : String) (maxRequestNum duration now : ℕ) : Bool × Store :=
  match store key with
  | none => (true,update store key (some [now]))
  | some queue =>
    if queue.length < maxRequestNum then (true,update store key (some (queue++[now])))
    else
      match queue with
      -- not reached: a queue is made with its first moment
      | [] => (true,store)
      | oldest::rest =>
        if oldest+duration≤now then (true,update store key (some (rest++[now]))) else (false,store)

/-- One round of `clearExpiredItems`. -/
def Store.clearExpiredItems (store : Store) (expirationDuration now : ℕ) : Store := fun key =>
  (store key).filter fun queue =>
    match queue.getLast? with
    | none => false
    | some newest => now≤newest+expirationDuration

def countMark : String := "MRRL"
def successCountMark : String := "MRRLS"

/-- `memoryRateLimitHandler`. -/
def memoryRateLimitHandler (cfg : Config) (userId : String) (store : Store) (r : Request) : Outcome × Store :=
  let totalKey := countMark++userId
  let successKey := successCountMark++userId
  let checkKey := successKey++"_check"
  let total := if 0<cfg.totalMaxCount then
      store.request totalKey cfg.totalMaxCount cfg.duration (r.arrival/1000)
    else (true,store)
  if !total.1 then (.totalLimit,total.2)
  else
    let check := total.2.request checkKey cfg.successMaxCount cfg.duration (r.arrival/1000)
    if !check.1 then (.successLimit,check.2)
    else if r.ok then
      (.accepted,(check.2.request successKey cfg.successMaxCount cfg.duration (r.completion/1000)).2)
    else (.accepted,check.2)

open SlidingWindow List

/-- What happens in the course of time: requests, one after the other, and rounds of `clearExpiredItems`. -/
inductive Event
  | request (r : Request)
  | clear (now : ℕ)

def Timed : ℕ → List Event → Prop
  | _,[] => True
  | t,.clear now::es => t≤now ∧ Timed now es
  | t,.request r::es => t ≤ r.arrival ∧ r.arrival ≤ r.completion ∧ Timed r.completion es

instance decidableTimed : ∀ t es, Decidable (Timed t es)
  | _,[] => isTrue trivial
  | _,.clear now::es =>
    have := decidableTimed now es
    inferInstanceAs (Decidable (_ ∧ _))
  | _,.request r::es =>
    have := decidableTimed r.completion es
    inferInstanceAs (Decidable (_ ∧ _ ∧ _))

def SuccessFull (cfg : Config) (successes : List ℕ) (now : ℕ) : Prop :=
  0<cfg.successMaxCount ∧ cfg.successMaxCount ≤ recent now (cfg.duration*1000) successes

instance (cfg : Config) (successes : List ℕ) (now : ℕ) : Decidable (SuccessFull cfg successes now) :=
  inferInstanceAs (Decidable (_ ∧ _))

def logged (successes : List ℕ) (r : Request) (o : Outcome) : List ℕ :=
  if o=.accepted ∧ r.ok then r.completion::successes else successes

/-- A handler with its state and what a round of `clearExpiredItems` does to it. -/
structure Limiter (S : Type*) where
  handle : S → Request → Outcome × S
  clear : S → ℕ → S

/-- Every request is refused for the success limit exactly when that is reached. -/
def Limiter.Limits {S : Type*} (L : Limiter S) (cfg : Config) : S → List ℕ → List Event → Prop
  | _,_,[] => True
  | s,successes,.clear now::es => L.Limits cfg (L.clear s now) successes es
  | s,successes,.request r::es =>
    ((L.handle s r).1=.successLimit ↔ SuccessFull cfg successes r.arrival) ∧
      L.Limits cfg (L.handle s r).2 (logged successes r (L.handle s r).1) es

instance Limiter.decidableLimits {S : Type*} (L : Limiter S) (cfg : Config) :
    ∀ s successes es, Decidable (L.Limits cfg s successes es)
  | _,_,[] => isTrue trivial
  | s,successes,.clear now::es => L.decidableLimits cfg (L.clear s now) successes es
  | s,successes,.request r::es =>
    have := L.decidableLimits cfg (L.handle s r).2 (logged successes r (L.handle s r).1) es
    inferInstanceAs (Decidable (_ ∧ _))

def redisLimiter (zone : ℕ → ℤ) (cfg : Config) : Limiter RedisState := ⟨redisRateLimitHandler zone cfg,fun st _ => st⟩

def memoryLimiter (cfg : Config) (expirationDuration : ℕ) (userId : String) : Limiter Store :=
  ⟨memoryRateLimitHandler cfg userId,fun store now => store.clearExpiredItems expirationDuration (now/1000)⟩

/-- What holds at each request of the ones before it. -/
def Throughout (P : List Request → Request → Prop) : List Request → List Event → Prop
  | _,[] => True
  | seen,.clear _::es => Throughout P seen es
  | seen,.request r::es => P seen r ∧ Throughout P (r::seen) es

instance decidableThroughout (P : List Request → Request → Prop) [∀ seen r, Decidable (P seen r)] :
    ∀ seen es, Decidable (Throughout P seen es)
  | _,[] => isTrue trivial
  | seen,.clear _::es => decidableThroughout P seen es
  | seen,.request r::es =>
    have := decidableThroughout P (r::seen) es
    inferInstanceAs (Decidable (_ ∧ _))

namespace Config
variable (cfg : Config)
/-- A success of the last duration. -/
def Recent (p r : Request) : Prop := p.ok=true ∧ r.arrival<p.completion+cfg.duration*1000

/-- A success of the last duration by the clocks of the zone. -/
def OnClock (zone : ℕ → ℤ) (p r : Request) : Prop :=
  p.ok=true ∧ (readBack zone r.arrival-readBack zone p.completion).tdiv 1000<cfg.duration

instance (p r : Request) : Decidable (cfg.Recent p r) := inferInstanceAs (Decidable (_ ∧ _))

instance (zone : ℕ → ℤ) (p r : Request) : Decidable (cfg.OnClock zone p r) := inferInstanceAs (Decidable (_ ∧ _))

def ClockRight (zone : ℕ → ℤ) (seen : List Request) (r : Request) : Prop :=
  ∀ p∈seen, cfg.OnClock zone p r ↔ cfg.Recent p r

instance (zone : ℕ → ℤ) (seen : List Request) (r : Request) : Decidable (cfg.ClockRight zone seen r) :=
  inferInstanceAs (Decidable (∀ p∈seen, _))
end Config

lemma mem_logged {successes : List ℕ} {r : Request} {o : Outcome} {x : ℕ} (h : x∈logged successes r o) :
    r.ok=true ∧ r.completion=x ∨ x∈successes := by
  unfold logged at h
  split at h
  next hlog => exact (mem_cons.mp h).imp (fun heq => ⟨hlog.2,heq.symm⟩) id
  next => exact .inr h

variable {cfg : Config} {zone : ℕ → ℤ} {l : RedisList} {successes : List ℕ} {now : ℕ} {st : RedisState}
/-- What the list under the success key knows of all successes: the newest ones, and all that may still count. -/
structure Knows (cfg : Config) (l : RedisList) (successes : List ℕ) (now : ℕ) : Prop where
  descends : Descends successes
  past : ∀ x∈successes, x≤now
  known : l.entries <+: successes
  trimmed : l.entries.length ≤ cfg.successMaxCount
  rest : l.entries.length=cfg.successMaxCount ∨ ∀ x∈successes.drop l.entries.length, x+cfg.duration*1000≤now
  expires : cfg.successMaxCount=0 ∨ ∀ x∈successes, x+cfg.duration*1000≤l.expires

section
variable (h : Knows cfg l successes now)
include h
lemma Knows.later {later : ℕ} (hle : now≤later) : Knows cfg l successes later where
  descends := h.descends
  past x hx := Nat.le_trans (h.past x hx) hle
  known := h.known
  trimmed := h.trimmed
  rest := h.rest.imp_right fun hrest x hx => Nat.le_trans (hrest x hx) hle
  expires := h.expires

lemma Knows.at : ∃ rest, successes=l.at now++rest ∧ (l.at now).length ≤ cfg.successMaxCount ∧
      ((l.at now).length=cfg.successMaxCount ∨ ∀ x∈rest, x+cfg.duration*1000≤now) := by
  unfold RedisList.at
  split
  next hexp =>
    refine ⟨successes,rfl,Nat.zero_le _,h.expires.imp Eq.symm fun hexpires x hx => ?_⟩
    exact Nat.le_trans (hexpires x hx) (Nat.le_of_lt hexp)
  obtain ⟨rest,hrest⟩ := h.known
  refine ⟨rest,hrest.symm,h.trimmed,?_⟩
  have hdrop := h.rest
  rw [← hrest,drop_left] at hdrop
  exact hdrop

lemma full_at_iff (hmax : 0<cfg.successMaxCount) :
    cfg.successMaxCount ≤ recent now (cfg.duration*1000) successes ↔ (l.at now).length=cfg.successMaxCount ∧
        ∃ x, (l.at now).getLast? = some x ∧ now<x+cfg.duration*1000 := by
  obtain ⟨rest,hsucc,hle,hrest⟩ := h.at
  by_cases hfull : (l.at now).length=cfg.successMaxCount
  · have hlast : successes[cfg.successMaxCount-1]? = (l.at now).getLast? := by
      rw [hsucc,List.getElem?_append_left (by omega),List.getLast?_eq_getElem?,hfull]
    rw [le_recent_iff h.descends hmax,hlast]
    simp only [hfull,true_and]
  have hcnt : recent now (cfg.duration*1000) successes≤(l.at now).length := by
    rw [hsucc,recent_append_of_old (hrest.resolve_left hfull)]
    exact recent_le_length
  exact iff_of_false (by omega) fun hboth => hfull hboth.1

lemma checkRedis_spec (hclock : ∀ x∈successes,
      (readBack zone now-readBack zone x).tdiv 1000<cfg.duration ↔ now<x+cfg.duration*1000) :
    ((checkRedisRateLimit zone l cfg.successMaxCount cfg.duration now).1=false ↔ SuccessFull cfg successes now) ∧
      Knows cfg (checkRedisRateLimit zone l cfg.successMaxCount cfg.duration now).2 successes now := by
  obtain ⟨rest,hsucc,hle,hrest⟩ := h.at
  unfold SuccessFull checkRedisRateLimit
  by_cases hzero : cfg.successMaxCount=0
  · rw [if_pos hzero]
    exact ⟨iff_of_false Bool.noConfusion (by omega),h⟩
  have hmax : 0<cfg.successMaxCount := Nat.pos_of_ne_zero hzero
  rw [full_at_iff h hmax,if_neg hzero]
  split
  next hlt =>
    refine ⟨iff_of_false Bool.noConfusion ?_,h⟩
    rintro ⟨-,hfull,-⟩
    omega
  next hge =>
  have hfull : (l.at now).length=cfg.successMaxCount := by omega
  cases hlast : (l.at now).getLast? with
  | none =>
    rw [List.getLast?_eq_none_iff] at hlast
    rw [hlast] at hfull
    simp at hfull
    omega
  | some old =>
    have hold : old∈successes := by
      rw [hsucc]
      exact mem_append_left _ (mem_of_getLast? hlast)
    dsimp only
    simp only [hclock old hold,hfull,hmax,true_and,Option.some.injEq,exists_eq_left']
    split
    next hrec =>
      refine ⟨iff_of_true rfl hrec,h.descends,h.past,⟨rest,hsucc.symm⟩,hle,.inl hfull,.inr fun x hx => ?_⟩
      have := h.past x hx
      show x+cfg.duration*1000≤now+cfg.duration*1000
      omega
    next hrec => exact ⟨iff_of_false Bool.noConfusion hrec,h⟩

lemma record_knows : Knows cfg (recordRedisRequest l cfg.successMaxCount cfg.duration now) (now::successes) now := by
  obtain ⟨rest,hsucc,hle,hrest⟩ := h.at
  have hpast : ∀ x∈now::successes, x≤now := forall_mem_cons.mpr ⟨Nat.le_refl _,h.past⟩
  have hdescends : Descends (now::successes) := pairwise_cons.mpr ⟨h.past,h.descends⟩
  unfold recordRedisRequest
  split
  next hzero =>
    have htrimmed := h.trimmed
    have hnil : l.entries=[] := length_eq_zero_iff.mp (by omega)
    exact ⟨hdescends,hpast,hnil ▸ nil_prefix,htrimmed,.inl (by rw [hnil,hzero]; rfl),.inl hzero⟩
  next hpos =>
  refine ⟨hdescends,hpast,?_,?_,?_,.inr fun x hx => ?_⟩
  · rw [hsucc,← cons_append]
    exact ( take_prefix _ _).trans (prefix_append _ _)
  · exact length_take_le _ _
  · by_cases hfull : cfg.successMaxCount≤(l.at now).length+1
    · left
      rw [length_take,length_cons]
      omega
    right
    rw [take_of_length_le (by simp only [length_cons]; omega),length_cons,drop_succ_cons,hsucc,drop_left]
    exact hrest.resolve_left (by omega)
  · have := hpast x hx
    show x+cfg.duration*1000≤now+cfg.duration*1000
    omega
end

lemma redisHandler_spec {r : Request} (hr : r.arrival ≤ r.completion)
    (hclock : ∀ x∈successes,
      (readBack zone r.arrival-readBack zone x).tdiv 1000<cfg.duration ↔ r.arrival<x+cfg.duration*1000)
    (h : Knows cfg st.success successes r.arrival) :
    ((redisRateLimitHandler zone cfg st r).1=.successLimit ↔ SuccessFull cfg successes r.arrival) ∧
      Knows cfg (redisRateLimitHandler zone cfg st r).2.success
        (logged successes r (redisRateLimitHandler zone cfg st r).1) r.completion := by
  obtain ⟨hiff,hknows⟩ := checkRedis_spec h hclock
  unfold redisRateLimitHandler
  dsimp only
  generalize checkRedisRateLimit zone st.success cfg.successMaxCount cfg.duration r.arrival=check at hiff hknows ⊢
  by_cases hallowed : check.1=false
  · rw [hallowed]
    exact ⟨iff_of_true rfl (hiff.mp hallowed),hknows.later hr⟩
  have hnot : ¬SuccessFull cfg successes r.arrival := fun hfull => hallowed (hiff.mpr hfull)
  rw [Bool.not_eq_false] at hallowed
  simp only [hallowed,Bool.not_true,Bool.false_eq_true,if_false]
  split
  · exact ⟨iff_of_false (fun h => nomatch h) hnot,hknows.later hr⟩
  split
  next hok =>
    refine ⟨iff_of_false (fun h => nomatch h) hnot,?_⟩
    rw [logged,if_pos ⟨rfl,hok⟩]
    exact record_knows (hknows.later hr)
  next hok =>
  refine ⟨iff_of_false (fun h => nomatch h) hnot,?_⟩
  rw [logged,if_neg fun hboth => hok hboth.2]
  exact hknows.later hr

lemma redis_limits {seen : List Request} {es : List Event} {t : ℕ} (htimed : Timed t es)
    (hclocks : Throughout (cfg.ClockRight zone) seen es) (hseen : ∀ x∈successes, ∃ p∈seen, p.ok=true ∧ p.completion=x)
    (h : Knows cfg st.success successes t) : (redisLimiter zone cfg).Limits cfg st successes es := by
  induction es generalizing st successes seen t with
  | nil => exact trivial
  | cons e es ih =>
    cases e with
    | clear now =>
      obtain ⟨hle,htimed⟩ := htimed
      exact ih htimed hclocks hseen (h.later hle)
    | request r =>
      obtain ⟨hle,hr,htimed⟩ := htimed
      obtain ⟨hnow,hclocks⟩ := hclocks
      have hclock : ∀ x∈successes,
          (readBack zone r.arrival-readBack zone x).tdiv 1000<cfg.duration ↔ r.arrival<x+cfg.duration*1000 := by
        intro x hx
        obtain ⟨p,hp,hok,rfl⟩ := hseen x hx
        have hright := hnow p hp
        rwa [Config.OnClock,Config.Recent,and_congr_right_iff,imp_iff_right hok] at hright
      obtain ⟨hiff,hknows⟩ := redisHandler_spec hr hclock (h.later hle)
      refine ⟨hiff,ih htimed hclocks (fun x hx => ?_) hknows⟩
      obtain hown | hx := mem_logged hx
      · exact ⟨r,mem_cons_self,hown⟩
      obtain ⟨p,hp,hpast⟩ := hseen x hx
      exact ⟨p,mem_cons_of_mem _ hp,hpast⟩

lemma knows_init (cfg : Config) : Knows cfg RedisState.init.success [] 0 where
  descends := List.Pairwise.nil
  past _ hx := nomatch hx
  known := nil_prefix
  trimmed := Nat.zero_le _
  rest := .inr fun _ hx => nomatch hx
  expires := .inr fun _ hx => nomatch hx
end AronaApi.RateLimit
