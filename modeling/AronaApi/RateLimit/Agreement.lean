import AronaApi.RateLimit.MemoryWindow

/-! When the two ways to limit requests refuse what they should. Redis takes moments from the clocks of the zone; the
memory of the process counts the requests that it has accepted, in whole seconds. -/
namespace AronaApi.RateLimit
open SlidingWindow List Function Memory

namespace Config
variable (cfg : Config)
/-- A request of the last duration, in whole seconds, whatever has become of it. -/
def InSeconds (p r : Request) : Prop := r.arrival/1000<p.arrival/1000+cfg.duration

instance (p r : Request) : Decidable (cfg.InSeconds p r) := inferInstanceAs (Decidable (_<_))

/-- The requests of the last seconds are the successes of the last duration, and not so many that the total limit
is reached. -/
def SecondsRight (seen : List Request) (r : Request) : Prop :=
  (∀ p∈seen, cfg.InSeconds p r ↔ cfg.Recent p r) ∧
    (0<cfg.totalMaxCount → seen.countP (fun p => cfg.InSeconds p r)<cfg.totalMaxCount)

instance (seen : List Request) (r : Request) : Decidable (cfg.SecondsRight seen r) := inferInstanceAs (Decidable (_ ∧ _))
end Config

variable {now n duration expirationDuration : ℕ} {store : Store} {cfg : Config} {userId : String} {totals attempts : List ℕ}
lemma total_ne (userId suffix : String) : countMark++userId≠successCountMark++userId++suffix := by
  intro h
  have hleng := congrArg String.length h
  have hmrk : countMark.length=4 ∧ successCountMark.length=5 := by decide
  simp only [String.length_append] at hleng
  omega

lemma check_ne_success (userId : String) : successCountMark++userId++"_check" ≠ successCountMark++userId := by
  intro h
  have hleng := congrArg String.length h
  have hchc : "_check".length=6 := by decide
  simp only [String.length_append] at hleng
  omega

/-- A call for one key leaves the other queues alone. -/
lemma request_of_ne {key k : String} (hne : k≠key) : (store.request key n duration now).2 k=store k := by
  unfold Store.request
  split
  · exact update_of_ne hne _ _
  split
  · exact update_of_ne hne _ _
  split
  · rfl
  split
  · exact update_of_ne hne _ _
  · rfl

/-- The two queues of a user: the requests let through by the total limit, and those let through by the check of the
success limit. -/
structure Holds (cfg : Config) (userId : String) (store : Store) (totals attempts : List ℕ) (now : ℕ) : Prop where
  total : 0<cfg.totalMaxCount → Remembers cfg.totalMaxCount cfg.duration now totals (store (countMark++userId))
  check : Remembers cfg.successMaxCount cfg.duration now attempts (store (successCountMark++userId++"_check"))

lemma Holds.later (h : Holds cfg userId store totals attempts now) {later : ℕ} (hle : now≤later) :
    Holds cfg userId store totals attempts later := ⟨fun hpos => (h.total hpos).later hle,h.check.later hle⟩

lemma Holds.clear (h : Holds cfg userId store totals attempts now) (hdur : cfg.duration≤expirationDuration) :
    Holds cfg userId (store.clearExpiredItems expirationDuration now) totals attempts now :=
  ⟨fun hpos => (h.total hpos).clear hdur,h.check.clear hdur⟩

lemma Holds.recordSuccess (h : Holds cfg userId store totals attempts now) (n duration later : ℕ) :
    Holds cfg userId (store.request (successCountMark++userId) n duration later).2 totals attempts now := by
  refine ⟨fun hpos => ?_,?_⟩
  · rw [request_of_ne (by simpa using total_ne userId "")]
    exact h.total hpos
  · rw [request_of_ne (check_ne_success userId)]
    exact h.check

lemma total_request (h : Holds cfg userId store totals attempts now)
    (hspare : 0<cfg.totalMaxCount → recent now cfg.duration totals<cfg.totalMaxCount) :
    ∃ store' totals', (if 0<cfg.totalMaxCount then
        store.request (countMark++userId) cfg.totalMaxCount cfg.duration now else (true,store))=(true,store') ∧
      (totals'=totals ∨ totals'=now::totals) ∧ Holds cfg userId store' totals' attempts now := by
  by_cases hpos : 0<cfg.totalMaxCount
  · obtain ⟨hfull,-⟩ | ⟨-,queue,hreq,hqueue⟩ := (h.total hpos).request hpos
    · exact absurd (hspare hpos) (Nat.not_lt.mpr hfull)
    refine ⟨_,_,by rw [if_pos hpos,hreq],.inr rfl,fun _ => ?_,?_⟩
    · rw [update_self]
      exact hqueue
    · rw [update_of_ne (total_ne userId _).symm]
      exact h.check
  · exact ⟨store,totals,if_neg hpos,.inl rfl,h⟩

lemma memoryHandler_spec {r : Request} (hmax : 0<cfg.successMaxCount) (hr : r.arrival ≤ r.completion)
    (h : Holds cfg userId store totals attempts (r.arrival/1000))
    (hspare : 0<cfg.totalMaxCount → recent (r.arrival/1000) cfg.duration totals<cfg.totalMaxCount) :
    ∃ totals', (totals'=totals ∨ totals'=r.arrival/1000::totals) ∧
      if cfg.successMaxCount ≤ recent (r.arrival/1000) cfg.duration attempts then
        (memoryRateLimitHandler cfg userId store r).1=.successLimit ∧
          Holds cfg userId (memoryRateLimitHandler cfg userId store r).2 totals' attempts (r.completion/1000)
      else
        (memoryRateLimitHandler cfg userId store r).1=.accepted ∧
          Holds cfg userId (memoryRateLimitHandler cfg userId store r).2 totals' (r.arrival/1000::attempts)
            (r.completion/1000) := by
  have hlater : r.arrival/1000 ≤ r.completion/1000 := Nat.div_le_div_right hr
  obtain ⟨store₁,totals',htotal,htotals',hholds⟩ := total_request h hspare
  refine ⟨totals',htotals',?_⟩
  unfold memoryRateLimitHandler
  dsimp only
  rw [htotal]
  simp only [Bool.not_true,Bool.false_eq_true,if_false]
  obtain ⟨hfull,hreq⟩ | ⟨hopen,queue,hreq,hqueue⟩ := hholds.check.request hmax
  · rw [if_pos hfull,hreq]
    exact ⟨rfl,hholds.later hlater⟩
  rw [if_neg (Nat.not_le.mpr hopen),hreq]
  simp only [Bool.not_true,Bool.false_eq_true,if_false]
  have hcheck : Holds cfg userId (update store₁ (successCountMark++userId++"_check") queue) totals'
      (r.arrival/1000::attempts) (r.arrival/1000) := by
    refine ⟨fun hpos => ?_,?_⟩
    · rw [update_of_ne (total_ne userId _)]
      exact hholds.total hpos
    · rw [update_self]
      exact hqueue
  split
  · exact ⟨rfl,(hcheck.recordSuccess _ _ _).later hlater⟩
  · exact ⟨rfl,hcheck.later hlater⟩

def seconds (rs : List Request) : List ℕ := rs.map fun r => r.arrival/1000

def successesOf (accepted : List Request) : List ℕ := (accepted.filter (·.ok)).map (·.completion)

lemma recent_seconds {rs : List Request} {r : Request} :
    recent (r.arrival/1000) cfg.duration (seconds rs)=rs.countP fun p => cfg.InSeconds p r := by
  rw [seconds,recent,countP_map]
  rfl

lemma recent_successesOf {accepted : List Request} {r : Request}
    (h : ∀ p∈accepted, cfg.InSeconds p r ↔ cfg.Recent p r) :
    recent r.arrival (cfg.duration*1000) (successesOf accepted)=accepted.countP fun p => cfg.InSeconds p r := by
  rw [successesOf,recent,countP_map,countP_filter]
  refine countP_congr fun p hp => ?_
  simp [h p hp,Config.Recent,and_comm]

lemma memory_limits {seen accepted : List Request} {es : List Event} {t : ℕ} (hmax : 0<cfg.successMaxCount)
    (hdur : cfg.duration≤expirationDuration) (htimed : Timed t es) (hright : Throughout cfg.SecondsRight seen es)
    (h : Holds cfg userId store totals (seconds accepted) (t/1000)) (htotals : totals <+ seconds seen)
    (hsub : accepted⊆seen) : (memoryLimiter cfg expirationDuration userId).Limits cfg store (successesOf accepted) es := by
  induction es generalizing store totals seen accepted t with
  | nil => exact trivial
  | cons e es ih =>
    cases e with
    | clear now =>
      obtain ⟨hle,htimed⟩ := htimed
      exact ih htimed hright ((h.later (Nat.div_le_div_right hle)).clear hdur) htotals hsub
    | request r =>
      obtain ⟨hle,hr,htimed⟩ := htimed
      obtain ⟨⟨hcounts,hspare⟩,hright⟩ := hright
      have hfull : cfg.successMaxCount ≤ recent (r.arrival/1000) cfg.duration (seconds accepted) ↔
          SuccessFull cfg (successesOf accepted) r.arrival := by
        rw [SuccessFull,recent_successesOf fun p hp => hcounts p (hsub hp),recent_seconds]
        exact (and_iff_right hmax).symm
      obtain ⟨totals',htotals',hspec⟩ := memoryHandler_spec hmax hr (h.later (Nat.div_le_div_right hle)) fun hpos =>
        Nat.lt_of_le_of_lt (Nat.le_trans htotals.countP_le (Nat.le_of_eq recent_seconds)) (hspare hpos)
      have hnext : totals' <+ seconds (r::seen) := by
        obtain rfl | rfl := htotals'
        · exact htotals.cons _
        · exact htotals.cons_cons _
      show ((memoryRateLimitHandler cfg userId store r).1=.successLimit ↔ _) ∧
        (memoryLimiter cfg expirationDuration userId).Limits cfg (memoryRateLimitHandler cfg userId store r).2
          (logged _ r (memoryRateLimitHandler cfg userId store r).1) es
      split at hspec
      next hlimit =>
        rw [hspec.1]
        exact ⟨iff_of_true rfl (hfull.mp hlimit),ih htimed hright hspec.2 hnext fun p hp => mem_cons_of_mem _ (hsub hp)⟩
      next hopen =>
      rw [hspec.1]
      refine ⟨iff_of_false (by simp) (mt hfull.mpr hopen),?_⟩
      have hlogged : logged (successesOf accepted) r .accepted=successesOf (r::accepted) := by
        by_cases hok : r.ok=true
        · simp [logged,successesOf,hok]
        · simp [logged,successesOf,hok]
      rw [hlogged]
      exact ih htimed hright hspec.2 hnext (cons_subset_cons r hsub)

/-- With Redis a request is refused for the success limit exactly when that is reached, in every history in which the
clocks of the zone tell at each request which successes are recent. With the memory of the process it is so if there
is a limit, no queue is forgotten within the duration, and at each request the requests of the last seconds are the
recent successes and fewer than the total limit. -/
theorem success_limit_kept (cfg : Config) (zone : ℕ → ℤ) (expirationDuration : ℕ) (userId : String) {es : List Event}
    (h : Timed 0 es) :
    (Throughout (cfg.ClockRight zone) [] es → (redisLimiter zone cfg).Limits cfg RedisState.init [] es) ∧
      (0<cfg.successMaxCount → cfg.duration≤expirationDuration → Throughout cfg.SecondsRight [] es →
        (memoryLimiter cfg expirationDuration userId).Limits cfg (fun _ => none) [] es) := by
  refine ⟨fun hclocks => redis_limits h hclocks (by simp) (knows_init cfg),fun hmax hdur hright => ?_⟩
  have hnil : Holds cfg userId (fun _ => none) [] (seconds []) 0 := ⟨fun _ => remembers_nil,remembers_nil⟩
  exact memory_limits hmax hdur h hright hnil (nil_sublist _) (Subset.refl _)

def requestsAt (ok : Bool) (seconds : List ℕ) : List Event :=
  seconds.map fun second => .request ⟨second*1000,second*1000,ok⟩

/-- Requests that succeed at once, on full seconds, while the clocks are not changed. -/
theorem successes_limited :
    Timed 0 (requestsAt true [0,10,20,60,65,70]) ∧
      (redisLimiter (fun _ => 3600000) ⟨1,9,2⟩).Limits ⟨1,9,2⟩ .init [] (requestsAt true [0,10,20,60,65,70]) ∧
      (memoryLimiter ⟨1,9,2⟩ 1200 "7").Limits ⟨1,9,2⟩ (fun _ => none) [] (requestsAt true [0,10,20,60,65,70]) := by
  have htimed : Timed 0 (requestsAt true [0,10,20,60,65,70]) := by decide
  obtain ⟨hredis,hmemory⟩ := success_limit_kept ⟨1,9,2⟩ (fun _ => 3600000) 1200 "7" htimed
  exact ⟨htimed,hredis (by decide),hmemory (by decide) (by decide) (by decide)⟩

/-- Failed requests are refused after one of them, requests without a limit after the first one, a success of less
than an hour ago is forgotten after 20 minutes, and Redis forgets one of a minute ago when the clocks go forward. -/
theorem memory_miscounts :
    (Timed 0 (requestsAt false [0,1]) ∧
        ¬(memoryLimiter ⟨1,0,1⟩ 1200 "7").Limits ⟨1,0,1⟩ (fun _ => none) [] (requestsAt false [0,1])) ∧
      (Timed 0 (requestsAt true [0,1]) ∧
        ¬(memoryLimiter ⟨1,0,0⟩ 1200 "7").Limits ⟨1,0,0⟩ (fun _ => none) [] (requestsAt true [0,1])) ∧
      (Timed 0 (requestsAt true [0]++[.clear 1201000]++requestsAt true [1202]) ∧
        ¬(memoryLimiter ⟨60,0,1⟩ 1200 "7").Limits ⟨60,0,1⟩ (fun _ => none) []
          (requestsAt true [0]++[.clear 1201000]++requestsAt true [1202])) ∧
      ¬(redisLimiter (fun t => if t<1000 then 0 else 3600000) ⟨1,0,1⟩).Limits ⟨1,0,1⟩ .init []
        (requestsAt true [0,1]) := by decide +kernel
end AronaApi.RateLimit
