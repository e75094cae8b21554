import AronaApi.RateLimit.Windows

/-! The window that the limiter in the memory of the process enforces (`common/rate-limit.go`), for any keys
and with its queues cleared at any time. -/
namespace AronaApi.RateLimit.Memory
open SlidingWindow List

inductive Command
  | request (key : String) (now : ℕ)
  | clearExpiredItems (now : ℕ)

def Command.now : Command → ℕ
  | .request _ now | .clearExpiredItems now => now

/-- The store, and the moments at which calls were accepted for a key, the newest first. -/
structure State where
  store : Store := fun _ => none
  accepted : String → List ℕ := fun _ => []

def step (maxRequestNum duration expirationDuration : ℕ) (s : State) : Command → State
  | .request key now =>
    let r := s.store.request key maxRequestNum duration now
    ⟨r.2,if r.1 then Function.update s.accepted key (now::s.accepted key) else s.accepted⟩
  | .clearExpiredItems now => { s with store := s.store.clearExpiredItems expirationDuration now }

/-- What a round of `clearExpiredItems` leaves of the moments in a queue. -/
def forget (expirationDuration now : ℕ) (log : List ℕ) : List ℕ :=
  match log with
  | [] => []
  | newest::_ => if now≤newest+expirationDuration then log else []

variable {n d e now t duration k : ℕ} {log : List ℕ} {queue : Option (List ℕ)} {store : Store} {key : String} {s : State}
def Queued (n : ℕ) (log : List ℕ) (queue : Option (List ℕ)) : Prop :=
  queue=if log=[] then none else some (log.take (max n 1)).reverse

lemma queue_eq_cons (hk : max n 1=k+1) (hlt : k<log.length) :
    (log.take (max n 1)).reverse=log[k]::(log.take k).reverse := by
  rw [hk,take_succ_eq_append_getElem hlt,reverse_append]
  rfl

lemma full_iff_oldest (hk : max n 1=k+1) (hlt : k<log.length) (hlog : Descends log) :
    max n 1 ≤ recent now duration log ↔ ¬log[k]+duration≤now := by
  rw [le_recent_iff hlog (by omega),hk,Nat.add_sub_cancel,List.getElem?_eq_getElem hlt]
  simp

lemma request_of_full (h : Queued n log (store key)) (hlog : Descends log)
    (hfull : max n 1 ≤ recent now duration log) : store.request key n duration now=(false,store) := by
  have hleng : max n 1≤log.length := Nat.le_trans hfull recent_le_length
  have hnil : log≠[] := ne_nil_of_length_pos (by omega)
  obtain ⟨k,hk⟩ : ∃ k, max n 1=k+1 := ⟨max n 1-1,by omega⟩
  rw [Queued,if_neg hnil] at h
  unfold Store.request
  rw [h]
  dsimp only
  rw [if_neg (by rw [length_reverse,length_take]; omega),queue_eq_cons hk (by omega)]
  exact if_neg ((full_iff_oldest hk (by omega) hlog).mp hfull)

lemma request_of_not_full (h : Queued n log (store key)) (hlog : Descends log)
    (hopen : ¬max n 1 ≤ recent now duration log) :
    ∃ queue, store.request key n duration now=(true,Function.update store key queue) ∧ Queued n (now::log) queue := by
  refine ⟨_,?_,rfl⟩
  rw [if_neg (cons_ne_nil _ _)]
  unfold Store.request
  by_cases hnil : log=[]
  · rw [Queued,if_pos hnil] at h
    rw [h,hnil,take_of_length_le (by simp only [length_singleton]; omega)]
    rfl
  have hpos : 0<log.length := length_pos_iff.mpr hnil
  rw [Queued,if_neg hnil] at h
  rw [h]
  dsimp only
  rw [length_reverse,length_take]
  split
  · -- the log is shorter than the limit
    rw [take_of_length_le (by omega),take_of_length_le (by rw [length_cons]; omega),reverse_cons]
  obtain ⟨k,hk⟩ : ∃ k, max n 1=k+1 := ⟨max n 1-1,by omega⟩
  have hlt : k<log.length := by omega
  rw [queue_eq_cons hk hlt]
  dsimp only
  rw [if_pos (not_not.mp (mt (full_iff_oldest hk hlt hlog).mpr hopen)),hk,take_succ_cons,reverse_cons]

lemma queued_forget (h : Queued n log (store key)) (expirationDuration now : ℕ) :
    Queued n (forget expirationDuration now log) (store.clearExpiredItems expirationDuration now key) := by
  unfold Store.clearExpiredItems
  cases log with
  | nil =>
    rw [Queued,if_pos rfl] at h
    rw [h]
    rfl
  | cons newest rest =>
    rw [Queued,if_neg (cons_ne_nil _ _)] at h
    have hlast : ((newest::rest).take (max n 1)).reverse.getLast? = some newest := by
      obtain ⟨k,hk⟩ : ∃ k, max n 1=k+1 := ⟨max n 1-1,by omega⟩
      rw [hk,take_succ_cons,List.getLast?_reverse]
      rfl
    unfold forget
    dsimp only
    split
    next hkeep =>
      rw [h,Option.filter_some_pos (by rw [hlast]; simpa using hkeep),Queued,if_neg (cons_ne_nil _ _)]
    next hdrop =>
    rw [h,Option.filter_some_neg (by rw [hlast]; simpa using hdrop)]
    rfl

/-- What a queue knows of the calls that were accepted: all that may still count. -/
structure Remembers (n d now : ℕ) (log : List ℕ) (queue : Option (List ℕ)) : Prop where
  descends : Descends log
  past : ∀ x∈log, x≤now
  queued : ∃ known rest, log=known++rest ∧ Queued n known queue ∧ ∀ x∈rest, x+d≤now
  window : ∀ t, (log.countP fun x => t≤x ∧ x<t+d)≤n

lemma remembers_nil : Remembers n d now [] none := ⟨.nil,nofun,⟨[],[],rfl,rfl,nofun⟩,fun _ => Nat.zero_le _⟩

lemma Remembers.later (h : Remembers n d now log queue) (hle : now≤t) : Remembers n d t log queue := by
  obtain ⟨known,rest,hlog,hq,hrest⟩ := h.queued
  exact { h with
    past := fun x hx => Nat.le_trans (h.past x hx) hle
    queued := ⟨known,rest,hlog,hq,fun x hx => Nat.le_trans (hrest x hx) hle⟩ }

lemma Remembers.clear (h : Remembers n d now log (store key)) (he : d≤e) :
    Remembers n d now log (store.clearExpiredItems e now key) := by
  refine { h with queued := ?_ }
  obtain ⟨known,rest,rfl,hq,hrest⟩ := h.queued
  have hq' := queued_forget hq e now
  unfold forget at hq'
  split at hq'
  · exact ⟨[],rest,rfl,hq',hrest⟩
  next newest older =>
  split at hq'
  · exact ⟨_,rest,rfl,hq',hrest⟩
  -- the newest moment is too old, and so are all the others
  next hold =>
  refine ⟨[],_,rfl,hq',forall_mem_cons.mpr ⟨by omega,fun x hx => ?_⟩⟩
  have hx' : x≤newest := (pairwise_cons.mp h.descends).1 x hx
  omega

/-- A call that finds fewer than `n` recent ones may be added. -/
lemma countP_window_cons (h : ∀ t, (log.countP fun x => t≤x ∧ x<t+d)≤n) (hfew : recent now d log<n)
    (t : ℕ) : ((now::log).countP fun x => t≤x ∧ x<t+d)≤n := by
  rw [countP_cons]
  split
  next hin =>
    have hle : (log.countP fun x => t≤x ∧ x<t+d) ≤ recent now d log := by
      refine countP_mono_left fun x _ hx => ?_
      simp only [decide_eq_true_eq] at hin hx ⊢
      omega
    omega
  · exact h t

lemma Remembers.request (hn : 1≤n) (h : Remembers n d now log (store key)) :
    (n ≤ recent now d log ∧ store.request key n d now=(false,store)) ∨
      recent now d log<n ∧ ∃ queue, store.request key n d now=(true,Function.update store key queue) ∧
        Remembers n d now (now::log) queue := by
  obtain ⟨known,rest,rfl,hq,hrest⟩ := h.queued
  have hknown : Descends known := (pairwise_append.mp h.descends).1
  have hmax : max n 1=n := Nat.max_eq_left hn
  have hrec : recent now d (known++rest)=recent now d known := recent_append_of_old hrest
  by_cases hfull : n ≤ recent now d known
  · exact .inl ⟨hrec ▸ hfull,request_of_full hq hknown (hmax.symm ▸ hfull)⟩
  obtain ⟨queue,hreq,hq'⟩ := request_of_not_full hq hknown (hmax.symm ▸ hfull)
  refine .inr ⟨by omega,queue,hreq,pairwise_cons.mpr ⟨h.past,h.descends⟩,?_,⟨_,rest,rfl,hq',hrest⟩,
    countP_window_cons h.window (by omega)⟩
  exact forall_mem_cons.mpr ⟨Nat.le_refl _,h.past⟩

lemma remembers_step (hn : 1≤n) (he : d≤e) (h : ∀ key, Remembers n d now (s.accepted key) (s.store key))
    {c : Command} (hle : now ≤ c.now) :
    ∀ key, Remembers n d c.now ((step n d e s c).accepted key) ((step n d e s c).store key) := by
  intro k
  have hk := (h k).later hle
  cases c with
  | clearExpiredItems t => exact hk.clear he
  | request key t =>
    obtain ⟨-,hreq⟩ | ⟨-,queue,hreq,hq⟩ := ((h key).later (t := t) hle).request hn
    · simpa [step,hreq] using hk
    by_cases heq : k=key
    · subst heq
      simpa [step,Command.now,hreq] using hq
    · simpa [step,hreq,heq] using hk

lemma remembers_run (hn : 1≤n) (he : d≤e) (cs : List Command)
    (h : ∀ key, Remembers n d t (s.accepted key) (s.store key))
    (htime : (t::(cs.map Command.now++[now])).Pairwise (· ≤ ·)) (key : String) :
    Remembers n d now ((cs.foldl (step n d e) s).accepted key) ((cs.foldl (step n d e) s).store key) := by
  induction cs generalizing s t with
  | nil => exact (h key).later ((pairwise_cons.mp htime).1 now mem_cons_self)
  | cons c cs ih =>
    obtain ⟨hle,htail⟩ := pairwise_cons.mp htime
    exact ih (remembers_step hn he h (hle c.now mem_cons_self)) htail

/-- At every moment of a run no window of `duration` seconds has more than `maxRequestNum` accepted calls, and a
call is refused only when that many came less than `duration` before it. -/
theorem window_enforced (hn : 1≤n) (he : d≤e) (cs : List Command)
    (htime : (cs.map Command.now++[now]).Pairwise (· ≤ ·)) (key : String) :
    let s := cs.foldl (step n d e) {}
    (∀ t, ((s.accepted key).countP fun x => t≤x ∧ x<t+d)≤n) ∧
      ((s.store.request key n d now).1=false → n≤(s.accepted key).countP fun x => now<x+d) := by
  have hinv := remembers_run hn he cs (s := {}) (t := 0)
    (fun _ => remembers_nil)
    (pairwise_cons.mpr ⟨fun _ _ => Nat.zero_le _,htime⟩) key
  refine ⟨hinv.window,fun hno => ?_⟩
  obtain ⟨hfull,-⟩ | ⟨-,queue,hreq,-⟩ := hinv.request hn
  · exact hfull
  rw [hreq] at hno
  cases hno

/-- Of the calls at 0, 1, 1 and 2 with a limit of two in two seconds only the third is refused. -/
theorem third_refused :
    let s := [Command.request "a" 0,.request "a" 1,.clearExpiredItems 1].foldl (step 2 2 3) {}
    (s.store.request "a" 2 2 1).1=false ∧ (s.store.request "a" 2 2 2).1=true ∧
      2≤(s.accepted "a").countP fun x => 1<x+2 :=
  ⟨by decide,by decide,(window_enforced (by decide) (by decide) _ (by decide) "a").2 (by decide)⟩
end AronaApi.RateLimit.Memory
