import Mathlib.Logic.Function.Basic

/-! A cache of hashes beside a database, in the way Redis is used: entries expire at any time, and most
writes are left to background tasks, which finish in any order or fail. -/

/-- A write on its way. `amend` changes a field: it first asks whether the key is live and then writes,
which creates the hash anew if it has expired in between. -/
inductive CacheTask (K C : Type*)
  | put (key : K) (value : C)
  | amend (key : K) (f : C → C) (live : Bool)
  | delete (key : K)

/-- The value that a task is about to store. -/
def CacheTask.carries {K C : Type*} : CacheTask K C → Option (K × C)
  | .put key value => some (key,value)
  | _ => none

structure HashCache (K C : Type*) where
  entry : K → Option C
  tasks : List (CacheTask K C)

/-- What happens to the cache in the background: the next command of a task, its failure, an expiry. -/
inductive Background (K : Type*)
  | run (n : Nat)
  | fail (n : Nat)
  | expire (key : K)
  deriving DecidableEq

namespace HashCache
open List Function
variable {K C : Type*} [DecidableEq K] [Inhabited C] {key k : K}
def empty : HashCache K C := ⟨fun _ => none,[]⟩

def set (c : HashCache K C) (key : K) (value : C) : HashCache K C :=
  { c with entry := update c.entry key (some value) }

def remove (c : HashCache K C) (key : K) : HashCache K C := { c with entry := update c.entry key none }

def spawn (c : HashCache K C) (task : CacheTask K C) : HashCache K C := { c with tasks := c.tasks++[task] }

/-- One command of the `n`-th task. A hash that is created by one field has the others at their zero. -/
def run (c : HashCache K C) (n : Nat) : HashCache K C :=
  match c.tasks[n]? with
  | none => c
  | some (.put key value) => { c with tasks := c.tasks.eraseIdx n }.set key value
  | some (.amend key f false) =>
    if (c.entry key).isSome then { c with tasks := c.tasks.set n (.amend key f true) }
    else { c with tasks := c.tasks.eraseIdx n }
  | some (.amend key f true) => { c with tasks := c.tasks.eraseIdx n }.set key (f ((c.entry key).getD default))
  | some (.delete key) => { c with tasks := c.tasks.eraseIdx n }.remove key

def background (c : HashCache K C) : Background K → HashCache K C
  | .run n => c.run n
  | .fail n => { c with tasks := c.tasks.eraseIdx n }
  | .expire key => c.remove key

/-- Everything in the cache and on its way to it satisfies `P`, and no write on its way changes a field. -/
structure Within (P : K → C → Prop) (c : HashCache K C) : Prop where
  entry : ∀ key value, c.entry key=some value → P key value
  put : ∀ key value, .put key value∈c.tasks → P key value
  amend : ∀ key f live, .amend key f live∉c.tasks

variable {P : K → C → Prop} {c : HashCache K C} {value : C} {task : CacheTask K C}
omit [DecidableEq K] [Inhabited C] in
lemma within_empty : (empty : HashCache K C).Within P :=
  ⟨fun _ _ h => (nomatch h),fun _ _ h => (not_mem_nil h).elim,fun _ _ _ => not_mem_nil⟩

omit [DecidableEq K] [Inhabited C] in
lemma Within.mono {Q : K → C → Prop} (h : c.Within P) (hPQ : ∀ key value, P key value → Q key value) : c.Within Q :=
  ⟨fun key value he => hPQ key value (h.entry key value he),fun key value ht => hPQ key value (h.put key value ht),
    h.amend⟩

omit [Inhabited C] in
/-- A write leaves the cache within `P` when the rest can only offend under its key and what is written does not. -/
lemma within_update {o : Option C} (hoth : ∀ k v, c.entry k=some v → k≠key → P k v)
    (hput : ∀ k v, .put k v∈c.tasks → P k v) (hamend : ∀ k f live, .amend k f live∉c.tasks)
    (hself : ∀ v∈o, P key v) : { c with entry := update c.entry key o }.Within P := by
  refine ⟨fun k v he => ?_,hput,hamend⟩
  by_cases hk : k=key
  · subst hk
    exact hself v (by simpa using he)
  · exact hoth k v ((update_of_ne hk _ _).symm.trans he) hk

omit [Inhabited C] in
lemma Within.remove (h : c.Within P) (key : K) : (c.remove key).Within P :=
  within_update (fun k v he _ => h.entry k v he) h.put h.amend nofun

omit [Inhabited C] in
lemma Within.set (h : c.Within P) (hvl : P key value) : (c.set key value).Within P :=
  within_update (fun k v he _ => h.entry k v he) h.put h.amend (by simpa using hvl)

omit [DecidableEq K] [Inhabited C] in
lemma Within.spawn_put (h : c.Within P) (hvl : P key value) : (c.spawn (.put key value)).Within P := by
  refine ⟨h.entry,fun k v hm => ?_,fun k f live hm => h.amend k f live ?_⟩
  · simp only [spawn,mem_append,mem_singleton,CacheTask.put.injEq] at hm
    obtain hm | ⟨rfl,rfl⟩ := hm
    · exact h.put k v hm
    · exact hvl
  · simpa [spawn] using hm

omit [DecidableEq K] [Inhabited C] in
lemma Within.spawn_delete (h : c.Within P) (key : K) : (c.spawn (.delete key)).Within P :=
  ⟨h.entry,fun k v hm => h.put k v (by simpa [spawn] using hm),
    fun k f live hm => h.amend k f live (by simpa [spawn] using hm)⟩

omit [DecidableEq K] [Inhabited C] in
lemma Within.drop (h : c.Within P) (n : Nat) : { c with tasks := c.tasks.eraseIdx n }.Within P :=
  ⟨h.entry,fun k v hm => h.put k v (mem_of_mem_eraseIdx hm),
    fun k f live hm => h.amend k f live (mem_of_mem_eraseIdx hm)⟩

/-- What the background does keeps to the values that are there or on their way. -/
lemma Within.background (h : c.Within P) (b : Background K) : (c.background b).Within P := by
  cases b with
  | run n =>
    simp only [HashCache.background,HashCache.run]
    cases htask : c.tasks[n]? with
    | none => exact h
    | some task =>
      have hmem := List.mem_of_getElem? htask
      cases task with
      | put key value => exact (h.drop n).set (h.put key value hmem)
      | amend key f live => exact (h.amend key f live hmem).elim
      | delete key => exact (h.drop n).remove key
  | fail n => exact h.drop n
  | expire key => exact h.remove key

/-- How many of the first `k` tasks have yet to finish after a step of the background. -/
def left (c : HashCache K C) (k : Nat) : Background K → Nat
  | .run n => if n<k then k-(c.tasks.length-(c.run n).tasks.length) else k
  | .fail n => if n<k then k-(c.tasks.length-(c.tasks.eraseIdx n).length) else k
  | .expire _ => k

/-- The background performs or drops at most one task; the others move up. -/
lemma tasks_background (h : c.Within P) (b : Background K) :
    (c.background b).tasks=match b with
      | .run n | .fail n => c.tasks.eraseIdx n
      | .expire _ => c.tasks := by
  cases b with
  | run n =>
    simp only [background,run]
    cases htask : c.tasks[n]? with
    | none => exact (eraseIdx_of_length_le (List.getElem?_eq_none_iff.mp htask)).symm
    | some task =>
      cases task with
      | put key value => rfl
      | amend key f live => exact (h.amend key f live (List.mem_of_getElem? htask)).elim
      | delete key => rfl
  | fail n | expire key => rfl

omit [DecidableEq K] [Inhabited C] in
/-- A task among the first `k` is still among what is left of them when another one has gone. -/
lemma getElem?_eraseIdx_of_ne {tasks : List (CacheTask K C)} {n i k : Nat} (hi : i<k)
    (htask : tasks[i]? = some task) (hne : n≠i) :
    ∃ j, j<(if n<k then k-(tasks.length-(tasks.eraseIdx n).length) else k) ∧ (tasks.eraseIdx n)[j]? = some task := by
  have hlen : i<tasks.length := (List.getElem?_eq_some_iff.mp htask).choose
  rw [length_eraseIdx]
  by_cases hn : n < i
  · refine ⟨i-1,by grind,?_⟩
    rw [List.getElem?_eraseIdx_of_ge (by omega),Nat.sub_add_cancel (by omega)]
    exact htask
  refine ⟨i,by grind,?_⟩
  rw [List.getElem?_eraseIdx_of_lt (by omega)]
  exact htask

/-- A task among the first `k` that the background leaves alone is still to finish. -/
lemma exists_left (h : c.Within P) {b : Background K} {i k : Nat} (hi : i<k) (htask : c.tasks[i]? = some task)
    (hrun : b≠.run i) (hfail : b≠.fail i) : ∃ j, j<c.left k b ∧ (c.background b).tasks[j]? = some task := by
  have htsk := tasks_background h b
  cases b with
  | run n =>
    rw [left,show c.run n=c.background (.run n) from rfl,htsk]
    exact getElem?_eraseIdx_of_ne hi htask fun hn => hrun (hn ▸ rfl)
  | fail n =>
    rw [left,htsk]
    exact getElem?_eraseIdx_of_ne hi htask fun hn => hfail (hn ▸ rfl)
  | expire key => exact ⟨i,hi,htask⟩
end HashCache
