import AronaApi.Lib.Schedule
import AronaApi.Lib.Sums

/-! The locks of orders (`LockOrder`, `UnlockOrder` in `controller/topup.go`). A lock is found under its trade number
in a map, and is deleted from it by the last of those who counted themselves in. -/
namespace AronaApi.Recharge.OrderLock
open Schedule Function

variable {W K : Type} [DecidableEq W] [DecidableEq K]
/-- Where a goroutine is. From its increment to its decrement it has the mutex `own` that `LockOrder` gave it; `rcm` is
the one that `UnlockOrder` has loaded. -/
inductive Phase
  | start
  | waiting (own : ℕ)
  | inside (own : ℕ)
  | loaded (own rcm : ℕ)
  | released (own rcm : ℕ)
  | done
  -- `UnlockOrder` found no lock and returned
  | missed (own : ℕ)

open Phase

def Phase.own? : Phase → Option ℕ
  | .start | .done => none
  | .waiting own | .inside own | .loaded own _ | .released own _ | .missed own => some own

/-- Between `rcm.mu.Lock()` and `rcm.mu.Unlock()`. -/
def Phase.holds? : Phase → Option ℕ
  | .inside own | .loaded own _ | .missed own => some own
  | .start | .done | .waiting _ | .released _ _ => none

/-- Mutexes have addresses below `next`. -/
structure State (W K : Type) where
  orderLocks : K → Option ℕ := fun _ => none
  refCount : ℕ → ℤ := fun _ => 0
  locked : ℕ → Bool := fun _ => false
  next : ℕ := 0
  phase : W → Phase := fun _ => .start

def State.goto (s : State W K) (w : W) (p : Phase) : State W K := { s with phase := update s.phase w p }

/-- The next atomic step of goroutine `w` on its order `job w`; a goroutine waits for a locked mutex. -/
def step (job : W → K) (s : State W K) (w : W) : Option (State W K) :=
  match s.phase w with
  | .start =>
    match s.orderLocks (job w) with
    | some rcm => some ({ s with refCount := update s.refCount rcm (s.refCount rcm+1) }.goto w (.waiting rcm))
    | none => some ({ s with orderLocks := update s.orderLocks (job w) (some s.next)
                             refCount := update s.refCount s.next 1
                             locked := update s.locked s.next false
                             next := s.next+1 }.goto w (.waiting s.next))
  | .waiting own =>
    if s.locked own then none else some ({ s with locked := update s.locked own true }.goto w (.inside own))
  | .inside own =>
    match s.orderLocks (job w) with
    | some rcm => some (s.goto w (.loaded own rcm))
    | none => some (s.goto w (.missed own))
  | .loaded own rcm => some ({ s with locked := update s.locked rcm false }.goto w (.released own rcm))
  | .released _ rcm =>
    some ({ s with refCount := update s.refCount rcm (s.refCount rcm-1)
                   orderLocks := if s.refCount rcm-1=0 then update s.orderLocks (job w) none else s.orderLocks
          }.goto w .done)
  | .done | .missed _ => none

/-- Those between their increment and their decrement for the order `k`. -/
def counted (job : W → K) (k : K) (w : W) (p : Phase) : ℤ := if job w=k ∧ p.own?.isSome then 1 else 0

variable [Fintype W]
def count (job : W → K) (phase : W → Phase) (k : K) : ℤ := ∑ w, counted job k w (phase w)

structure Inv (job : W → K) (s : State W K) : Prop where
  own : ∀ w own, (s.phase w).own?=some own → s.orderLocks (job w)=some own
  refs : ∀ k own, s.orderLocks k=some own → s.refCount own=count job s.phase k ∧ 0<count job s.phase k
  alone : ∀ k k' own, s.orderLocks k=some own → s.orderLocks k'=some own → k=k'
  fresh : ∀ k own, s.orderLocks k=some own → own<s.next
  loads : ∀ w own rcm, s.phase w=.loaded own rcm ∨ s.phase w=.released own rcm → rcm=own
  found : ∀ w own, s.phase w≠.missed own
  locked : ∀ k own, s.orderLocks k=some own → s.locked own=true → ∃ w, (s.phase w).holds?=some own
  holds : ∀ w own, (s.phase w).holds?=some own → s.locked own=true
  excl : ∀ w w' own, (s.phase w).holds?=some own → (s.phase w').holds?=some own → w=w'

variable {job : W → K} {s t : State W K} {w : W} {k : K} {phase : W → Phase} {p : Phase}
lemma count_update : count job (update phase w p) k=count job phase k-counted job k w (phase w)+counted job k w p :=
  sum_apply_update (counted job k) phase w p

omit [DecidableEq W] in
lemma count_pos (h : (phase w).own?.isSome) : 0<count job phase (job w) := by
  have hone : counted job (job w) w (phase w)=1 := by simp [counted,h]
  have hnonneg : ∀ v, 0 ≤ counted job (job w) v (phase v) := by
    intro v
    unfold counted
    split <;> decide
  have hle := Finset.single_le_sum (fun v _ => hnonneg v) (Finset.mem_univ w)
  unfold count
  omega

lemma Phase.own_of_holds {own : ℕ} (h : p.holds?=some own) : p.own?=some own := by
  cases p <;> simp_all [holds?,own?]

/-- A step of `w` that leaves the map and the counts alone. -/
lemma Inv.move {locked : ℕ → Bool} (h : Inv job s) (hown : p.own?=(s.phase w).own?)
    (hloads : ∀ own rcm, p=.loaded own rcm ∨ p=.released own rcm → rcm=own) (hfound : ∀ own, p≠.missed own)
    (hlocked : ∀ k own, s.orderLocks k=some own → locked own=true → ∃ v, (if v=w then p else s.phase v).holds?=some own)
    (hholds : ∀ v own, (if v=w then p else s.phase v).holds?=some own → locked own=true)
    (hexcl : p.holds?≠none → p.holds?≠(s.phase w).holds? → ∀ v, (s.phase v).holds?≠p.holds?) :
    Inv job ({ s with locked := locked }.goto w p) := by
  have hc : ∀ k, count job (update s.phase w p) k=count job s.phase k := by simp [count_update,counted,hown]
  obtain ⟨hown',hrefs,halone,hfresh,hloads',hfound',-,-,hexcl'⟩ := h
  refine ⟨?_,?_,halone,hfresh,?_,?_,?_,?_,?_⟩ <;> simp only [hc,State.goto,update_apply]
  all_goals grind

/-- One step keeps the invariant; the number of those counted in changes with the increment and the decrement only. -/
lemma Inv.step (h : Inv job s) (hs : OrderLock.step job s w=some t) : Inv job t := by
  obtain ⟨hown,hrefs,halone,hfresh,hloads,hfound,hlocked,hholds,hexcl⟩ := id h
  unfold OrderLock.step at hs
  cases hphase : s.phase w with
  | start =>
    have hc : ∀ rcm k, count job (update s.phase w (.waiting rcm)) k=count job s.phase k+if job w=k then 1 else 0 := by
      simp [count_update,counted,hphase,own?]
    rw [hphase] at hs
    simp only at hs
    split at hs
    next rcm hrcm =>
      cases hs
      constructor <;> simp only [hc,State.goto,update_apply] <;> grind -linarith [own?,holds?]
    next hnone =>
    cases hs
    have hzero : count job s.phase (job w)=0 := by
      refine Finset.sum_eq_zero fun v _ => if_neg ?_
      rintro ⟨hjob,hsome⟩
      obtain ⟨own,hv⟩ := Option.isSome_iff_exists.mp hsome
      simp [← hjob,hown v own hv] at hnone
    constructor <;> simp only [hc,State.goto,update_apply] <;>
      grind -linarith [own?,holds?,own_of_holds]
  | waiting own =>
    rw [hphase] at hs
    simp only at hs
    split at hs
    · cases hs
    next hfree =>
    cases hs
    apply h.move <;> grind -linarith [own?,holds?,update_apply]
  | inside own =>
    have hfind : s.orderLocks (job w)=some own := hown w own (by rw [hphase]; rfl)
    simp only [hphase,hfind] at hs
    cases hs
    apply h.move <;> grind -linarith [own?,holds?,update_apply]
  | loaded own rcm =>
    obtain rfl : rcm=own := hloads w own rcm (.inl hphase)
    rw [hphase] at hs
    cases hs
    apply h.move <;> grind -linarith [own?,holds?,update_apply]
  | released own rcm =>
    obtain rfl : rcm=own := hloads w own rcm (.inr hphase)
    have hc : ∀ k, count job (update s.phase w .done) k=count job s.phase k-if job w=k then 1 else 0 := by
      simp [count_update,counted,hphase,own?]
    have hfind : s.orderLocks (job w)=some rcm := hown w rcm (by rw [hphase]; rfl)
    have hleft : ∀ v, v≠w → job v=job w → (s.phase v).own?.isSome → 1<count job s.phase (job w) := by
      intro v hv hjob hsome
      have hpos : 0<count job (update s.phase w .done) (job v) := count_pos (by rwa [update_of_ne hv])
      rw [hjob,hc,if_pos rfl] at hpos
      omega
    rw [hphase] at hs
    cases hs
    constructor <;> simp only [hc,State.goto,update_apply] <;>
      grind -linarith [own?,holds?,own_of_holds]
  | done | missed =>
    rw [hphase] at hs
    cases hs

omit [DecidableEq W] in
lemma inv_start : Inv job ({} : State W K) := by constructor <;> simp [own?,holds?]

/-- In every state that any interleaving reaches: at most one goroutine holds the lock of an order, `UnlockOrder` finds
the mutex that its own `LockOrder` acquired, locked, and a lock is in the map, with their number as its count, exactly
while goroutines are between increment and decrement. -/
theorem order_locks_exclude_and_are_cleaned_up (job : W → K) (as : List W) (s : State W K)
    (h : exec (step job) {} as=some s) :
    (∀ w w', (s.phase w).holds?.isSome → (s.phase w').holds?.isSome → job w=job w' → w=w') ∧
    (∀ w own, s.phase w≠.missed own) ∧ (∀ w own rcm, s.phase w=.loaded own rcm → rcm=own ∧ s.locked own=true) ∧
    (∀ k own, s.orderLocks k=some own → s.refCount own=count job s.phase k) ∧
    ∀ k, (s.orderLocks k).isSome ↔ 0<count job s.phase k := by
  have hruns : Runs (step job) (fun _ _ => True) {} as s := runs_of_exec h fun _ _ _ => trivial
  have hinv := hruns.invariant (Inv job) (fun _ _ _ hi _ hs => hi.step hs) inv_start
  refine ⟨?_,hinv.found,?_,fun k own hk => (hinv.refs k own hk).1,fun k => ⟨?_,?_⟩⟩
  · intro w w' hw hw' hjob
    obtain ⟨own,hown⟩ := Option.isSome_iff_exists.mp hw
    obtain ⟨own',hown'⟩ := Option.isSome_iff_exists.mp hw'
    have hsame := (hinv.own w own (own_of_holds hown)).symm.trans (hjob ▸ hinv.own w' own' (own_of_holds hown'))
    cases hsame
    exact hinv.excl w w' own hown hown'
  · intro w own rcm hw
    exact ⟨hinv.loads w own rcm (.inl hw),hinv.holds w own (by rw [hw]; rfl)⟩
  · intro hk
    obtain ⟨own,hown⟩ := Option.isSome_iff_exists.mp hk
    exact (hinv.refs k own hown).2
  · intro hpos
    obtain ⟨w,-,hw⟩ := Finset.exists_ne_zero_of_sum_ne_zero hpos.ne'
    have hboth : job w=k ∧ (s.phase w).own?.isSome := by
      by_contra hno
      exact hw (if_neg hno)
    obtain ⟨own,hown⟩ := Option.isSome_iff_exists.mp hboth.2
    simp [← hboth.1,hinv.own w own hown]

/-- The lock stays while one goroutine is inside and another waits for it, and is deleted when both are done. -/
theorem waiting_lock_kept : ∃ s t : State Bool Unit,
    exec (step fun _ => ()) {} [true,true,false]=some s ∧ s.phase true=.inside 0 ∧ s.phase false=.waiting 0 ∧
      (s.orderLocks ()).isSome ∧
    exec (step fun _ => ()) s [true,true,true,false,false,false,false]=some t ∧
      t.phase=(fun _ => .done) ∧ t.orderLocks ()=none :=
  ⟨_,_,rfl,rfl,rfl,((order_locks_exclude_and_are_cleaned_up (fun _ => ()) [true,true,false] _ rfl).2.2.2.2 ()).mpr
    (by decide),rfl,by funext w; cases w <;> rfl,rfl⟩

/-- No order of the steps gets stuck: until all goroutines are done, one of them can go on. -/
theorem order_locks_never_stuck (job : W → K) (as : List W) :
    let s : State W K := as.foldl (fun s w => (step job s w).getD s) {}
    (∃ w, (step job s w).isSome) ∨ ∀ w, s.phase w=.done := by
  intro s
  have hinv : Inv job s := List.foldlRecOn as _ inv_start fun s hs w _ => by
    cases hw : step job s w with
    | none => exact hs
    | some t => exact hs.step hw
  refine or_iff_not_imp_left.mpr fun hstuck => ?_
  -- all that a goroutine waits for is a locked mutex, and whoever holds that does not wait
  have hkept : ∀ w, s.phase w=.done ∨ ∃ own, s.phase w=.waiting own ∧ s.locked own=true := by
    intro w
    have hw := not_exists.mp hstuck w
    have hfound := hinv.found w
    unfold step at hw
    grind
  intro w
  obtain hw | ⟨own,hw,hlocked⟩ := hkept w
  · exact hw
  obtain ⟨v,hv⟩ := hinv.locked (job w) own (hinv.own w own (by rw [hw]; rfl)) hlocked
  obtain hp | ⟨_,hp,-⟩ := hkept v <;> simp [hp,holds?] at hv
end AronaApi.Recharge.OrderLock
