import Mathlib.Logic.Function.Basic
import Mathlib.Data.Nat.Notation

/-! A row store under statement-level interleaving. A plain read takes no lock and sees the last
committed row, or the reader's own uncommitted image. A write locks its row until its transaction
commits or aborts, and starts from the row as it is when the lock is taken. -/

/-- Committed rows, the transaction that holds each row's lock, and the holder's image of it. -/
structure RowStore (T K : Type*) (R : K → Type*) where
  committed : (k : K) → R k
  owner : K → Option T
  pending : (k : K) → R k

namespace RowStore
variable {T K : Type*} {R : K → Type*}
/-- A store in which no transaction is open. -/
def quiet (rows : (k : K) → R k) : RowStore T K R := ⟨rows,fun _ => none,rows⟩

@[simp] lemma quiet_committed (rows : (k : K) → R k) : (quiet rows : RowStore T K R).committed=rows := rfl
section
variable [DecidableEq K]
/-- Lock row `k` for `t` and replace the image of it. -/
def write (s : RowStore T K R) (t : T) (k : K) (r : R k) : RowStore T K R :=
  ⟨s.committed,Function.update s.owner k (some t),Function.update s.pending k r⟩

@[simp] lemma write_committed (s : RowStore T K R) (t : T) (k : K) (r : R k) :
    (s.write t k r).committed=s.committed := rfl
@[simp] lemma write_owner_self (s : RowStore T K R) (t : T) (k : K) (r : R k) :
    (s.write t k r).owner k=some t := by simp [write]
@[simp] lemma write_pending_self (s : RowStore T K R) (t : T) (k : K) (r : R k) :
    (s.write t k r).pending k=r := by simp [write]
lemma write_owner_of_ne (s : RowStore T K R) (t : T) {k j : K} (r : R k) (h : j≠k) :
    (s.write t k r).owner j=s.owner j := by simp [write,Function.update_of_ne h]
lemma write_pending_of_ne (s : RowStore T K R) (t : T) {k j : K} (r : R k) (h : j≠k) :
    (s.write t k r).pending j=s.pending j := by simp [write,Function.update_of_ne h]
end

variable [DecidableEq T]
/-- What a `SELECT` of transaction `t` returns. -/
def view (s : RowStore T K R) (t : T) (k : K) : R k :=
  if s.owner k=some t then s.pending k else s.committed k

/-- The row's lock is free for `t`: nobody else holds it. -/
def Free (s : RowStore T K R) (t : T) (k : K) : Prop := s.owner k=none ∨ s.owner k=some t

omit [DecidableEq T] in
lemma Free.not_owner {s : RowStore T K R} {t u : T} {k : K} (h : s.Free t k) (hu : u≠t) : s.owner k≠some u := by
  rcases h with hnone | hself
  · rw [hnone]
    nofun
  rw [hself]
  intro heq
  exact hu (Option.some.inj heq).symm

instance (s : RowStore T K R) (t : T) (k : K) : Decidable (s.Free t k) :=
  inferInstanceAs (Decidable (_ ∨ _))

/-- `UPDATE … WHERE id = k AND p`: the number of rows it changed, or `none` while it waits for the
lock. A row whose visible version does not satisfy `p` is left alone. -/
def updateWhere [DecidableEq K] (s : RowStore T K R) (t : T) (k : K) (p : R k → Bool)
    (f : R k → R k) : Option (RowStore T K R × ℕ) :=
  if p (s.view t k) then
    if s.Free t k then some (s.write t k (f (s.view t k)),1) else none
  else some (s,0)

/-- `UPDATE … WHERE id = k`. -/
def update [DecidableEq K] (s : RowStore T K R) (t : T) (k : K) (f : R k → R k) :
    Option (RowStore T K R) :=
  if s.Free t k then some (s.write t k (f (s.view t k))) else none

def commit (s : RowStore T K R) (t : T) : RowStore T K R :=
  ⟨fun k => s.view t k,fun k => if s.owner k=some t then none else s.owner k,s.pending⟩

def abort (s : RowStore T K R) (t : T) : RowStore T K R :=
  ⟨s.committed,fun k => if s.owner k=some t then none else s.owner k,s.pending⟩

@[simp] lemma commit_committed (s : RowStore T K R) (t : T) (k : K) : (s.commit t).committed k=s.view t k := rfl
@[simp] lemma abort_committed (s : RowStore T K R) (t : T) : (s.abort t).committed=s.committed := rfl
@[simp] lemma commit_pending (s : RowStore T K R) (t : T) : (s.commit t).pending=s.pending := rfl
@[simp] lemma abort_pending (s : RowStore T K R) (t : T) : (s.abort t).pending=s.pending := rfl
@[simp] lemma abort_owner (s : RowStore T K R) (t : T) (k : K) :
    (s.abort t).owner k=if s.owner k=some t then none else s.owner k := rfl
@[simp] lemma commit_owner (s : RowStore T K R) (t : T) (k : K) :
    (s.commit t).owner k=if s.owner k=some t then none else s.owner k := rfl

variable {t : T}
/-- Ending a transaction takes its own locks away and nobody else's. -/
lemma released_iff {o : Option T} {u : T} (h : u≠t) : (if o=some t then none else o)=some u ↔ o=some u := by
  split
  next ho =>
    rw [ho]
    exact ⟨nofun,fun heq => absurd (Option.some.inj heq).symm h⟩
  · exact Iff.rfl

lemma released_ne (o : Option T) (t : T) : (if o=some t then none else o)≠some t := by
  split
  · nofun
  next ho => exact ho

variable {s s' : RowStore T K R}
lemma view_of_owner {k : K} (h : s.owner k=some t) : s.view t k=s.pending k := if_pos h

lemma view_of_not_owner {k : K} (h : s.owner k≠some t) : s.view t k=s.committed k := if_neg h

lemma view_write [DecidableEq K] (s : RowStore T K R) (t : T) (k : K) (r : R k) :
    (s.write t k r).view t=Function.update (s.view t) k r := by
  funext j
  by_cases hj : j=k
  · subst hj
    simp [view]
  · simp [view,Function.update_of_ne hj,write_owner_of_ne s t r hj,write_pending_of_ne s t r hj]

/-- Ending a transaction that has written nothing changes nothing. -/
lemma abort_of_not_owner (h : ∀ k, s.owner k≠some t) : s.abort t=s := by
  have hown : (fun k => if s.owner k=some t then none else s.owner k)=s.owner := by
    funext k
    exact if_neg (h k)
  simp only [abort,hown]

lemma commit_of_not_owner (h : ∀ k, s.owner k≠some t) : s.commit t=s := by
  have hrows : (fun k => s.view t k)=s.committed := by
    funext k
    exact view_of_not_owner (h k)
  have hown : (fun k => if s.owner k=some t then none else s.owner k)=s.owner := by
    funext k
    exact if_neg (h k)
  simp only [commit,hrows,hown]

/-- An unconditional update fires exactly when the row is free, and then only touches that row. -/
lemma update_eq_some [DecidableEq K] {k : K} {f : R k → R k} :
    s.update t k f=some s' ↔ s.Free t k ∧ s'=s.write t k (f (s.view t k)) := by
  unfold update
  by_cases hf : s.Free t k
  · rw [if_pos hf]
    constructor
    · intro h
      exact ⟨hf,(Option.some.inj h).symm⟩
    · rintro ⟨-,rfl⟩
      rfl
  · simp [hf]

/-- A conditional update either changes its one row or reports zero rows and changes nothing. -/
lemma updateWhere_eq_some [DecidableEq K] {k : K} {p : R k → Bool} {f : R k → R k} {n : ℕ} :
    s.updateWhere t k p f=some (s',n) ↔ (p (s.view t k)=true ∧ s.Free t k ∧ s'=s.write t k (f (s.view t k)) ∧ n=1) ∨
      (p (s.view t k)=false ∧ s'=s ∧ n=0) := by
  unfold updateWhere
  cases hp : p (s.view t k) with
  | true =>
    by_cases hf : s.Free t k
    · constructor
      · intro h
        simp only [if_true,hf,Option.some.injEq,Prod.mk.injEq] at h
        exact .inl ⟨rfl,hf,h.1.symm,h.2.symm⟩
      · rintro (⟨-,-,rfl,rfl⟩ | ⟨h,-,-⟩)
        · simp [hf]
        · cases h
    · simp [hf]
  | false =>
    constructor
    · intro h
      simp only [Bool.false_eq_true,if_false,Option.some.injEq,Prod.mk.injEq] at h
      exact .inr ⟨rfl,h.1.symm,h.2.symm⟩
    · rintro (⟨h,-,-,-⟩ | ⟨-,rfl,rfl⟩)
      · cases h
      · rfl
end RowStore
