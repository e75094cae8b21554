import Mathlib.Algebra.BigOperators.Group.List.Basic
import Mathlib.Algebra.Ring.Int.Defs
import Mathlib.Data.List.Nodup

/-! Keyed tables as lists of rows. A row is found by its key and replaced in place. -/
namespace Table
open List
variable {R K : Type*} [DecidableEq K] (key : R → K)
def lookup (k : K) (rows : List R) : Option R := rows.find? fun s => key s=k

def replace (r : R) (rows : List R) : List R := rows.map fun s => if key s=key r then r else s

variable {rows : List R} {r s : R}
lemma exists_lookup (h : r∈rows) : ∃ s, lookup key (key r) rows=some s := by
  rw [← Option.isSome_iff_exists,lookup,List.find?_isSome]
  exact ⟨r,h,by simp⟩

variable {key} {k : K}
lemma key_of_lookup (h : lookup key k rows=some s) : key s=k := by simpa using List.find?_some h

lemma mem_of_lookup (h : lookup key k rows=some s) : s∈rows :=
  mem_of_find?_eq_some h

lemma lookup_append (k : K) (rows rows' : List R) :
    lookup key k (rows++rows')=(lookup key k rows).or (lookup key k rows') := List.find?_append

/-- An update of each row that keeps its key is seen by every lookup. -/
lemma lookup_map {f : R → R} (hf : ∀ r, key (f r)=key r) (k : K) (rows : List R) :
    lookup key k (rows.map f)=(lookup key k rows).map f := by
  rw [lookup,List.find?_map]
  simp only [Function.comp_def,hf,lookup]

/-- What is true of all rows and of the new one is true after a replacement. -/
lemma forall_replace {P : R → Prop} (h : ∀ s∈rows, P s) (hr : P r) : ∀ s∈replace key r rows, P s := by
  intro s hs
  obtain ⟨old,hold,rfl⟩ := mem_map.mp hs
  split
  · exact hr
  · exact h old hold

/-- A replacement is seen under its own key, where there was a row, and nowhere else. -/
lemma lookup_replace (k : K) (r : R) (rows : List R) :
    lookup key k (replace key r rows) = if k=key r then (lookup key k rows).map fun _ => r else lookup key k rows := by
  unfold lookup replace
  induction rows with
  | nil => simp
  | cons s rows ih =>
    rw [map_cons,List.find?_cons,List.find?_cons,ih]
    by_cases hk : k=key r
    · subst k
      by_cases hs : key s=key r <;> simp [hs]
    by_cases hs : key s=key r
    · have hne : key s≠k := fun h => hk (h ▸ hs)
      have hr : key r≠k := fun h => hk h.symm
      simp [hs,hr,hk]
    · simp [hs,hk]

/-- With distinct keys every row is found under its own. -/
lemma lookup_of_mem (hndp : (rows.map key).Nodup) (h : r∈rows) : lookup key (key r) rows=some r := by
  obtain ⟨s,hs⟩ := exists_lookup key h
  have hsr : s=r := inj_on_of_nodup_map hndp (mem_of_lookup hs) h (key_of_lookup hs)
  rw [hs,hsr]

@[simp] lemma map_key_replace (r : R) (rows : List R) : (replace key r rows).map key=rows.map key := by
  rw [replace,map_map]
  apply map_congr_left
  intro s _
  by_cases hs : key s=key r <;> simp [hs]

/-- A sum over the rows changes by the difference between the new row and the old one. -/
lemma sum_map_replace (f : R → ℤ) (hndp : (rows.map key).Nodup) {old : R} (h : lookup key (key r) rows=some old) :
    ((replace key r rows).map f).sum=(rows.map f).sum+(f r-f old) := by
  induction rows with
  | nil => cases h
  | cons s rows ih =>
    rw [map_cons,nodup_cons] at hndp
    obtain ⟨hs,hndp⟩ := hndp
    rw [lookup,List.find?_cons] at h
    by_cases hk : key s=key r
    · -- the row is here, and its key stands nowhere behind
      simp only [hk,decide_true,Option.some.injEq] at h
      subst h
      have hrest : replace key r rows=rows := by
        rw [replace]
        refine (map_congr_left fun t ht => ?_).trans (map_id rows)
        refine if_neg fun he : key t=key r => hs ?_
        rw [hk,← he]
        exact mem_map_of_mem ht
      rw [replace,map_cons,if_pos hk,← replace,hrest]
      simp only [map_cons,sum_cons]
      omega
    · simp only [hk,decide_false] at h
      have := ih hndp h
      rw [replace,map_cons,if_neg hk,← replace]
      simp only [map_cons,sum_cons]
      omega
end Table
