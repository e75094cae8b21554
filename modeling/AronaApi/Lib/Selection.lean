import Mathlib

/-! A choice among items that have a priority and a weight: the distinct priorities from high to low, and the
item that a random draw falls on. -/
namespace Selection
open List
variable {α : Type}
section
variable (key : α → ℤ) {l : List α}
/-- The distinct priorities of the items, from high to low. -/
def levels (l : List α) : List ℤ := (l.map key).dedup.insertionSort (· ≥ ·)

/-- The priority of the attempt with this number; the lowest one is the last. -/
def level (l : List α) (k : ℕ) : ℤ := (levels key l).getD (min k ((levels key l).length-1)) 0

variable {key} {p : ℤ} {k : ℕ}
lemma mem_levels : p∈levels key l ↔ ∃ a∈l, key a=p := by simp [levels]

lemma nodup_levels : (levels key l).Nodup :=
  (perm_insertionSort _ _).nodup_iff.mpr (nodup_dedup _)

lemma levels_eq_nil_iff : levels key l=[] ↔ l=[] := by
  rw [eq_nil_iff_forall_not_mem,eq_nil_iff_forall_not_mem]
  constructor
  · intro h a ha
    exact h (key a) (mem_levels.mpr ⟨a,ha,rfl⟩)
  · intro h p hp
    obtain ⟨a,ha,-⟩ := mem_levels.mp hp
    exact h a ha

lemma length_levels_pos (h : l≠[]) : 0<(levels key l).length := by
  rw [length_pos_iff]
  exact mt levels_eq_nil_iff.mp h

lemma level_of_lt (h : k<(levels key l).length) : level key l k=(levels key l)[k] := by
  have hmin : min k ((levels key l).length-1)=k := by omega
  rw [level,hmin,getD_eq_getElem _ _ h]

/-- From the lowest priority on an attempt stays there. -/
lemma level_of_length_le (h : (levels key l).length≤k+1) : level key l k=level key l ((levels key l).length-1) := by
  have hmin : min k ((levels key l).length-1)=min ((levels key l).length-1) ((levels key l).length-1) := by omega
  rw [level,hmin,level]

lemma level_mem (h : l≠[]) (k : ℕ) : level key l k∈levels key l := by
  have hpos : 0<(levels key l).length := length_levels_pos h
  have hlt : min k ((levels key l).length-1)<(levels key l).length := by omega
  rw [level,getD_eq_getElem _ _ hlt]
  exact getElem_mem hlt

/-- As many attempts as there are priorities go through all of them. -/
lemma map_level_range : (List.range (levels key l).length).map (level key l)=levels key l := by
  apply ext_getElem
  · simp
  · intro k hk hk'
    rw [getElem_map,getElem_range,level_of_lt hk']

lemma pairwise_levels (key : α → ℤ) (l : List α) : (levels key l).Pairwise (· ≥ ·) :=
  pairwise_insertionSort _ _

section
variable {β : Type} {key' : β → ℤ} {l' : List β} (h : ∀ p, (∃ a∈l, key a=p) ↔ ∃ b∈l', key' b=p)
include h
/-- The levels are decided by the priorities that occur. -/
lemma levels_congr : levels key l=levels key' l' := by
  have hperm : (levels key l).Perm (levels key' l') := by
    rw [perm_ext_iff_of_nodup nodup_levels nodup_levels]
    intro p
    rw [mem_levels,mem_levels]
    exact h p
  apply hperm.eq_of_pairwise _ (pairwise_levels key l) (pairwise_levels key' l')
  intro a b _ _ hab hba
  exact le_antisymm hba hab

lemma level_congr (k : ℕ) : level key l k=level key' l' k := by rw [level,level,levels_congr h]
end

/-- The first attempt is made at the highest priority. -/
lemma max?_eq_level_zero (h : l≠[]) : (l.map key).max? = some (level key l 0) := by
  rw [List.max?_eq_some_iff]
  constructor
  · obtain ⟨a,ha,hlvl⟩ := mem_levels.mp (level_mem h 0)
    exact mem_map.mpr ⟨a,ha,hlvl⟩
  · intro p hp
    obtain ⟨a,ha,rfl⟩ := mem_map.mp hp
    have hmem : key a∈levels key l := mem_levels.mpr ⟨a,ha,rfl⟩
    have hsort := pairwise_levels key l
    rw [level,Nat.zero_min]
    cases hlevels : levels key l with
    | nil => simp [hlevels] at hmem
    | cons q qs =>
      rw [hlevels] at hmem hsort
      show key a≤q
      obtain heq | hqs := mem_cons.mp hmem
      · rw [heq]
      · exact (pairwise_cons.mp hsort).1 _ hqs

/-- Further attempts stay at the lowest priority. -/
lemma map_level_range_add (n : ℕ) : (List.range ((levels key l).length+n)).map (level key l) =
      levels key l++List.replicate n (level key l ((levels key l).length-1)) := by
  rw [range_add,map_append,map_level_range,map_map]
  congr 1
  apply eq_replicate_iff.mpr
  refine ⟨by simp,?_⟩
  intro p hp
  obtain ⟨k,-,rfl⟩ := mem_map.mp hp
  apply level_of_length_le
  show (levels key l).length≤(levels key l).length+k+1
  omega

lemma level_of_singleton (h : levels key l=[p]) (k : ℕ) : level key l k=p := by simp [level,h]
end

section
variable (weight : α → ℕ)
/-- The item that a draw falls on when each item takes up its weight. -/
def draw : ℕ → List α → Option α
  | _,[] => none
  | r,a::l => if r<weight a then some a else draw (r-weight a) l

variable {weight} {l : List α} {r : ℕ} {a : α}
lemma mem_of_draw (h : draw weight r l=some a) : a∈l := by
  induction l generalizing r with
  | nil => cases h
  | cons b l ih =>
    unfold draw at h
    split at h
    · cases h
      exact mem_cons_self
    · exact mem_cons_of_mem _ (ih h)

/-- A draw below the total weight falls on an item. -/
lemma exists_draw (h : r<(l.map weight).sum) : ∃ a, draw weight r l=some a := by
  induction l generalizing r with
  | nil => cases h
  | cons b l ih =>
    rw [map_cons,sum_cons] at h
    unfold draw
    split
    · exact ⟨b,rfl⟩
    apply ih
    omega

/-- Nothing falls on an item without weight. -/
lemma pos_of_draw (h : draw weight r l=some a) : 0<weight a := by
  induction l generalizing r with
  | nil => cases h
  | cons b l ih =>
    unfold draw at h
    split at h
    · cases h
      omega
    · exact ih h

/-- An item that has weight takes up that much below the total. -/
lemma exists_draw_eq (ha : a∈l) (hpos : 0<weight a) : ∃ r, r+weight a≤(l.map weight).sum ∧ draw weight r l=some a := by
  induction l with
  | nil => cases ha
  | cons b l ih =>
    simp only [map_cons,sum_cons]
    obtain rfl | ha := mem_cons.mp ha
    · refine ⟨0,by omega,?_⟩
      unfold draw
      rw [if_pos hpos]
    obtain ⟨r,hlt,hdraw⟩ := ih ha
    refine ⟨r+weight b,by omega,?_⟩
    unfold draw
    rw [if_neg (by omega),Nat.add_sub_cancel]
    exact hdraw
end

/-- A source of random numbers below a bound, such as `rand.Intn`. -/
structure Rand where
  intn : ℕ → ℕ
  intn_lt : ∀ n, 0<n → intn n<n

/-- The source that gives this number for this bound. -/
def Rand.giving {n r : ℕ} (h : r<n) : Rand where
  intn m := if m=n then r else 0
  intn_lt m hm := by
    split
    · omega
    · exact hm

@[simp] lemma Rand.giving_intn {n r : ℕ} (h : r<n) : (Rand.giving h).intn n=r := if_pos rfl
end Selection
