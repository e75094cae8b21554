import Mathlib

/-! Tables with a primary key, and the statements that change them: an insertion, which fails or does nothing on
a key that is taken, an update that leaves the key as it is, and a deletion. -/

/-- The rows of a table, no two of which have the same key. -/
structure KeyedTable (R : Type*) {K : Type*} (key : R → K) where
  rows : List R
  distinct : (rows.map key).Nodup

namespace KeyedTable
open List
variable {R K : Type*} {key : R → K}
instance : Membership R (KeyedTable R key) := ⟨fun t r => r∈t.rows⟩

def empty : KeyedTable R key := ⟨[],nodup_nil⟩

lemma not_mem_empty (r : R) : r∉(empty : KeyedTable R key) := not_mem_nil

variable {t : KeyedTable R key} {r s : R}
/-- A row is determined by its key. -/
lemma eq_of_key (hr : r∈t) (hs : s∈t) (h : key r=key s) : r=s :=
  inj_on_of_nodup_map t.distinct hr hs h

lemma nodup_rows (t : KeyedTable R key) : t.rows.Nodup := t.distinct.of_map key

/-- `DELETE` of the rows with a property. -/
def delete (t : KeyedTable R key) (p : R → Bool) : KeyedTable R key :=
  ⟨t.rows.filter fun r => !p r,t.distinct.sublist (filter_sublist.map key)⟩

lemma mem_delete {p : R → Bool} : r∈t.delete p ↔ r∈t ∧ p r=false := by
  show r∈t.rows.filter _ ↔ r∈t.rows ∧ _
  rw [mem_filter,Bool.not_eq_true']

/-- `UPDATE` of each row. -/
def update (t : KeyedTable R key) (f : R → R) (hf : ∀ r, key (f r)=key r) : KeyedTable R key where
  rows := t.rows.map f
  distinct := by
    rw [map_map]
    simpa only [Function.comp_def,hf] using t.distinct

lemma mem_update {f : R → R} (hf : ∀ r, key (f r)=key r) : s∈t.update f hf ↔ ∃ r∈t, f r=s := mem_map

variable [DecidableEq K]
/-- `INSERT`, an error on a key that is taken. -/
def insert (t : KeyedTable R key) (r : R) : Option (KeyedTable R key) :=
  if h : key r∈t.rows.map key then none
  else some ⟨t.rows++[r],by
    rw [map_append,map_singleton,← concat_eq_append]
    exact t.distinct.concat h⟩

lemma insert_eq_some {u : KeyedTable R key} (h : t.insert r=some u) : (∀ s∈t, key s≠key r) ∧ u.rows=t.rows++[r] := by
  unfold insert at h
  split at h
  · cases h
  next hkey =>
  cases h
  refine ⟨fun s hs heq => hkey ?_,rfl⟩
  rw [← heq]
  exact mem_map_of_mem hs

/-- `INSERT … ON CONFLICT DO NOTHING` of several rows, one after another. -/
def insertIgnore : KeyedTable R key → List R → KeyedTable R key
  | t,[] => t
  | t,r::rs => insertIgnore ((t.insert r).getD t) rs

/-- Rows with new keys that differ from each other are all inserted. -/
lemma mem_insertIgnore {rs : List R} (hrs : (rs.map key).Nodup)
    (hfresh : ∀ r∈rs, ∀ s∈t, key s≠key r) {x : R} : x∈t.insertIgnore rs ↔ x∈t ∨ x∈rs := by
  induction rs generalizing t with
  | nil => simp [insertIgnore]
  | cons r rs ih =>
    rw [map_cons,nodup_cons] at hrs
    have hr : key r∉t.rows.map key := by
      intro hmem
      obtain ⟨s,hs,heq⟩ := mem_map.mp hmem
      exact hfresh r mem_cons_self s hs heq
    obtain ⟨u,hu⟩ : ∃ u, t.insert r=some u := by
      rw [insert,dif_neg hr]
      exact ⟨_,rfl⟩
    have hmem : ∀ s, s∈u ↔ s∈t ∨ s=r := by
      intro s
      show s∈u.rows ↔ s∈t.rows ∨ s=r
      rw [(insert_eq_some hu).2,mem_append,mem_singleton]
    rw [insertIgnore,hu,Option.getD_some,ih hrs.2,hmem,mem_cons,or_assoc]
    intro s hs x hx
    obtain hx | rfl := (hmem x).mp hx
    · exact hfresh s (mem_cons_of_mem _ hs) x hx
    intro heq
    exact hrs.1 (heq ▸ mem_map_of_mem hs)
end KeyedTable
