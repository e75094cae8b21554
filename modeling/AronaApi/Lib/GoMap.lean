import Mathlib

/-! Maps that are read with a default: a key that is not there has the zero value, and a key that is
there may have it too. -/

structure GoMap (K V : Type*) [Zero V] where
  keys : Finset K
  get : K → V
  get_of_not_mem : ∀ k, k∉keys → get k=0

namespace GoMap
open Function
variable {K V : Type*} [Zero V]
def empty : GoMap K V := ⟨∅,fun _ => 0,fun _ _ => rfl⟩

@[simp] lemma keys_empty : (empty : GoMap K V).keys = ∅ := rfl
@[simp] lemma get_empty (k : K) : (empty : GoMap K V).get k=0 := rfl

lemma get_of_keys_eq_empty {m : GoMap K V} (h : m.keys = ∅) (k : K) : m.get k=0 := by
  apply m.get_of_not_mem
  rw [h]
  exact Finset.notMem_empty k

variable [DecidableEq K]
def set (m : GoMap K V) (k : K) (v : V) : GoMap K V where
  keys := insert k m.keys
  get := update m.get k v
  get_of_not_mem j hj := by
    rw [Finset.mem_insert,not_or] at hj
    rw [update_of_ne hj.1]
    exact m.get_of_not_mem j hj.2

/-- What a loop over the map has left after it visited `k`. -/
def erase (m : GoMap K V) (k : K) : GoMap K V where
  keys := m.keys.erase k
  get := update m.get k 0
  get_of_not_mem j hj := by
    by_cases hk : j=k
    · rw [hk,update_self]
    rw [update_of_ne hk]
    exact m.get_of_not_mem j fun hmem => hj (Finset.mem_erase.mpr ⟨hk,hmem⟩)

lemma get_set (m : GoMap K V) (k : K) (v : V) (j : K) : (m.set k v).get j=if j=k then v else m.get j :=
  update_apply m.get k v j

lemma get_erase (m : GoMap K V) (k j : K) : (m.erase k).get j=if j=k then 0 else m.get j :=
  update_apply m.get k 0 j
end GoMap
