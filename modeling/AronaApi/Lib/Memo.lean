import Mathlib

/-! Results remembered under a key. What is asked for later with the same key gets the first result; whether it is
its own depends on what the key leaves out. -/
namespace Memo
open List Function
variable {α K V β ε : Type*} [DecidableEq K]
section
variable (key : α → K) (fresh : α → Except ε V)
/-- The stored result, or a fresh one, which is stored unless it is an error. -/
def get (table : K → Option V) (a : α) : (K → Option V) × Except ε V :=
  match table (key a) with
  | some v => (table,.ok v)
  | none =>
    match fresh a with
    | .ok v => (update table (key a) (some v),.ok v)
    | .error e => (table,.error e)

variable {key fresh} {table : K → Option V} {a : α} {v : V}
lemma get_of_some (h : table (key a)=some v) : get key fresh table a=(table,.ok v) := by rw [get,h]

lemma get_of_ok (h : table (key a)=none) (hfresh : fresh a=.ok v) :
    get key fresh table a=(update table (key a) (some v),.ok v) := by rw [get,h,hfresh]

lemma get_of_error {e : ε} (h : table (key a)=none) (hfresh : fresh a=.error e) :
    get key fresh table a=(table,.error e) := by rw [get,h,hfresh]

variable (key fresh)
/-- The results of a list of questions, with the questions. -/
def run (table : K → Option V) : List α → List (α × Except ε V)
  | [] => []
  | a::as => (a,(get key fresh table a).2)::run (get key fresh table a).1 as
end

/-- Two questions that may be confused have the same answer. -/
def Apart (key : α → K) (fresh : α → Except ε V) (own : α → β) (a b : α) : Prop :=
  key a=key b → (∃ v, fresh a=.ok v) → own a=own b

variable {key : α → K} {fresh : α → Except ε V} {value : V → β} {own : α → β}
/-- The table after the questions `seen`, all of which got their own answers. -/
structure Stored (key : α → K) (fresh : α → Except ε V) (value : V → β) (own : α → β) (seen : List α)
    (table : K → Option V) : Prop where
  source : ∀ k v, table k=some v → ∃ a∈seen, key a=k ∧ fresh a=.ok v
  kept : ∀ a∈seen, (∃ v, fresh a=.ok v) → ∃ v, table (key a)=some v ∧ value v=own a

variable {seen : List α} {table : K → Option V}
section
variable (h : Stored key fresh value own seen table)
include h
/-- One question gets its own answer exactly if it is apart from those before. -/
lemma Stored.get_own_iff (hown : ∀ a v, fresh a=.ok v → value v=own a) (b : α) :
    (∀ v, (get key fresh table b).2=.ok v → value v=own b) ↔ ∀ a∈seen, Apart key fresh own a b := by
  cases htbl : table (key b) with
  | some v =>
    rw [get_of_some htbl]
    constructor
    · intro hb a ha hkey hsome
      obtain ⟨w,hw,hvl⟩ := h.kept a ha hsome
      rw [hkey,htbl] at hw
      cases hw
      rw [← hvl]
      exact hb v rfl
    · intro hapr w hw
      cases hw
      obtain ⟨a,ha,hkey,hfresh⟩ := h.source _ v htbl
      rw [← hapr a ha hkey ⟨v,hfresh⟩]
      exact hown a v hfresh
  | none =>
    constructor
    · intro _ a ha hkey hsome
      obtain ⟨w,hw,-⟩ := h.kept a ha hsome
      rw [hkey,htbl] at hw
      cases hw
    · intro _ v hv
      cases hfresh : fresh b with
      | error e =>
        rw [get_of_error htbl hfresh] at hv
        cases hv
      | ok w =>
        rw [get_of_ok htbl hfresh] at hv
        cases hv
        exact hown b v hfresh

/-- What is stored after a question with its own answer. -/
lemma Stored.get (b : α) (hb : ∀ v, (get key fresh table b).2=.ok v → value v=own b) :
    Stored key fresh value own (b::seen) (Memo.get key fresh table b).1 := by
  have hsour : ∀ k v, table k=some v → ∃ a∈b::seen, key a=k ∧ fresh a=.ok v := by
    intro k v hk
    obtain ⟨a,ha,hfresh⟩ := h.source k v hk
    exact ⟨a,mem_cons_of_mem _ ha,hfresh⟩
  cases htbl : table (key b) with
  | some v =>
    rw [get_of_some htbl] at hb ⊢
    refine ⟨hsour,forall_mem_cons.mpr ⟨fun _ => ?_,h.kept⟩⟩
    exact ⟨v,htbl,hb v rfl⟩
  | none =>
    cases hfresh : fresh b with
    | error e =>
      rw [get_of_error htbl hfresh]
      refine ⟨hsour,forall_mem_cons.mpr ⟨?_,h.kept⟩⟩
      rintro ⟨v,hv⟩
      rw [hfresh] at hv
      cases hv
    | ok v =>
      rw [get_of_ok htbl hfresh] at hb ⊢
      show Stored key fresh value own (b::seen) (update table (key b) (some v))
      refine ⟨?_,forall_mem_cons.mpr ⟨fun _ => ?_,?_⟩⟩
      · intro k w hk
        by_cases hkey : k=key b
        · rw [hkey,update_self] at hk
          cases hk
          exact ⟨b,mem_cons_self,hkey.symm,hfresh⟩
        · rw [update_of_ne hkey] at hk
          exact hsour k w hk
      · exact ⟨v,update_self ..,hb v rfl⟩
      · intro a ha hsome
        obtain ⟨w,hw,hvl⟩ := h.kept a ha hsome
        -- what had a result before was stored, so it has another key
        have hkey : key a≠key b := by
          intro heq
          rw [heq,htbl] at hw
          cases hw
        refine ⟨w,?_,hvl⟩
        rw [update_of_ne hkey]
        exact hw

lemma Stored.run_own_iff (hown : ∀ a v, fresh a=.ok v → value v=own a) (as : List α) :
    (∀ r∈run key fresh table as, ∀ v, r.2=.ok v → value v=own r.1) ↔
      (∀ a∈seen, ∀ b∈as, Apart key fresh own a b) ∧ as.Pairwise (Apart key fresh own) := by
  induction as generalizing seen table with
  | nil => simp [run]
  | cons b bs ih =>
    rw [run,forall_mem_cons,h.get_own_iff hown b]
    constructor
    · rintro ⟨hb,hrest⟩
      have hnext := (ih (h.get b ((h.get_own_iff hown b).mpr hb))).mp hrest
      rw [forall_mem_cons] at hnext
      refine ⟨fun a ha => forall_mem_cons.mpr ⟨hb a ha,hnext.1.2 a ha⟩,?_⟩
      exact pairwise_cons.mpr ⟨hnext.1.1,hnext.2⟩
    · rintro ⟨hseen,hpairs⟩
      have hb : ∀ a∈seen, Apart key fresh own a b := fun a ha => hseen a ha b mem_cons_self
      obtain ⟨hfrs,hpairs⟩ := pairwise_cons.mp hpairs
      refine ⟨hb,(ih (h.get b ((h.get_own_iff hown b).mpr hb))).mpr ⟨?_,hpairs⟩⟩
      exact forall_mem_cons.mpr ⟨hfrs,fun a ha c hc => hseen a ha c (mem_cons_of_mem _ hc)⟩
end

/-- From an empty table every question gets its own answer exactly if each is apart from those before. -/
lemma run_own_iff (hown : ∀ a v, fresh a=.ok v → value v=own a) (as : List α) :
    (∀ r∈run key fresh (fun _ => none) as, ∀ v, r.2=.ok v → value v=own r.1) ↔ as.Pairwise (Apart key fresh own) := by
  have hemp : Stored key fresh value own [] (fun _ => none) := ⟨fun _ _ h => (nomatch h),fun _ h => (nomatch h)⟩
  rw [hemp.run_own_iff hown]
  simp
end Memo
