import Mathlib.Algebra.GroupWithZero.Nat
import Mathlib.Algebra.BigOperators.Group.List.Basic

/-! Texts that arrive in pieces. A span is begun with a key and a header, and grows by pieces that name its key;
a key may be begun again, and a piece belongs to the latest span of its key. -/
open List

section
variable {α β : Type*} (p : α → Prop) [DecidablePred p] (f : α → α)
/-- Changes the last entry that satisfies `p`. -/
def updateLast : List α → List α
  | [] => []
  | x::xs => if ∃ y∈xs, p y then x::updateLast xs else if p x then f x::xs else x::xs

variable {p f}
lemma updateLast_of_forall_not {xs : List α} (h : ∀ x∈xs, ¬p x) : updateLast p f xs=xs := by
  cases xs with
  | nil => rfl
  | cons x xs =>
    have hrest : ¬∃ y∈xs, p y := fun ⟨y,hy,hp⟩ => h y (mem_cons_of_mem _ hy) hp
    rw [updateLast,if_neg hrest,if_neg (h x mem_cons_self)]

lemma updateLast_append_cons {x : α} {xs ys : List α} (hx : p x) (hys : ∀ y∈ys, ¬p y) :
    updateLast p f (xs++x::ys)=xs++f x::ys := by
  induction xs with
  | nil =>
    have hrest : ¬∃ y∈ys, p y := fun ⟨y,hy,hp⟩ => hys y hy hp
    rw [nil_append,updateLast,if_neg hrest,if_pos hx]
    rfl
  | cons z xs ih =>
    have hrest : ∃ y∈xs++x::ys, p y := ⟨x,by simp,hx⟩
    rw [cons_append,updateLast,if_pos hrest,ih]
    rfl

/-- Either nothing is changed, or there is a last entry. -/
lemma exists_last (p : α → Prop) [DecidablePred p] (xs : List α) :
    (∀ x∈xs, ¬p x) ∨ ∃ l x r, xs=l++x::r ∧ p x ∧ ∀ y∈r, ¬p y := by
  induction xs with
  | nil => exact .inl fun _ hx => (not_mem_nil hx).elim
  | cons z xs ih =>
    obtain hnone | ⟨l,x,r,rfl,hx,hr⟩ := ih
    · by_cases hz : p z
      · exact .inr ⟨[],z,xs,rfl,hz,hnone⟩
      · exact .inl (forall_mem_cons.mpr ⟨hz,hnone⟩)
    · exact .inr ⟨z::l,x,r,rfl,hx,hr⟩

/-- What the change leaves alone. -/
lemma map_updateLast {g : α → β} (h : ∀ x, g (f x)=g x) (xs : List α) : (updateLast p f xs).map g=xs.map g := by
  obtain hnone | ⟨l,x,r,rfl,hx,hr⟩ := exists_last p xs
  · rw [updateLast_of_forall_not hnone]
  rw [updateLast_append_cons hx hr]
  simp [h]
end

/-- The texts of a list, one after another. -/
def spell {α : Type*} (f : α → String) (xs : List α) : String := xs.foldl (fun s x => s++f x) ""

section
variable {α β : Type*} (f : α → String)
@[simp] lemma spell_nil : spell f [] = "" := rfl

@[simp] lemma spell_cons (x : α) (xs : List α) : spell f (x::xs)=f x++spell f xs := by
  have hfold : ∀ s : String, xs.foldl (fun s x => s++f x) s=s++spell f xs := by
    unfold spell
    induction xs with
    | nil => simp
    | cons y ys ih =>
      intro s
      rw [foldl_cons,ih,foldl_cons,ih ("" ++ f y)]
      simp [String.append_assoc]
  rw [spell,foldl_cons,hfold,String.empty_append]

@[simp] lemma spell_append (xs ys : List α) : spell f (xs++ys)=spell f xs++spell f ys := by
  induction xs with
  | nil => simp
  | cons x xs ih => rw [cons_append,spell_cons,ih,spell_cons,String.append_assoc]

lemma spell_flatMap (g : β → List α) (ys : List β) : spell f (ys.flatMap g)=spell (fun y => spell f (g y)) ys := by
  induction ys with
  | nil => rfl
  | cons y ys ih => rw [flatMap_cons,spell_append,ih,spell_cons]

lemma spell_map (g : β → α) (ys : List β) : spell f (ys.map g)=spell (fun y => f (g y)) ys := by
  induction ys with
  | nil => rfl
  | cons y ys ih => rw [map_cons,spell_cons,ih,spell_cons]

lemma spell_eq_empty_iff (xs : List α) : spell f xs = "" ↔ ∀ x∈xs, f x = "" := by
  induction xs with
  | nil => simp
  | cons x xs ih =>
    rw [spell_cons,forall_mem_cons,← ih,← String.length_eq_zero_iff,String.length_append,
      ← String.length_eq_zero_iff,← String.length_eq_zero_iff]
    omega

/-- The last text alone is all of the text exactly if the others are empty. -/
lemma spell_eq_getLast_iff (xs : List α) : spell f xs=(xs.getLast?.map f).getD "" ↔ ∀ x∈xs.dropLast, f x = "" := by
  obtain rfl | ⟨init,x,rfl⟩ := eq_nil_or_concat xs
  · simp
  rw [concat_eq_append,dropLast_concat,spell_append,← spell_eq_empty_iff]
  simp

/-- Leaving entries out leaves the text the same exactly if their texts are empty. -/
lemma spell_filter_eq_iff (p : α → Bool) (xs : List α) :
    spell f (xs.filter p)=spell f xs ↔ ∀ x∈xs, p x=false → f x = "" := by
  have hle : ∀ ys : List α, (spell f (ys.filter p)).length≤(spell f ys).length := by
    intro ys
    induction ys with
    | nil => exact Nat.le_refl _
    | cons y ys ih =>
      rw [filter_cons,spell_cons]
      split
      · rw [spell_cons,String.length_append,String.length_append]
        omega
      · rw [String.length_append]
        omega
  induction xs with
  | nil => simp
  | cons x xs ih =>
    refine Iff.trans ?_ (Iff.trans (and_congr_right fun _ => ih) forall_mem_cons.symm)
    rw [filter_cons,spell_cons]
    cases hp : p x with
    | true => simp [String.append_right_inj]
    | false =>
      simp only [Bool.false_eq_true,if_false,true_implies]
      constructor
      · intro heq
        have hlen := congrArg String.length heq
        rw [String.length_append] at hlen
        have hx : f x = "" := String.length_eq_zero_iff.mp (by have := hle xs; omega)
        rw [hx,String.empty_append] at heq
        exact ⟨hx,heq⟩
      · rintro ⟨hx,heq⟩
        rw [hx,heq,String.empty_append]
end

structure Span (η : Type*) where
  key : ℕ
  header : η
  body : String
  deriving DecidableEq

namespace Span
variable {η : Type*} {key : ℕ}
def grow (piece : String) (part : Span η) : Span η := { part with body := part.body++piece }

def extend (key : ℕ) (piece : String) (parts : List (Span η)) : List (Span η) :=
  updateLast (fun part => part.key=key) (grow piece) parts

def keys (parts : List (Span η)) : List ℕ := parts.map fun part => part.key

def content (part : Span η) : η × String := (part.header,part.body)

/-- One for each part and one for each character. -/
def weight (parts : List (Span η)) : ℕ := (parts.map fun part => 1+part.body.length).sum

@[simp] lemma keys_extend (key : ℕ) (piece : String) (parts : List (Span η)) :
    keys (extend key piece parts)=keys parts := by
  apply map_updateLast
  exact fun _ => rfl

lemma map_header_extend (key : ℕ) (piece : String) (parts : List (Span η)) :
    (extend key piece parts).map header=parts.map header := by
  apply map_updateLast
  exact fun _ => rfl

@[simp] lemma keys_append (parts more : List (Span η)) : keys (parts++more)=keys parts++keys more :=
  map_append

variable {parts : List (Span η)}
lemma extend_of_not_mem (h : key∉keys parts) (piece : String) : extend key piece parts=parts := by
  apply updateLast_of_forall_not
  rintro part hpart rfl
  exact h (mem_map_of_mem hpart)

lemma extend_append_cons {part : Span η} {l r : List (Span η)} (hpart : part.key=key)
    (hr : key∉keys r) (piece : String) : extend key piece (l++part::r)=l++part.grow piece::r := by
  apply updateLast_append_cons (p := fun other : Span η => other.key=key) hpart
  rintro other hoth rfl
  exact hr (mem_map_of_mem hoth)

lemma exists_of_mem_keys (h : key∈keys parts) : ∃ l part r, parts=l++part::r ∧ part.key=key ∧ key∉keys r := by
  obtain hnone | ⟨l,part,r,hprt,hpart,hr⟩ := exists_last (fun part : Span η => part.key=key) parts
  · obtain ⟨part,hpart,hkey⟩ := mem_map.mp h
    exact absurd hkey (hnone part hpart)
  refine ⟨l,part,r,hprt,hpart,fun hm => ?_⟩
  obtain ⟨other,hoth,hkey⟩ := mem_map.mp hm
  exact hr other hoth hkey

lemma weight_extend (h : key∈keys parts) (piece : String) :
    weight (extend key piece parts)=weight parts+piece.length := by
  obtain ⟨l,part,r,rfl,hpart,hr⟩ := exists_of_mem_keys h
  rw [extend_append_cons hpart hr]
  simp only [weight,grow,map_append,map_cons,sum_append,sum_cons,String.length_append]
  omega

lemma weight_extend_le (key : ℕ) (piece : String) (parts : List (Span η)) :
    weight (extend key piece parts)≤weight parts+piece.length := by
  by_cases h : key∈keys parts
  · exact Nat.le_of_eq (weight_extend h piece)
  rw [extend_of_not_mem h]
  exact Nat.le_add_right _ _

lemma extend_empty (key : ℕ) (parts : List (Span η)) : extend key "" parts=parts := by
  by_cases h : key∈keys parts
  · obtain ⟨l,part,r,rfl,hpart,hr⟩ := exists_of_mem_keys h
    rw [extend_append_cons hpart hr]
    simp [grow]
  · exact extend_of_not_mem h ""
end Span
