import AronaApi.Lib.Reassembly

/-! Texts written one after another with newlines between them. The newlines between texts cannot be told
from texts that have only newlines, so both are left out of account: `Spelled` says that a text is made of
the given texts and newlines, `InOrder` that it has them in this order among other things. -/
namespace Lines
open List

/-- The characters of a text without its newlines. -/
def ink (s : String) : List Char := s.toList.filter (· ≠ '\n')

@[simp] lemma ink_empty : ink "" = [] := rfl

@[simp] lemma ink_newline : ink "\n" = [] := rfl

@[simp] lemma ink_append (s t : String) : ink (s++t)=ink s++ink t := by simp [ink]

/-- Only newlines. -/
def blank (s : String) : Bool := s.toList.all (· = '\n')

variable {s : String}
lemma blank_iff : blank s=true ↔ ink s=[] := by simp [blank,ink,filter_eq_nil_iff]

/-- How much ink a list of texts has. -/
def weight (ts : List String) : ℕ := (ts.flatMap ink).length

@[simp] lemma weight_nil : weight []=0 := rfl

@[simp] lemma weight_cons (t : String) (ts : List String) : weight (t::ts)=(ink t).length+weight ts := by simp [weight]

@[simp] lemma weight_append (ts us : List String) : weight (ts++us)=weight ts+weight us := by simp [weight]

variable {ts : List String}
lemma weight_eq_zero_iff : weight ts=0 ↔ ∀ t∈ts, blank t=true := by
  rw [weight,length_eq_zero_iff,flatMap_eq_nil_iff]
  simp only [blank_iff]

/-- The texts with one newline between each two. -/
def join : List String → String
  | [] => ""
  | x::xs => x++if xs=[] then "" else "\n"++join xs

lemma ink_join (xs : List String) : ink (join xs)=xs.flatMap ink := by
  induction xs with
  | nil => rfl
  | cons x xs ih =>
    rw [join,ink_append,flatMap_cons]
    split
    next hnil => simp [hnil]
    · rw [ink_append,ih,ink_newline,nil_append]

/-- The text is made of the given ones in order, and newlines. -/
inductive Spelled : List String → String → Prop
  | nil : Spelled [] ""
  | newline {ts : List String} {s : String} : Spelled ts s → Spelled ts ("\n"++s)
  | text {ts : List String} {s : String} (t : String) : Spelled ts s → Spelled (t::ts) (t++s)
  | ignored {ts : List String} {s : String} {t : String} : blank t=true → Spelled ts s → Spelled (t::ts) s

namespace Spelled

variable {ts : List String}
lemma append {us : List String} {u : String} (h : Spelled ts s) (h' : Spelled us u) : Spelled (ts++us) (s++u) := by
  induction h with
  | nil => simpa using h'
  | newline _ ih =>
    rw [String.append_assoc]
    exact .newline ih
  | text t _ ih =>
    rw [String.append_assoc]
    exact .text t ih
  | ignored hblank _ ih => exact .ignored hblank ih

lemma ink_eq (h : Spelled ts s) : ink s=ts.flatMap ink := by
  induction h with
  | nil => rfl
  | newline _ ih => rw [ink_append,ih,ink_newline,nil_append]
  | text t _ ih => rw [ink_append,ih,flatMap_cons]
  | ignored hblank _ ih => rw [ih,flatMap_cons,blank_iff.mp hblank,nil_append]

lemma blank_append {t : String} (ht : blank t=true) (h : Spelled ts s) : Spelled ts (t++s) := by
  have hchr : ∀ l : List Char, (∀ c∈l, c = '\n') → Spelled ts (String.ofList l++s) := by
    intro l hl
    induction l with
    | nil => simpa using h
    | cons c cs ih =>
      obtain ⟨hc,hcs⟩ := forall_mem_cons.mp hl
      rw [hc]
      show Spelled ts (String.ofList (['\n']++cs)++s)
      rw [String.ofList_append,String.append_assoc]
      exact .newline (ih hcs)
  have hall : ∀ c∈t.toList, c = '\n' := by simpa [blank] using ht
  have hspel := hchr t.toList hall
  rwa [String.ofList_toList] at hspel

lemma of_blank (h : ∀ t∈ts, blank t=true) : Spelled ts "" := by
  induction ts with
  | nil => exact .nil
  | cons t ts ih =>
    obtain ⟨ht,hts⟩ := forall_mem_cons.mp h
    exact .ignored ht (ih hts)

/-- The last text alone spells all of them exactly if the others are blank. -/
lemma getLast_iff (ts : List String) : Spelled ts (ts.getLast?.getD "") ↔ ∀ t∈ts.dropLast, blank t=true := by
  obtain rfl | ⟨init,t,rfl⟩ := eq_nil_or_concat ts
  · exact ⟨fun _ t ht => (nomatch ht),fun _ => .nil⟩
  rw [concat_eq_append,List.getLast?_append,dropLast_concat]
  constructor
  · intro h u hu
    have hink : init.flatMap ink=[] := by simpa using h.ink_eq
    exact blank_iff.mpr (flatMap_eq_nil_iff.mp hink u hu)
  · intro h
    have hlast : Spelled [t] t := by simpa using Spelled.text t .nil
    simpa using (of_blank h).append hlast

/-- After a text, the rest of the joined texts. -/
lemma after {xs : List String} (h : Spelled ts (join xs)) : Spelled ts (if xs=[] then "" else "\n"++join xs) := by
  split
  next hnil =>
    rw [hnil] at h
    exact h
  · exact .newline h
end Spelled

/-- The text has the given ones in order, with anything between them. -/
inductive InOrder : List String → String → Prop
  | nil : InOrder [] ""
  | other {ts : List String} {s : String} (x : String) : InOrder ts s → InOrder ts (x++s)
  | text {ts : List String} {s : String} (t : String) : InOrder ts s → InOrder (t::ts) (t++s)
  | ignored {ts : List String} {s : String} {t : String} : blank t=true → InOrder ts s → InOrder (t::ts) s

namespace InOrder

lemma append {us : List String} {u : String} (h : InOrder ts s) (h' : InOrder us u) : InOrder (ts++us) (s++u) := by
  induction h with
  | nil => simpa using h'
  | other x _ ih =>
    rw [String.append_assoc]
    exact .other x ih
  | text t _ ih =>
    rw [String.append_assoc]
    exact .text t ih
  | ignored hblank _ ih => exact .ignored hblank ih

lemma of_blank (h : ∀ t∈ts, blank t=true) : InOrder ts "" := by
  induction ts with
  | nil => exact .nil
  | cons t ts ih =>
    obtain ⟨ht,hts⟩ := forall_mem_cons.mp h
    exact .ignored ht (ih hts)

lemma after {xs : List String} (h : InOrder ts (join xs)) :
    InOrder ts (if xs=[] then "" else "\n"++join xs) := by
  split
  next hnil =>
    rw [hnil] at h
    exact h
  · exact .other "\n" h
end InOrder
end Lines
