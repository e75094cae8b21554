import Mathlib

/-! A JSON object as its text has it, with its members in order and keys that may repeat, and two ways to read
a string field out of it: a path query, and a decoder that fills a record. -/
namespace JsonMembers

/-- A member's value; the kinds that are not read as strings are kept apart from `null`, which a decoder
skips. -/
inductive Value (α : Type)
  | null
  | string (s : String)
  | other (a : α)

abbrev Members (α : Type) := List (String × Value α)

variable {α : Type} (field : String)
/-- The path query: the value of the first member with this key. -/
def get : Members α → Option (Value α)
  | [] => none
  | (key,v)::rest => if key=field then some v else get rest

/-- Letters that a decoder does not tell apart: those of either case, and the two of Unicode that fold to an
ASCII letter. -/
def foldChar (c : Char) : Char :=
  if c.val=0x17f then 's' else if c.val=0x212a then 'k' else c.toLower

/-- The decoder takes this key for the field. -/
def Names (key : String) : Prop := key.toList.map foldChar=field.toList.map foldChar

instance (key : String) : Decidable (Names field key) := by unfold Names; infer_instance

/-- The decoder: each string that the object gives for the field overwrites the one before, a `null` leaves it
alone, and any other value is a type error. -/
def unmarshalString : String → Members α → Option String
  | s,[] => some s
  | s,(key,v)::rest =>
    if Names field key then
      match v with
      | .null => unmarshalString s rest
      | .string t => unmarshalString t rest
      | .other _ => none
    else unmarshalString s rest

/-- No member says anything about the field. -/
def Silent (ms : Members α) : Prop := ∀ m∈ms, Names field m.1 → m.2=.null

/-- The last member that says something about the field gives it this string. -/
def LastSays (s : String) (ms : Members α) : Prop :=
  ∃ before key after, ms=before++(key,.string s)::after ∧ Names field key ∧ Silent field after

variable {field} {ms : Members α} {key s : String} {v : Value α}
lemma silent_cons :
    Silent field ((key,v)::ms) ↔ (Names field key → v=.null) ∧ Silent field ms := by simp only [Silent,List.forall_mem_cons]

lemma lastSays_cons : LastSays field s ((key,v)::ms) ↔
      LastSays field s ms ∨ (Names field key ∧ v=.string s ∧ Silent field ms) := by
  constructor
  · rintro ⟨before,key',after,hms,hkey,haft⟩
    cases before with
    | nil =>
      cases hms
      exact .inr ⟨hkey,rfl,haft⟩
    | cons m before =>
      cases hms
      exact .inl ⟨before,key',after,rfl,hkey,haft⟩
  · rintro (⟨before,key',after,rfl,hkey,haft⟩ | ⟨hkey,rfl,hsil⟩)
    · exact ⟨(key,v)::before,key',after,rfl,hkey,haft⟩
    · exact ⟨[],key,ms,rfl,hkey,hsil⟩

lemma not_lastSays_nil : ¬LastSays field s ([] : Members α) := by
  rintro ⟨before,key,after,hms,-⟩
  simp at hms

/-- What the decoder makes of the field: the last string, or what stood there before. -/
lemma unmarshalString_eq_iff {r t : String} (h : unmarshalString field s ms=some r) :
    r=t ↔ LastSays field t ms ∨ (s=t ∧ Silent field ms) := by
  induction ms generalizing s with
  | nil =>
    cases h
    simp [not_lastSays_nil,Silent]
  | cons m ms ih =>
    obtain ⟨key,v⟩ := m
    rw [lastSays_cons,silent_cons]
    unfold unmarshalString at h
    split at h
    next hkey =>
      cases v with
      | null | string u => simpa [hkey] using ih h
      | other a => cases h
    next hkey => simpa [hkey] using ih h

lemma unmarshalString_of_silent (h : Silent field ms) : unmarshalString field s ms=some s := by
  induction ms with
  | nil => rfl
  | cons m ms ih =>
    obtain ⟨key,v⟩ := m
    rw [silent_cons] at h
    unfold unmarshalString
    split
    next hkey =>
      rw [h.1 hkey]
      exact ih h.2
    · exact ih h.2
end JsonMembers
