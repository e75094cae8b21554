import AronaApi.Lib.Schedule
import Mathlib.Data.List.Induction

/-! Streams of numbered blocks. A block is started, receives deltas of its kind and is stopped; several may be
open at a time, and the stream is finished when none is. -/
open List Schedule

inductive BlockEvent (κ : Type*)
  | start (index : ℕ) (kind : κ)
  | delta (index : ℕ) (kind : κ)
  | stop (index : ℕ)
  | finish
  | other
  deriving DecidableEq

namespace BlockEvent
variable {κ : Type*}
def startIndex : BlockEvent κ → Option ℕ
  | .start index _ => some index
  | _ => none

/-- The block was started with this kind and has not been stopped. -/
def Unclosed (events : List (BlockEvent κ)) (index : ℕ) (kind : κ) : Prop :=
  .start index kind∈events ∧ .stop index∉events
end BlockEvent

variable {κ : Type*} [DecidableEq κ]
open BlockEvent

/-- Starts are numbered from 0 without gaps or repeats; deltas and stops refer to open blocks, deltas of the
same kind; at the finish every started block has been stopped exactly once. -/
structure WellBlocked (events : List (BlockEvent κ)) : Prop where
  starts : events.filterMap startIndex=range (events.filterMap startIndex).length
  delta : ∀ before index kind after, events=before++.delta index kind::after → Unclosed before index kind
  stop : ∀ before index after, events=before++.stop index::after → ∃ kind, Unclosed before index kind
  finish : ∀ before after, events=before++.finish::after →
    ∀ index kind, .start index kind∈before → before.count (.stop index)=1

/-- What one has to remember of a stream: the number of starts, and the blocks that are open. -/
structure Blocks (κ : Type*) where
  next : ℕ
  opened : List (ℕ × κ)

namespace Blocks

def empty : Blocks κ := ⟨0,[]⟩

def step (b : Blocks κ) : BlockEvent κ → Option (Blocks κ)
  | .start index kind => if index=b.next then some ⟨b.next+1,b.opened++[(index,kind)]⟩ else none
  | .delta index kind => if (index,kind)∈b.opened then some b else none
  | .stop index =>
    if index∈b.opened.map Prod.fst then some { b with opened := b.opened.filter fun block => block.1≠index }
    else none
  | .finish => if b.opened=[] then some b else none
  | .other => some b

structure Describes (b : Blocks κ) (events : List (BlockEvent κ)) : Prop where
  starts : events.filterMap startIndex=range b.next
  opened : ∀ index kind, (index,kind)∈b.opened ↔ Unclosed events index kind
  stopped : ∀ index, .stop index∈events → index<b.next
  once : ∀ index, events.count (.stop index)≤1

lemma describes_empty : (empty : Blocks κ).Describes [] :=
  ⟨rfl,fun _ _ => by simp [empty,Unclosed],fun _ h => (not_mem_nil h).elim,fun _ => by simp⟩

variable {events : List (BlockEvent κ)} {b b' : Blocks κ} {index : ℕ} {kind : κ}
lemma Describes.lt_of_start (h : b.Describes events) (hm : .start index kind∈events) : index<b.next := by
  have : index∈events.filterMap startIndex := mem_filterMap.mpr ⟨_,hm,rfl⟩
  rw [h.starts] at this
  exact mem_range.mp this

variable {e : BlockEvent κ}
section
variable (h : b.Describes events)
include h
/-- An event that neither starts nor stops a block changes nothing. -/
lemma Describes.idle
    (hstr : ∀ index kind, e≠.start index kind) (hstop : ∀ index, e≠.stop index) : b.Describes (events++[e]) := by
  refine ⟨?_,fun index kind => ?_,fun index hm => ?_,fun index => ?_⟩
  · rw [filterMap_append,h.starts]
    cases e with
    | start index kind => exact (hstr index kind rfl).elim
    | delta | stop | finish | other => exact append_nil _
  · rw [h.opened index kind]
    simp [Unclosed,(hstr index kind).symm,(hstop index).symm]
  · exact h.stopped index (by simpa [(hstop index).symm] using hm)
  · rw [count_append,count_singleton,if_neg (by simpa using hstop index)]
    exact h.once index

lemma Describes.start (kind : κ) : Describes ⟨b.next+1,b.opened++[(b.next,kind)]⟩ (events++[.start b.next kind]) := by
  refine ⟨?_,fun index k => ?_,fun index hm => ?_,fun index => ?_⟩
  · rw [filterMap_append,h.starts]
    exact range_succ.symm
  · -- the new block has no stop among the old events, which are all about smaller numbers
    have hfresh : ∀ i, BlockEvent.stop (κ := κ) i∈events → i≠b.next := fun i hi => Nat.ne_of_lt (h.stopped i hi)
    simp only [mem_append,mem_singleton,Prod.mk.injEq,Unclosed,BlockEvent.start.injEq,reduceCtorEq,or_false,
      h.opened index k]
    constructor
    · rintro (⟨hs,ht⟩ | ⟨rfl,rfl⟩)
      · exact ⟨.inl hs,ht⟩
      · exact ⟨.inr ⟨rfl,rfl⟩,fun hm => hfresh _ hm rfl⟩
    · rintro ⟨hs | ⟨rfl,rfl⟩,ht⟩
      · exact .inl ⟨hs,ht⟩
      · exact .inr ⟨rfl,rfl⟩
  · have hold : .stop index∈events := by simpa using hm
    exact Nat.lt_succ_of_lt (h.stopped index hold)
  · rw [count_append,count_singleton,if_neg (by simp)]
    exact h.once index

lemma Describes.stop (hopen : (index,kind)∈b.opened) :
    Describes { b with opened := b.opened.filter fun block => block.1≠index } (events++[.stop index]) := by
  obtain ⟨hstr,hstop⟩ := (h.opened index kind).mp hopen
  refine ⟨?_,fun i k => ?_,fun i hm => ?_,fun i => ?_⟩
  · rw [filterMap_append,h.starts]
    exact append_nil _
  · simp only [mem_filter,decide_eq_true_eq,h.opened i k,Unclosed,mem_append,mem_singleton,reduceCtorEq,
      or_false,BlockEvent.stop.injEq,not_or,and_assoc]
  · simp only [mem_append,mem_singleton,BlockEvent.stop.injEq] at hm
    obtain hm | rfl := hm
    · exact h.stopped i hm
    · exact h.lt_of_start hstr
  · rw [count_append,count_singleton]
    by_cases hi : i=index
    · subst hi
      rw [count_eq_zero_of_not_mem hstop]
      split <;> omega
    · rw [if_neg (by simpa using fun he => hi he.symm)]
      exact h.once i

lemma Describes.step (hstep : b.step e=some b') : b'.Describes (events++[e]) := by
  cases e with
  | start index kind =>
    simp only [Blocks.step] at hstep
    split at hstep
    next hi =>
      cases hstep
      subst hi
      exact h.start kind
    · cases hstep
  | delta index kind | finish =>
    simp only [Blocks.step] at hstep
    split at hstep
    · cases hstep
      exact h.idle nofun nofun
    · cases hstep
  | stop index =>
    simp only [Blocks.step] at hstep
    split at hstep
    next hm =>
      cases hstep
      obtain ⟨⟨i,kind⟩,hblc,rfl⟩ := mem_map.mp hm
      exact h.stop hblc
    · cases hstep
  | other =>
    cases hstep
    exact h.idle nofun nofun

lemma Describes.exec {more : List (BlockEvent κ)}
    (hexec : exec Blocks.step b more=some b') : b'.Describes (events++more) := by
  induction more generalizing b events with
  | nil =>
    cases hexec
    rwa [append_nil]
  | cons e more ih =>
    obtain ⟨c,hc,hrest⟩ := Option.bind_eq_some_iff.mp hexec
    have := ih (h.step hc) hrest
    rwa [append_assoc] at this
end

/-- The state in which a stream reaches one of its events. -/
lemma exists_state {before after : List (BlockEvent κ)} (h : exec Blocks.step empty (before++e::after)=some b) :
    ∃ c : Blocks κ, c.Describes before ∧ (c.step e).isSome := by
  rw [exec_append] at h
  obtain ⟨c,hc,hrest⟩ := Option.bind_eq_some_iff.mp h
  obtain ⟨d,hd,-⟩ := Option.bind_eq_some_iff.mp hrest
  exact ⟨c,describes_empty.exec hc,by rw [hd]; rfl⟩

/-- A stream that can be followed is well blocked. -/
lemma wellBlocked_of_exec (h : exec Blocks.step empty events=some b) : WellBlocked events where
  starts := by
    have hstar : events.filterMap startIndex=range b.next := (describes_empty.exec h).starts
    rw [hstar,length_range]
  delta before index kind after he := by
    subst he
    obtain ⟨c,hc,hsome⟩ := exists_state h
    rw [← hc.opened index kind]
    by_contra hnot
    simp [Blocks.step,hnot] at hsome
  stop before index after he := by
    subst he
    obtain ⟨c,hc,hsome⟩ := exists_state h
    by_cases hm : index∈c.opened.map Prod.fst
    · obtain ⟨⟨i,kind⟩,hblc,rfl⟩ := mem_map.mp hm
      exact ⟨kind,(hc.opened i kind).mp hblc⟩
    · rw [Blocks.step,if_neg hm] at hsome
      cases hsome
  finish before after he index kind hstr := by
    subst he
    obtain ⟨c,hc,hsome⟩ := exists_state h
    have hnone : c.opened=[] := by
      by_contra hne
      rw [Blocks.step,if_neg hne] at hsome
      cases hsome
    have hstop : .stop index∈before := by
      by_contra hnot
      have := (hc.opened index kind).mpr ⟨hstr,hnot⟩
      rw [hnone] at this
      cases this
    exact Nat.le_antisymm (hc.once index) (count_pos_iff.mpr hstop)

lemma wellBlocked_left (h : WellBlocked (events++[e])) : WellBlocked events where
  starts := by
    have hstar := h.starts
    rw [filterMap_append,length_append] at hstar
    have htake := congrArg (take (events.filterMap startIndex).length) hstar
    rwa [take_left,take_range,Nat.min_eq_left (Nat.le_add_right _ _)] at htake
  delta before index kind after he := h.delta before index kind (after++[e]) (by simp [he])
  stop before index after he := h.stop before index (after++[e]) (by simp [he])
  finish before after he := h.finish before (after++[e]) (by simp [he])

/-- A stream that is well blocked can be followed. -/
lemma exec_of_wellBlocked (h : WellBlocked events) : ∃ b, exec Blocks.step empty events=some b := by
  induction events using reverseRecOn with
  | nil => exact ⟨empty,rfl⟩
  | append_singleton events e ih =>
    obtain ⟨b,hb⟩ := ih (wellBlocked_left h)
    have hdesc : b.Describes events := by simpa using describes_empty.exec hb
    suffices hstep : ∃ c, b.step e=some c by
      obtain ⟨c,hc⟩ := hstep
      exact ⟨c,by simp [exec_append,hb,exec,hc]⟩
    cases e with
    | start index kind =>
      have hstar := h.starts
      rw [filterMap_append,hdesc.starts,length_append,length_range] at hstar
      have hind : index=b.next := by simpa [startIndex,range_succ] using hstar
      exact ⟨_,if_pos hind⟩
    | delta index kind =>
      exact ⟨b,if_pos ((hdesc.opened index kind).mpr (h.delta events index kind [] rfl))⟩
    | stop index =>
      obtain ⟨kind,hopen⟩ := h.stop events index [] rfl
      exact ⟨_,if_pos (mem_map.mpr ⟨(index,kind),(hdesc.opened index kind).mpr hopen,rfl⟩)⟩
    | finish =>
      refine ⟨b,if_pos (eq_nil_iff_forall_not_mem.mpr ?_)⟩
      rintro ⟨index,kind⟩ hmem
      obtain ⟨hstr,hstop⟩ := (hdesc.opened index kind).mp hmem
      have hcnt := h.finish events [] rfl index kind hstr
      rw [count_eq_zero_of_not_mem hstop] at hcnt
      cases hcnt
    | other => exact ⟨b,rfl⟩
end Blocks
