import AronaApi.Claude.Content
import AronaApi.Claude.Grouping
import Mathlib.Data.List.Nodup

/-! When the converted stream loses nothing. A chunk is handed on as long as it carries one kind of content, comes
before the stream is closed or put off, and continues only tool calls of the group that is being written. -/
namespace AronaApi.Claude
open Schedule List Function Cursor
open Reading (feedTool weight)

/-! The tool calls of a stream, one delta after another. -/

def Named (r : Reading) : List (ℕ × ToolCall) → Prop
  | [] => True
  | call::calls => (call.2.name ≠ "" ↔ call.1∉Span.keys r.tools) ∧ Named (r.feedTool call) calls

def Lands (writable : List ℕ) : List (ℕ × ToolCall) → Prop
  | [] => True
  | call::calls =>
    (call.2.name = "" → call.2.arguments = "" ∨ call.1∈writable) ∧
      Lands (if call.2.name ≠ "" then call.1::writable else writable) calls

def begun (writable : List ℕ) : List (ℕ × ToolCall) → List ℕ
  | [] => writable
  | call::calls => begun (if call.2.name ≠ "" then call.1::writable else writable) calls

def callWeight (call : ℕ × ToolCall) : ℕ := (if call.2.name ≠ "" then 1 else 0)+call.2.arguments.length

def callsWeight (calls : List (ℕ × ToolCall)) : ℕ := (calls.map callWeight).sum

lemma callsWeight_cons (call : ℕ × ToolCall) (calls : List (ℕ × ToolCall)) :
    callsWeight (call::calls)=callWeight call+callsWeight calls := by simp [callsWeight]

variable {calls : List (ℕ × ToolCall)} {r fed : Reading} {call : ℕ × ToolCall}
lemma bare_of_callsWeight (h : callsWeight calls=0) : ∀ call∈calls, call.2.name = "" ∧ call.2.arguments = "" := by
  induction calls with
  | nil => exact fun _ hcall => (not_mem_nil hcall).elim
  | cons call calls ih =>
    rw [callsWeight_cons,callWeight] at h
    intro other hoth
    obtain rfl | hoth := mem_cons.mp hoth
    · refine ⟨?_,String.length_eq_zero_iff.mp (by omega)⟩
      by_contra hname
      rw [if_pos hname] at h
      omega
    · exact ih (by omega) other hoth

lemma forall_number {P : ToolCall → Prop} (i : ℕ) (toolCalls : List ToolCall) :
    (∀ call∈number i toolCalls, P call.2) ↔ ∀ toolCall∈toolCalls, P toolCall := by
  conv_rhs => rw [← map_snd_number i toolCalls,forall_mem_map]

lemma weight_start (key : ℕ) (id name : String) (r : Reading) : (r.start key id name).weight=r.weight+1 := by
  simp [weight,Reading.start,Span.weight]
  omega

lemma keys_feedTool (r : Reading) (call : ℕ × ToolCall) :
    Span.keys (r.feedTool call).tools =
      if call.1∈Span.keys r.tools then Span.keys r.tools else Span.keys r.tools++[call.1] := by
  unfold feedTool Reading.extend
  rw [Span.keys_extend]
  split
  · rfl
  · simp [Reading.start,Span.keys]

lemma weight_feedTool (h : call.2.name ≠ "" ↔ call.1∉Span.keys r.tools) :
    (r.feedTool call).weight=r.weight+callWeight call := by
  have hext : ∀ r' : Reading, call.1∈Span.keys r'.tools →
      (r'.extend call.1 call.2.arguments).weight=r'.weight+call.2.arguments.length := by
    intro r' hmem
    simp only [weight,Reading.extend,Span.weight_extend hmem]
    omega
  unfold feedTool callWeight
  by_cases hmem : call.1∈Span.keys r.tools
  · rw [if_pos hmem,if_neg fun hname => h.mp hname hmem,hext r hmem]
    omega
  · rw [if_neg hmem,if_pos (h.mpr hmem),hext _ (by simp [Reading.start,Span.keys]),weight_start]
    omega

lemma weight_foldl_feedTool (h : Named r calls) : (calls.foldl feedTool r).weight=r.weight+callsWeight calls := by
  induction calls generalizing r with
  | nil => rfl
  | cons call calls ih =>
    rw [foldl_cons,ih h.2,weight_feedTool h.1,callsWeight_cons]
    omega

lemma weight_deliver (base : ℕ) (r : Reading) (call : ℕ × ToolCall) :
    (r.deliver base call).weight ≤ r.weight+callWeight call := by
  have hext : ∀ r' : Reading, (r'.extend (base+call.1) call.2.arguments).weight ≤
      r'.weight+call.2.arguments.length := by
    intro r'
    have := Span.weight_extend_le (base+call.1) call.2.arguments r'.tools
    simp only [weight,Reading.extend]
    omega
  unfold Reading.deliver callWeight
  split
  · have := hext (r.start (base+call.1) call.2.id call.2.name)
    rw [weight_start] at this
    omega
  · have := hext r
    omega

lemma weight_foldl_deliver (base : ℕ) (r : Reading) (calls : List (ℕ × ToolCall)) :
    (calls.foldl (Reading.deliver base) r).weight ≤ r.weight+callsWeight calls := by
  induction calls generalizing r with
  | nil => exact Nat.le_refl _
  | cons call calls ih =>
    have hone := weight_deliver base r call
    have hrest := ih (r.deliver base call)
    rw [foldl_cons,callsWeight_cons]
    omega

lemma foldl_feedTool_bare (hnmd : Named r calls)
    (h : ∀ call∈calls, call.2.name = "" ∧ call.2.arguments = "") : calls.foldl feedTool r=r := by
  induction calls with
  | nil => rfl
  | cons call calls ih =>
    obtain ⟨hname,hargs⟩ := h call mem_cons_self
    have hmem : call.1∈Span.keys r.tools := by
      by_contra hnot
      exact hnmd.1.mpr hnot hname
    have hsame : r.feedTool call=r := by rw [feedTool,if_pos hmem,hargs,Reading.extend,Span.extend_empty]
    have hrest := hnmd.2
    rw [hsame] at hrest
    rw [foldl_cons,hsame]
    exact ih hrest fun other hoth => h other (mem_cons_of_mem _ hoth)

/-! Blocks and calls side by side. -/

/-- Which block belongs to which call. A call that can be continued has the latest block with its index in the
group that began at `base`; pieces of other calls go nowhere. -/
structure Placed (base : ℕ) (writable : List ℕ) (slots : List (ℕ × ℕ)) : Prop where
  distinct : (slots.map Prod.snd).Nodup
  writes : ∀ k∈writable, ∃ l r, slots=l++(base+k,k)::r ∧ base+k∉r.map Prod.fst
  nowhere : ∀ k∈slots.map Prod.snd, k∉writable → base+k∉slots.map Prod.fst

variable {writable : List ℕ} {slots : List (ℕ × ℕ)} {k fresh base : ℕ}
lemma Placed.start (h : Placed base writable slots)
    (hk : k∉slots.map Prod.snd) : Placed base (k::writable) (slots++[(base+k,k)]) := by
  constructor
  · rw [map_append,nodup_append]
    refine ⟨h.distinct,nodup_singleton k,fun a ha b hb => ?_⟩
    rw [mem_singleton.mp hb]
    rintro rfl
    exact hk ha
  · intro j hj
    obtain rfl | hj := mem_cons.mp hj
    · exact ⟨slots,[],rfl,not_mem_nil⟩
    obtain ⟨l,r,rfl,hr⟩ := h.writes j hj
    refine ⟨l,r++[(base+k,k)],by simp,?_⟩
    -- the new call is not one that has a block already
    have hne : j≠k := by
      rintro rfl
      exact hk (by simp)
    simp only [map_append,mem_append,hr,map_cons,map_nil,mem_singleton,false_or]
    omega
  · intro j hj hnot
    rw [map_append,mem_append,map_cons,map_nil,mem_singleton] at hj
    obtain ⟨hne,hnot⟩ := not_or.mp (mt mem_cons.mpr hnot)
    have hold := h.nowhere j (hj.resolve_right hne) hnot
    simp only [map_append,mem_append,hold,map_cons,map_nil,mem_singleton,false_or]
    omega

lemma Placed.regroup (h : Placed base writable slots)
    (hfresh : ∀ slot∈slots, slot.1<fresh) : Placed fresh [] slots := by
  refine ⟨h.distinct,fun _ hk => (not_mem_nil hk).elim,fun k _ _ hmem => ?_⟩
  obtain ⟨slot,hslot,he⟩ := mem_map.mp hmem
  have := hfresh slot hslot
  omega

abbrev Pair := ℕ × Span (String × String)

def Pair.slot (p : Pair) : ℕ × ℕ := (p.1,p.2.key)

def Pair.block (p : Pair) : Span (String × String) := { p.2 with key := p.1 }

lemma keys_block (pairs : List Pair) : Span.keys (pairs.map Pair.block)=(pairs.map Pair.slot).map Prod.fst := by
  simp [Span.keys,Pair.block,Pair.slot,comp_def]

lemma keys_call (pairs : List Pair) : Span.keys (pairs.map Prod.snd)=(pairs.map Pair.slot).map Prod.snd := by
  simp [Span.keys,Pair.slot,comp_def]

lemma content_block (pairs : List Pair) :
    (pairs.map Pair.block).map Span.content=(pairs.map Prod.snd).map Span.content := by
  simp [Span.content,Pair.block,comp_def]

structure Tallies (base : ℕ) (writable : List ℕ) (sent fed : List (Span (String × String)))
    (slots : List (ℕ × ℕ)) : Prop where
  pairs : ∃ pairs : List Pair, sent=pairs.map Pair.block ∧ fed=pairs.map Prod.snd ∧ slots=pairs.map Pair.slot
  placed : Placed base writable slots

section
variable {base : ℕ} {writable : List ℕ} {sent fed : List (Span (String × String))} {slots : List (ℕ × ℕ)}
section
variable (h : Tallies base writable sent fed slots)
include h
lemma Tallies.sent_keys : Span.keys sent=slots.map Prod.fst := by
  obtain ⟨pairs,rfl,-,rfl⟩ := h.pairs
  exact keys_block pairs

lemma Tallies.fed_keys : Span.keys fed=slots.map Prod.snd := by
  obtain ⟨pairs,-,rfl,rfl⟩ := h.pairs
  exact keys_call pairs

lemma Tallies.content_eq : sent.map Span.content=fed.map Span.content := by
  obtain ⟨pairs,rfl,rfl,-⟩ := h.pairs
  exact content_block pairs

lemma Tallies.start (hk : k∉Span.keys fed) (header : String × String) :
    Tallies base (k::writable) (sent++[⟨base+k,header,""⟩]) (fed++[⟨k,header,""⟩]) (slots++[(base+k,k)]) := by
  have hplac := h.placed.start (by rwa [← h.fed_keys])
  obtain ⟨pairs,rfl,rfl,rfl⟩ := h.pairs
  exact ⟨⟨pairs++[(base+k,⟨k,header,""⟩)],by simp [Pair.block],by simp,by simp [Pair.slot]⟩,hplac⟩

lemma Tallies.extend (hk : k∈writable) (piece : String) :
    Tallies base writable (Span.extend (base+k) piece sent) (Span.extend k piece fed) slots := by
  obtain ⟨l,r,hslt,hr⟩ := h.placed.writes k hk
  have hlast : k∉r.map Prod.snd := by
    have hd := h.placed.distinct
    rw [hslt,map_append,nodup_append,map_cons,nodup_cons] at hd
    exact hd.2.1.1
  refine ⟨?_,h.placed⟩
  obtain ⟨pairs,rfl,rfl,rfl⟩ := h.pairs
  obtain ⟨before,rest,rfl,rfl,hrest⟩ := map_eq_append_iff.mp hslt
  obtain ⟨x,after,rfl,hx,rfl⟩ := map_eq_cons_iff.mp hrest
  obtain ⟨hblc,hkey⟩ := Prod.mk.inj hx
  refine ⟨before++(x.1,x.2.grow piece)::after,?_,?_,by simp [Pair.slot,Span.grow]⟩
  · rw [map_append,map_cons,Span.extend_append_cons hblc (by rwa [keys_block]),map_append,map_cons]
    rfl
  · rw [map_append,map_cons,Span.extend_append_cons hkey (by rwa [keys_call]),map_append,map_cons]

lemma Tallies.regroup (hfresh : ∀ slot∈slots, slot.1<fresh) : Tallies fresh [] sent fed slots :=
  ⟨h.pairs,h.placed.regroup hfresh⟩
end
end

/-! A later chunk with tool calls. -/

section
variable {base : ℕ} {writable : List ℕ} {sent fed : Reading} {slots : List (ℕ × ℕ)}
section
variable (h : Tallies base writable sent.tools fed.tools slots)
include h
lemma Tallies.deliver
    (hnmd : call.2.name ≠ "" ↔ call.1∉Span.keys fed.tools)
    (hlnd : call.2.name = "" → call.2.arguments = "" ∨ call.1∈writable) :
    ∃ slots', Tallies base (if call.2.name ≠ "" then call.1::writable else writable) (sent.deliver base call).tools
        (fed.feedTool call).tools slots' ∧
      ∀ slot∈slots', slot∈slots ∨ slot.1=base+call.1 := by
  unfold Reading.deliver feedTool Reading.extend
  by_cases hname : call.2.name ≠ ""
  · have hnew := hnmd.mp hname
    rw [if_pos hname,if_pos hname,if_neg hnew]
    refine ⟨_,(h.start hnew (call.2.id,call.2.name)).extend mem_cons_self call.2.arguments,fun slot hslot => ?_⟩
    obtain hslot | hslot := mem_append.mp hslot
    · exact .inl hslot
    rw [mem_singleton.mp hslot]
    exact .inr rfl
  · have hknw : call.1∈Span.keys fed.tools := by
      by_contra hnot
      exact hname (hnmd.mpr hnot)
    rw [if_neg hname,if_neg hname,if_pos hknw]
    refine ⟨slots,?_,fun slot hslot => .inl hslot⟩
    obtain hargs | hmem := hlnd (not_not.mp hname)
    · rw [hargs,Span.extend_empty,Span.extend_empty]
      exact h
    · exact h.extend hmem call.2.arguments

lemma Tallies.foldl_deliver (hnmd : Named fed calls) (hlnd : Lands writable calls) :
    ∃ slots', Tallies base (begun writable calls) (calls.foldl (Reading.deliver base) sent).tools
        (calls.foldl feedTool fed).tools slots' ∧ ∀ slot∈slots', slot∈slots ∨ ∃ call∈calls, slot.1=base+call.1 := by
  induction calls generalizing writable sent fed slots with
  | nil => exact ⟨slots,h,fun slot hslot => .inl hslot⟩
  | cons call calls ih =>
    obtain ⟨slots₁,htall,hslt⟩ := h.deliver hnmd.1 hlnd.1
    obtain ⟨slots₂,hrest,hmore⟩ := ih htall hnmd.2 hlnd.2
    refine ⟨slots₂,hrest,fun slot hslot => ?_⟩
    obtain hslot | ⟨other,hoth,he⟩ := hmore slot hslot
    · obtain hold | he := hslt slot hslot
      · exact .inl hold
      · exact .inr ⟨call,mem_cons_self,he⟩
    · exact .inr ⟨other,mem_cons_of_mem _ hoth,he⟩

lemma Tallies.deliver_lost (hnmd : Named fed calls) (hlost : ¬Lands writable calls) :
    (calls.foldl (Reading.deliver base) sent).weight<sent.weight+callsWeight calls := by
  induction calls generalizing writable sent fed slots with
  | nil => exact absurd trivial hlost
  | cons call calls ih =>
    have hone := weight_deliver base sent call
    rw [foldl_cons,callsWeight_cons]
    by_cases hlnd : call.2.name = "" → call.2.arguments = "" ∨ call.1∈writable
    · obtain ⟨slots₁,htall,-⟩ := h.deliver hnmd.1 hlnd
      have := ih htall hnmd.2 fun hrest => hlost ⟨hlnd,hrest⟩
      omega
    obtain ⟨hname,hnot⟩ := Classical.not_imp.mp hlnd
    obtain ⟨hargs,hmem⟩ := not_or.mp hnot
    have hknw : call.1∈Span.keys fed.tools := by
      by_contra hnew
      exact hnmd.1.mpr hnew hname
    have hnowh : base+call.1∉Span.keys sent.tools := by
      rw [h.sent_keys]
      exact h.placed.nowhere call.1 (h.fed_keys ▸ hknw) hmem
    have hsame : sent.deliver base call=sent := by
      rw [Reading.deliver,if_neg (not_not.mpr hname),Reading.extend,Span.extend_of_not_mem hnowh]
    have hpos : 0<callWeight call := by
      have := mt String.length_eq_zero_iff.mp hargs
      unfold callWeight
      omega
    have := weight_foldl_deliver base sent calls
    rw [hsame]
    omega
end
end

/-! The cursor and the tools. -/

/-- Every block is below the next free index, and the tools tally in the group that the next call belongs to. -/
def Tracks (c : Cursor) (writable : List ℕ) (sent fed : List (Span (String × String))) : Prop :=
  ∃ slots, (∀ slot∈slots, slot.1<c.next) ∧ Tallies c.groupBase writable sent fed slots

variable {info : ClaudeConvertInfo} {toolCalls : List ToolCall} {chunk : Chunk}
lemma Tracks.content {sent fed : List (Span (String × String))}
    (h : Tracks info.cursor writable sent fed) (first : Bool) (delta : Delta) :
    Tracks (convertContent info first delta).1.cursor
      (if delta.getReasoningContent = "" ∧ delta.getContentString = "" then writable else []) sent fed := by
  split
  next hsil =>
    rw [convertContent_silent info first hsil]
    exact h
  next hspe =>
  obtain ⟨slots,hbnd,htall⟩ := h
  obtain ⟨htls,hnext⟩ := cursor_convertContent info first hspe
  have hfresh : ∀ slot∈slots, slot.1<(convertContent info first delta).1.cursor.next :=
    fun slot hslot => Nat.lt_of_lt_of_le (hbnd slot hslot) hnext
  refine ⟨slots,hfresh,?_⟩
  rw [groupBase,htls]
  exact htall.regroup hfresh

lemma Tracks.tools {sent : Reading} (h : Tracks info.cursor writable sent.tools fed.tools)
    (hnmd : Named fed (number 0 toolCalls)) (hlnd : Lands writable (number 0 toolCalls)) :
    Tracks (convertTools info toolCalls).1.cursor (begun writable (number 0 toolCalls))
      ((number 0 toolCalls).foldl (Reading.deliver info.cursor.groupBase) sent).tools
      ((number 0 toolCalls).foldl feedTool fed).tools := by
  obtain ⟨slots,hbnd,htall⟩ := h
  obtain ⟨htls,hbase,hnext,hcls⟩ := cursor_convertTools info toolCalls
  obtain ⟨slots',htl',hslt⟩ := htall.foldl_deliver hnmd hlnd
  refine ⟨slots',fun slot hslot => ?_,?_⟩
  · obtain hold | ⟨call,hcall,he⟩ := hslt slot hslot
    · exact Nat.lt_of_lt_of_le (hbnd slot hold) hnext
    rw [he]
    exact hcls call hcall
  · rw [groupBase,htls,if_pos rfl,hbase]
    exact htl'

def firstWritable : List ToolCall → List ℕ
  | [] => []
  | toolCall::_ => if toolCall.index.getD 0=0 then [0] else []

lemma tracks_first (hfed : fed.tools=[]) (hnmd : Named fed (number 0 toolCalls))
    (hrest : ∀ toolCall∈toolCalls.tail, toolCall.name = "" ∧ toolCall.arguments = "") :
    Tracks (convertFirstTool info toolCalls).1.cursor (firstWritable toolCalls)
      (Reading.empty.first toolCalls).tools ((number 0 toolCalls).foldl feedTool fed).tools := by
  cases toolCalls with
  | nil =>
    refine ⟨[],fun _ h => (not_mem_nil h).elim,⟨[],rfl,hfed,rfl⟩,nodup_nil,?_,
      ?_⟩ <;> exact fun _ h => (not_mem_nil h).elim
  | cons toolCall toolCalls =>
    have hbare : ∀ call∈number 1 toolCalls, call.2.name = "" ∧ call.2.arguments = "" :=
      (forall_number 1 toolCalls).mpr hrest
    have hnew : (toolCall.index.getD 0)∉Span.keys fed.tools := by
      rw [hfed]
      exact not_mem_nil
    have hone : (fed.feedTool (toolCall.index.getD 0,toolCall)).tools =
        [⟨toolCall.index.getD 0,(toolCall.id,toolCall.name),toolCall.arguments⟩] := by
      rw [feedTool,if_neg hnew]
      simp [Reading.start,Reading.extend,hfed,Span.extend,updateLast,Span.grow]
    rw [number,foldl_cons,foldl_feedTool_bare hnmd.2 hbare,hone]
    refine ⟨[(0,toolCall.index.getD 0)],?_,⟨[(0,⟨toolCall.index.getD 0,(toolCall.id,toolCall.name),
      toolCall.arguments⟩)],
      ?_,rfl,rfl⟩,?_⟩
    · intro slot hslot
      rw [mem_singleton.mp hslot]
      exact Nat.succ_pos _
    · simp [Reading.first,Reading.start,Reading.extend,Reading.empty,Span.extend,updateLast,Span.grow,Pair.block]
    · refine ⟨nodup_singleton _,fun k hk => ?_,fun k hk hnot => ?_⟩
      · rw [firstWritable] at hk
        split at hk
        next hzero =>
          obtain rfl := mem_singleton.mp hk
          exact ⟨[],[],by rw [hzero]; rfl,not_mem_nil⟩
        · exact (not_mem_nil hk).elim
      · obtain rfl := mem_singleton.mp hk
        have hne : toolCall.index.getD 0≠0 := by
          intro hzero
          rw [firstWritable,if_pos hzero,hzero] at hnot
          exact hnot (mem_singleton_self 0)
        intro hmem
        have := mem_singleton.mp hmem
        simp only [convertFirstTool,ClaudeConvertInfo.cursor,groupBase] at this
        simp at this
        omega

/-! One chunk, on both sides. -/

def Chunk.weight (chunk : Chunk) : ℕ :=
  chunk.content.length+chunk.reasoning.length+callsWeight (number 0 chunk.toolCalls)

lemma weight_feed (h : Named r (number 0 chunk.toolCalls)) : (r.feed chunk).weight=r.weight+chunk.weight := by
  have htls := weight_foldl_feedTool h
  have htxt : ∀ calls : List (ℕ × ToolCall), (calls.foldl feedTool r).text=r.text ∧
      (calls.foldl feedTool r).thinking=r.thinking := by
    intro calls
    induction calls using List.reverseRecOn with
    | nil => exact ⟨rfl,rfl⟩
    | append_singleton calls call ih =>
      rw [foldl_append,foldl_cons,foldl_nil,feedTool]
      split <;> exact ih
  simp only [weight,htxt] at htls
  simp only [Reading.feed,weight,Chunk.weight,String.length_append]
  omega

lemma weight_say (r : Reading) (chunk : Chunk) :
    (r.say chunk).weight ≤ r.weight+chunk.content.length+chunk.reasoning.length := by
  unfold Reading.say
  split
  · simp only [weight,String.length_append]
    omega
  · simp only [weight,String.length_append]
    omega

lemma weight_say_lost (r : Reading) (h : ¬(chunk.reasoning = "" ∨ chunk.content = "")) :
    (r.say chunk).weight < r.weight+chunk.content.length+chunk.reasoning.length := by
  obtain ⟨hreas,hcont⟩ := not_or.mp h
  have := mt String.length_eq_zero_iff.mp hcont
  unfold Reading.say
  rw [if_pos hreas]
  simp only [weight,String.length_append]
  omega

lemma say_of_one (r : Reading) (h : chunk.reasoning = "" ∨ chunk.content = "") :
    r.say chunk={ r with text := r.text++chunk.content, thinking := r.thinking++chunk.reasoning } := by
  unfold Reading.say
  split
  next hreas => simp [h.resolve_left hreas]
  next hsil => simp [not_not.mp hsil]

lemma weight_first (r : Reading) (h : ∀ toolCall∈toolCalls.head?, toolCall.name ≠ "") :
    (r.first toolCalls).weight+callsWeight (number 1 toolCalls.tail) ≤ r.weight+callsWeight (number 0 toolCalls) := by
  cases toolCalls with
  | nil => exact Nat.le_refl _
  | cons toolCall toolCalls =>
    have := Span.weight_extend_le 0 toolCall.arguments (r.start 0 toolCall.id toolCall.name).tools
    have hstr := weight_start 0 toolCall.id toolCall.name r
    have hname : toolCall.name ≠ "" := h toolCall rfl
    rw [number,callsWeight_cons,callWeight,if_pos hname]
    simp only [Reading.first,Reading.extend,weight,tail_cons,Nat.zero_add] at hstr this ⊢
    omega

lemma first_texts (r : Reading) (toolCalls : List ToolCall) :
    (r.first toolCalls).text=r.text ∧ (r.first toolCalls).thinking=r.thinking := by
  cases toolCalls with
  | nil | cons toolCall toolCalls => exact ⟨rfl,rfl⟩

lemma foldl_deliver_texts (base : ℕ) (r : Reading) (calls : List (ℕ × ToolCall)) :
    (calls.foldl (Reading.deliver base) r).text=r.text ∧
      (calls.foldl (Reading.deliver base) r).thinking=r.thinking := by
  induction calls generalizing r with
  | nil => exact ⟨rfl,rfl⟩
  | cons call calls ih =>
    have hone : (r.deliver base call).text=r.text ∧ (r.deliver base call).thinking=r.thinking := by
      unfold Reading.deliver
      split <;> exact ⟨rfl,rfl⟩
    rw [foldl_cons,(ih _).1,(ih _).2]
    exact hone

/-- A stream being converted, with what it was fed and the calls that can be continued. -/
structure Feed where
  conversion : Conversion
  fed : Reading
  writable : List ℕ

def Chunk.Bare (chunk : Chunk) : Prop :=
  chunk.content = "" ∧ chunk.reasoning = "" ∧ ∀ toolCall∈chunk.toolCalls, toolCall.name = "" ∧ toolCall.arguments = ""

lemma Chunk.Bare.feed (h : chunk.Bare) (hnmd : Named r (number 0 chunk.toolCalls)) : r.feed chunk=r := by
  obtain ⟨hcont,hreas,hcls⟩ := h
  rw [Reading.feed,foldl_feedTool_bare hnmd ((forall_number 0 _).mpr hcls),hcont,hreas]
  simp

lemma Chunk.weight_pos (h : ¬chunk.Bare) : 0<chunk.weight := by
  rw [Nat.pos_iff_ne_zero]
  intro hzero
  unfold Chunk.weight at hzero
  apply h
  refine ⟨String.length_eq_zero_iff.mp (by omega),String.length_eq_zero_iff.mp (by omega),?_⟩
  exact (forall_number 0 _).mp (bare_of_callsWeight (by omega))

namespace Feed

def start : Feed := ⟨.start,.empty,[]⟩

def sent (s : Feed) : Reading := s.conversion.output.foldl Reading.hear .empty

def Passes (s : Feed) (chunk : Chunk) : Prop :=
  s.conversion.info.done=true ∨ (s.conversion.count≠0 ∧ chunk.deferred=true)

instance (s : Feed) (chunk : Chunk) : Decidable (s.Passes chunk) := inferInstanceAs (Decidable (_ ∨ _))

def writes (s : Feed) (chunk : Chunk) : List ℕ :=
  if s.Passes chunk then s.writable
  else if s.conversion.count≠0 ∧ chunk.toolCalls≠[] then begun s.writable (number 0 chunk.toolCalls)
  else if chunk.reasoning = "" ∧ chunk.content = "" then
    if s.conversion.count=0 then firstWritable chunk.toolCalls else s.writable
  else []

def step (env : ConvertEnv) (s : Feed) (chunk : Chunk) : Option Feed :=
  (s.conversion.step env chunk).map fun conversion => ⟨conversion,s.fed.feed chunk,s.writes chunk⟩

def WellNamed (s : Feed) (chunk : Chunk) : Prop := Named s.fed (number 0 chunk.toolCalls)

def Kept (s : Feed) (chunk : Chunk) : Prop :=
  if s.Passes chunk then chunk.Bare
  else if s.conversion.count=0 then
    (chunk.reasoning = "" ∨ chunk.content = "") ∧
      ∀ toolCall∈chunk.toolCalls.tail, toolCall.name = "" ∧ toolCall.arguments = ""
  else if chunk.toolCalls≠[] then
    (chunk.content = "" ∧ chunk.reasoning = "") ∧ Lands s.writable (number 0 chunk.toolCalls)
  else chunk.reasoning = "" ∨ chunk.content = ""

variable {env : ConvertEnv} {s t : Feed} {chunk : Chunk}
lemma step_cases (h : s.step env chunk=some t) :
    (t.conversion.count≠0 ∧ t.fed=s.fed.feed chunk ∧ t.writable=s.writes chunk) ∧
    ((s.Passes chunk ∧ t.conversion.info.cursor=s.conversion.info.cursor ∧ t.sent=s.sent) ∨
    (¬s.Passes chunk ∧ s.conversion.count=0 ∧ ∃ info : ClaudeConvertInfo,
      t.conversion.info.cursor=(convertContent (convertFirstTool info chunk.toolCalls).1 true chunk.delta).1.cursor ∧
      t.sent=(s.sent.first chunk.toolCalls).say chunk) ∨
    (¬s.Passes chunk ∧ s.conversion.count≠0 ∧ ∃ info : ClaudeConvertInfo, info.cursor=s.conversion.info.cursor ∧
      t.conversion.info.cursor=(convertDelta info chunk.delta).1.cursor ∧
      t.sent=if chunk.toolCalls≠[] then
          (number 0 chunk.toolCalls).foldl (Reading.deliver info.cursor.groupBase) s.sent
        else s.sent.say chunk)) := by
  simp only [step,Conversion.step,Option.map_some,Option.some.injEq] at h
  subst h
  refine ⟨⟨Nat.succ_ne_zero _,rfl,rfl⟩,?_⟩
  simp only [sent,foldl_append]
  generalize s.conversion.output.foldl Reading.hear .empty=r
  unfold streamResponseOpenAI2Claude
  by_cases hdone : s.conversion.info.done=true
  · rw [if_pos (by exact hdone)]
    exact .inl ⟨.inl hdone,rfl,rfl⟩
  rw [if_neg (by exact hdone)]
  by_cases hcnt : s.conversion.count=0
  · obtain ⟨hcurs,hread⟩ := convert_first env (s.conversion.info.keepUsage chunk) chunk
    rw [if_pos (by rw [hcnt])]
    exact .inr (.inl ⟨fun hpass => (hpass.resolve_left hdone).1 hcnt,hcnt,_,hcurs,hread r⟩)
  rw [if_neg (by omega)]
  by_cases hdfr : chunk.deferred=true
  · obtain ⟨choice,he⟩ := convertLater_deferred env (s.conversion.info.keepUsage chunk) hdfr
    rw [he]
    exact .inl ⟨.inr ⟨hcnt,hdfr⟩,rfl,rfl⟩
  obtain ⟨info,hinfo,hcurs,hread⟩ :=
    convert_later env (s.conversion.info.keepUsage chunk) (Bool.eq_false_iff.mpr hdfr)
  refine .inr (.inr ⟨fun hpass => hdfr (hpass.resolve_left hdone).2,hcnt,info,hinfo,hcurs,?_⟩)
  rw [hinfo]
  exact hread r

structure Faithful (s : Feed) : Prop where
  text : s.sent.text=s.fed.text
  thinking : s.sent.thinking=s.fed.thinking
  tools : Tracks s.conversion.info.cursor s.writable s.sent.tools s.fed.tools
  fresh : s.conversion.count=0 → s.sent=.empty ∧ s.fed.tools=[]

def Lost (s : Feed) : Prop := s.conversion.count≠0 ∧ s.sent.weight<s.fed.weight

lemma faithful_start : start.Faithful := by
  refine ⟨rfl,rfl,⟨[],fun _ h => (not_mem_nil h).elim,⟨[],rfl,rfl,rfl⟩,nodup_nil,?_,?_⟩,fun _ => ⟨rfl,rfl⟩⟩
  · exact fun _ h => (not_mem_nil h).elim
  · exact fun _ h => (not_mem_nil h).elim

lemma Faithful.same (h : s.Faithful) : s.sent.Same s.fed := by
  obtain ⟨slots,-,htall⟩ := h.tools
  exact ⟨h.text,h.thinking,htall.content_eq⟩

lemma Faithful.step (h : s.Faithful) (hnmd : s.WellNamed chunk) (hkept : s.Kept chunk)
    (hstep : s.step env chunk=some t) : t.Faithful := by
  obtain ⟨⟨hcnt,hfed,hwrit⟩,hpass | ⟨hnot,hzero,info,hcurs,hsent⟩ | ⟨hnot,hltr,info,hinfo,hcurs,hsent⟩⟩ :=
    step_cases hstep
  · obtain ⟨hpas,hcurs,hsent⟩ := hpass
    rw [Kept,if_pos hpas] at hkept
    rw [hkept.feed hnmd] at hfed
    rw [writes,if_pos hpas] at hwrit
    refine ⟨?_,?_,?_,fun hzero => absurd hzero hcnt⟩
    · rw [hsent,hfed,h.text]
    · rw [hsent,hfed,h.thinking]
    · rw [hcurs,hwrit,hsent,hfed]
      exact h.tools
  · -- the first chunk
    obtain ⟨hemp,hnone⟩ := h.fresh hzero
    rw [Kept,if_neg hnot,if_pos hzero] at hkept
    rw [say_of_one _ hkept.1] at hsent
    rw [writes,if_neg hnot,if_neg fun hor => hor.1 hzero,if_pos hzero] at hwrit
    refine ⟨?_,?_,?_,fun hzero => absurd hzero hcnt⟩
    · rw [hsent,hfed,(first_texts _ _).1,h.text]
      rfl
    · rw [hsent,hfed,(first_texts _ _).2,h.thinking]
      rfl
    · rw [hcurs,hwrit,hsent,hfed,hemp]
      exact (tracks_first hnone hnmd hkept.2).content true chunk.delta
  · rw [Kept,if_neg hnot,if_neg hltr] at hkept
    rw [writes,if_neg hnot] at hwrit
    have htrac := h.tools
    rw [← hinfo] at htrac
    by_cases hcls : chunk.toolCalls≠[]
    · rw [if_pos hcls] at hkept hsent
      rw [if_pos ⟨hltr,hcls⟩] at hwrit
      obtain ⟨⟨hcont,hreas⟩,hlnd⟩ := hkept
      rw [convertDelta,← toolCalls_eq,if_pos hcls] at hcurs
      refine ⟨?_,?_,?_,fun hzero => absurd hzero hcnt⟩
      · rw [hsent,hfed,(foldl_deliver_texts _ _ _).1,h.text]
        simp [Reading.feed,hcont]
      · rw [hsent,hfed,(foldl_deliver_texts _ _ _).2,h.thinking]
        simp [Reading.feed,hreas]
      · rw [hcurs,hwrit,hsent,hfed]
        exact htrac.tools hnmd hlnd
    · have hnil := not_not.mp hcls
      rw [if_neg hcls] at hkept hsent
      rw [say_of_one _ hkept] at hsent
      rw [if_neg fun hand => hcls hand.2,if_neg hltr] at hwrit
      rw [convertDelta,← toolCalls_eq,if_neg hcls] at hcurs
      have hfed' : t.fed.tools=s.fed.tools := by
        rw [hfed,Reading.feed,hnil]
        rfl
      refine ⟨?_,?_,?_,fun hzero => absurd hzero hcnt⟩
      · rw [hsent,hfed,h.text]
        rfl
      · rw [hsent,hfed,h.thinking]
        rfl
      · rw [hcurs,hwrit,hsent,hfed']
        exact htrac.content false chunk.delta

lemma Faithful.lost (h : s.Faithful) (hnmd : s.WellNamed chunk) (hkept : ¬s.Kept chunk)
    (hstep : s.step env chunk=some t) : t.Lost := by
  obtain ⟨⟨hcnt,hfed,-⟩,hcs⟩ := step_cases hstep
  refine ⟨hcnt,?_⟩
  rw [hfed,weight_feed hnmd,← h.same.weight_eq]
  obtain ⟨hpass,-,hsent⟩ | ⟨hnot,hzero,info,-,hsent⟩ | ⟨hnot,hltr,info,hinfo,-,hsent⟩ := hcs
  · rw [Kept,if_pos hpass] at hkept
    have := Chunk.weight_pos hkept
    rw [hsent]
    omega
  · rw [Kept,if_neg hnot,if_pos hzero] at hkept
    have hname : ∀ toolCall∈chunk.toolCalls.head?, toolCall.name ≠ "" := by
      intro toolCall htool
      unfold WellNamed at hnmd
      obtain ⟨toolCalls,he⟩ := List.head?_eq_some_iff.mp htool
      rw [he,number,Named,(h.fresh hzero).2] at hnmd
      exact hnmd.1.mpr not_mem_nil
    have hfrs := weight_first s.sent hname
    rw [hsent,Chunk.weight]
    by_cases hone : chunk.reasoning = "" ∨ chunk.content = ""
    · have hrest : callsWeight (number 1 chunk.toolCalls.tail)≠0 :=
        fun hnone => hkept ⟨hone,(forall_number 1 _).mp (bare_of_callsWeight hnone)⟩
      have := weight_say (s.sent.first chunk.toolCalls) chunk
      omega
    · have := weight_say_lost (s.sent.first chunk.toolCalls) hone
      omega
  · rw [Kept,if_neg hnot,if_neg hltr] at hkept
    rw [hsent,Chunk.weight]
    by_cases hcls : chunk.toolCalls≠[]
    · rw [if_pos hcls] at hkept ⊢
      by_cases hlnd : Lands s.writable (number 0 chunk.toolCalls)
      · have hspe : chunk.content.length+chunk.reasoning.length≠0 := by
          intro hzero
          apply hkept
          exact ⟨⟨String.length_eq_zero_iff.mp (by omega),String.length_eq_zero_iff.mp (by omega)⟩,hlnd⟩
        have := weight_foldl_deliver info.cursor.groupBase s.sent (number 0 chunk.toolCalls)
        omega
      obtain ⟨slots,-,htall⟩ := h.tools
      have := htall.deliver_lost hnmd hlnd
      rw [hinfo]
      omega
    · rw [if_neg hcls] at hkept ⊢
      have := weight_say_lost s.sent hkept
      omega

lemma Lost.step (h : s.Lost) (hnmd : s.WellNamed chunk) (hstep : s.step env chunk=some t) : t.Lost := by
  obtain ⟨hltr,hless⟩ := h
  obtain ⟨⟨hcnt,hfed,-⟩,hcs⟩ := step_cases hstep
  refine ⟨hcnt,?_⟩
  rw [hfed,weight_feed hnmd]
  obtain ⟨-,-,hsent⟩ | ⟨-,hzero,-⟩ | ⟨-,-,info,-,-,hsent⟩ := hcs
  · rw [hsent]
    omega
  · exact absurd hzero hltr
  rw [hsent,Chunk.weight]
  split
  · have := weight_foldl_deliver info.cursor.groupBase s.sent (number 0 chunk.toolCalls)
    omega
  · have := weight_say s.sent chunk
    omega

lemma fed_eq {ok : Feed → Chunk → Prop} {chunks : List Chunk} (h : Runs (step env) ok s chunks t) :
    t.fed=chunks.foldl Reading.feed s.fed := by
  induction h with
  | nil s => rfl
  | @cons s u t chunk chunks fires _ _ ih => rw [ih,(step_cases fires).1.2.1,foldl_cons]

/-- The client reads all that the chunks carry exactly if every chunk is one that is handed on whole. -/
theorem reads_all_iff_kept (env : ConvertEnv) {chunks : List Chunk} {s : Feed}
    (h : Runs (step env) WellNamed start chunks s) :
    s.sent.Same (chunks.foldl Reading.feed .empty) ↔
      Runs (step env) (fun s chunk => s.WellNamed chunk ∧ s.Kept chunk) start chunks s := by
  constructor
  · intro hsame
    have hor := h.good_or_lost (fun _ _ _ hs hnmd hkept hstep => hs.step hnmd hkept hstep)
      (fun _ _ _ hs hnmd hkept hstep => hs.lost hnmd hkept hstep)
      (fun _ _ _ hs hnmd hstep => hs.step hnmd hstep) faithful_start
    refine (hor.resolve_right fun hlost => ?_).2
    have hweig := hsame.weight_eq
    rw [← show start.fed=Reading.empty from rfl,← fed_eq h] at hweig
    exact absurd hlost.2 (by omega)
  · intro hkept
    have hfait : s.Faithful := by
      refine hkept.invariant Faithful ?_ faithful_start
      exact fun _ _ _ hs hok hstep => hs.step hok.1 hok.2 hstep
    have hsame := hfait.same
    rw [fed_eq h] at hsame
    exact hsame

/-! Deciding the conditions on a stream. -/

instance decidableNamed : (r : Reading) → (calls : List (ℕ × ToolCall)) → Decidable (Named r calls)
  | _,[] => inferInstanceAs (Decidable True)
  | r,call::calls =>
    have := decidableNamed (r.feedTool call) calls
    inferInstanceAs (Decidable ((_ ↔ _) ∧ _))

instance decidableLands : (writable : List ℕ) → (calls : List (ℕ × ToolCall)) → Decidable (Lands writable calls)
  | _,[] => inferInstanceAs (Decidable True)
  | writable,call::calls =>
    have := decidableLands (if call.2.name ≠ "" then call.1::writable else writable) calls
    inferInstanceAs (Decidable ((_ → _) ∧ _))

instance (chunk : Chunk) : Decidable chunk.Bare := inferInstanceAs (Decidable (_ ∧ _ ∧ _))

instance (s : Feed) (chunk : Chunk) : Decidable (s.WellNamed chunk) := decidableNamed _ _

instance (s : Feed) (chunk : Chunk) : Decidable (s.Kept chunk) := inferInstanceAs (Decidable (ite _ _ _))

instance (r r' : Reading) : Decidable (r.Same r') := inferInstanceAs (Decidable (_ ∧ _ ∧ _))

open Conversion (plainConvert chunkOf saying thinkingOf calling finishing newTool moreOf)

def oneKindAtATime : List Chunk :=
  [saying "",thinkingOf "why",saying "because",calling [newTool 0 "[",newTool 1 "["],
    calling [moreOf 1 "1]",moreOf 0 "0]"],finishing]

theorem oneKindAtATime_reads_all :
    ∃ s, Runs (step plainConvert) (fun s chunk => s.WellNamed chunk ∧ s.Kept chunk) start oneKindAtATime s ∧
      s.sent=⟨"because","why",[⟨2,("call","tool"),"[0]"⟩,⟨3,("call","tool"),"[1]"⟩]⟩ ∧
      s.sent.Same (oneKindAtATime.foldl Reading.feed .empty) := by
  obtain ⟨s,-,hruns,hsent⟩ := checked_run (step plainConvert) (fun s chunk => s.WellNamed chunk ∧ s.Kept chunk) start
    oneKindAtATime
    (fun s => s.sent=⟨"because","why",[⟨2,("call","tool"),"[0]"⟩,⟨3,("call","tool"),"[1]"⟩]⟩) (by decide +kernel)
  exact ⟨s,hruns,hsent,(reads_all_iff_kept plainConvert (hruns.imp fun _ _ => And.left)).mpr hruns⟩

def bothAtOnce : List Chunk := [saying "",chunkOf ⟨some "because",some "why",none,[]⟩,finishing]

/-- The last text comes with the finish reason, and the usage in a chunk of its own: the chunk is put off and never
taken up again. -/
def textWithFinish : List Chunk :=
  [saying "to",⟨"chat","model",[⟨⟨some " be",none,none,[]⟩,some "stop"⟩],none⟩,
    ⟨"chat","model",[],some Pricing.Usage.zero⟩]

theorem bothAtOnce_textWithFinish_lose :
    (∃ s, Runs (step plainConvert) WellNamed start bothAtOnce s ∧ s.conversion.info.done=true ∧
      s.sent.text = "" ∧ ¬s.sent.Same (bothAtOnce.foldl Reading.feed .empty)) ∧
    ∃ s, Runs (step plainConvert) WellNamed start textWithFinish s ∧ s.conversion.info.done=true ∧
      s.sent.text = "to" ∧ ¬s.sent.Same (textWithFinish.foldl Reading.feed .empty) := by
  constructor
  · obtain ⟨s,-,hend⟩ := checked_run (step plainConvert) WellNamed start bothAtOnce (fun s => s.conversion.info.done=true ∧
      s.sent.text = "" ∧ ¬s.sent.Same (bothAtOnce.foldl Reading.feed .empty)) (by decide +kernel)
    exact ⟨s,hend⟩
  · obtain ⟨s,-,hend⟩ := checked_run (step plainConvert) WellNamed start textWithFinish (fun s => s.conversion.info.done=true ∧
      s.sent.text = "to" ∧ ¬s.sent.Same (textWithFinish.foldl Reading.feed .empty)) (by decide +kernel)
    exact ⟨s,hend⟩
end Feed
end AronaApi.Claude
