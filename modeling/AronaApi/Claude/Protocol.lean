import AronaApi.Claude.Stream

/-! The content-block protocol of the converted stream. What the converter remembers describes the blocks that
are open, as long as each tool call is numbered from the start of its group: the converter adds the index of a
call to the index at which the present group of tools began. -/
namespace AronaApi.Claude
open Schedule List ClaudeConvertInfo ClaudeResponse

inductive BlockKind
  | text
  | thinking
  | toolUse
  deriving DecidableEq

def ContentBlock.kind : ContentBlock → BlockKind
  | .text => .text
  | .thinking => .thinking
  | .toolUse _ _ => .toolUse

def ContentDelta.kind : ContentDelta → BlockKind
  | .textDelta _ => .text
  | .thinkingDelta _ => .thinking
  | .inputJsonDelta _ => .toolUse

def ClaudeResponse.block : ClaudeResponse → BlockEvent BlockKind
  | .contentBlockStart index block => .start index block.kind
  | .contentBlockDelta index delta => .delta index delta.kind
  | .contentBlockStop index => .stop index
  | .messageStop => .finish
  | .messageStart _ _ _ | .messageDelta _ _ => .other

/-- The number of tools announced so far, if the calls carry contiguous indices and names in first deltas only. -/
def announce : ℕ → List ToolCall → Option ℕ
  | n,[] => some n
  | n,toolCall::toolCalls =>
    if toolCall.index=some n ∧ toolCall.name ≠ "" then announce (n+1) toolCalls
    else if (∃ k∈toolCall.index, k<n) ∧ toolCall.name = "" then announce n toolCalls
    else none

def Chunk.toolCalls (chunk : Chunk) : List ToolCall := (chunk.choices.head?.map fun c => c.delta.toolCalls).getD []

def Chunk.deferred (chunk : Chunk) : Bool :=
  (chunk.choices.head?.bind Choice.finish).isSome && chunk.usage.isNone

def ClaudeConvertInfo.keepUsage (info : ClaudeConvertInfo) (chunk : Chunk) : ClaudeConvertInfo :=
  { info with usage := chunk.usage.or info.usage }

def ClaudeConvertInfo.group (info : ClaudeConvertInfo) : ℕ :=
  if info.lastMessagesType=.tools then info.toolCallMaxIndexOffset+1 else 0

/-- A stream being converted: how many chunks came, what the converter remembers, how many tools the chunks
announced, and what was sent. -/
structure Conversion where
  count : ℕ
  info : ClaudeConvertInfo
  announced : ℕ
  output : List ClaudeResponse

namespace Conversion

def start : Conversion := ⟨0,⟨.none,0,none,"",false,0,0⟩,0,[]⟩

/-- `handleClaudeFormat`: the usage of a chunk is kept for later ones. -/
def step (env : ConvertEnv) (s : Conversion) (chunk : Chunk) : Option Conversion :=
  let (next,events) := streamResponseOpenAI2Claude env (s.count+1) (s.info.keepUsage chunk) chunk
  some ⟨s.count+1,next,(announce s.announced chunk.toolCalls).getD s.announced,s.output++events⟩

def WellFed (s : Conversion) (chunk : Chunk) : Prop := (announce s.announced chunk.toolCalls).isSome=true

/-- The tool calls that a later chunk hands to the converter are numbered from the start of the group of tools
that the converter is writing. -/
def InGroup (s : Conversion) (chunk : Chunk) : Prop :=
  s.info.done=true ∨ s.count=0 ∨ chunk.deferred=true ∨ (announce s.info.group chunk.toolCalls).isSome=true
end Conversion

/-! What the events do to the open blocks. -/

/-- The events can be sent when the blocks are `b`, and leave `c`. -/
def Follows (b : Blocks BlockKind) (events : List ClaudeResponse) (c : Blocks BlockKind) : Prop :=
  exec Blocks.step b (events.map block)=some c

lemma Follows.nil (b : Blocks BlockKind) : Follows b [] b := rfl

variable {b c : Blocks BlockKind} {events : List ClaudeResponse} {info : ClaudeConvertInfo}
   {toolCalls : List ToolCall} {index n m : ℕ} {chunk : Chunk}

variable {d : Blocks BlockKind}
lemma Follows.append {more : List ClaudeResponse} (h : Follows b events c)
    (hmore : Follows c more d) : Follows b (events++more) d := by
  unfold Follows at h hmore ⊢
  rw [map_append,exec_append,h]
  exact hmore

variable {e : ClaudeResponse}
lemma Follows.cons (h : b.step e.block=some c) (hmore : Follows c events d) : Follows b (e::events) d := by
  unfold Follows at hmore ⊢
  rw [map_cons,exec,h]
  exact hmore

lemma Follows.single (h : b.step e.block=some c) : Follows b [e] c :=
  .cons h (.nil c)

lemma follows_start (b : Blocks BlockKind) (block : ContentBlock) :
    Follows b [.contentBlockStart b.next block] ⟨b.next+1,b.opened++[(b.next,block.kind)]⟩ :=
  .single (if_pos rfl)

variable {delta : ContentDelta}
lemma follows_delta (h : (index,delta.kind)∈b.opened) : Follows b [.contentBlockDelta index delta] b :=
  .single (if_pos h)

/-- Tool blocks at these offsets from index `base`. -/
def toolBlocks (base : ℕ) (offsets : List ℕ) : List (ℕ × BlockKind) :=
  offsets.map fun offset => (base+offset,.toolUse)

lemma mem_toolBlocks {base k : ℕ} (h : k<n) : (base+k,.toolUse)∈toolBlocks base (List.range n) :=
  mem_map.mpr ⟨k,mem_range.mpr h,rfl⟩

lemma toolBlocks_succ (base n : ℕ) :
    toolBlocks base (List.range (n+1))=toolBlocks base (List.range n)++[(base+n,.toolUse)] := by
  rw [toolBlocks,range_succ,map_append]
  rfl

/-- `n` open tools from index `base` on. -/
def groupBlocks (base n : ℕ) : Blocks BlockKind := ⟨base+n,toolBlocks base (List.range n)⟩

def ClaudeConvertInfo.blocks (info : ClaudeConvertInfo) : Blocks BlockKind :=
  match info.lastMessagesType with
  | .none => ⟨info.index,[]⟩
  | .text => ⟨info.index+1,[(info.index,.text)]⟩
  | .thinking => ⟨info.index+1,[(info.index,.thinking)]⟩
  | .tools => groupBlocks info.toolCallBaseIndex (info.toolCallMaxIndexOffset+1)

lemma follows_stop_toolBlocks (next base : ℕ) {offsets : List ℕ} (h : offsets.Nodup) :
    Follows ⟨next,toolBlocks base offsets⟩ (offsets.map fun offset => .contentBlockStop (base+offset)) ⟨next,[]⟩ := by
  induction offsets with
  | nil => exact .nil _
  | cons offset offsets ih =>
    rw [nodup_cons] at h
    refine .cons (c := ⟨next,toolBlocks base offsets⟩) ?_ (ih h.2)
    -- only the first of the blocks has that index
    have hkeep : (toolBlocks base offsets).filter (fun block => block.1≠base+offset)=toolBlocks base offsets := by
      rw [filter_eq_self]
      intro block hblc
      obtain ⟨other,hoth,rfl⟩ := mem_map.mp hblc
      have hne : other≠offset := fun he => h.1 (he ▸ hoth)
      simpa using hne
    simp only [block,Blocks.step]
    rw [if_pos (by simp [toolBlocks])]
    simpa [toolBlocks] using hkeep

lemma follows_stopOpenBlocks (info : ClaudeConvertInfo) :
    Follows info.blocks (stopOpenBlocks info) ⟨info.blocks.next,[]⟩ := by
  unfold stopOpenBlocks blocks
  cases info.lastMessagesType with
  | none => exact .nil _
  | text | thinking => exact .single (by simp [block,Blocks.step])
  | tools => exact follows_stop_toolBlocks _ _ nodup_range

lemma follows_advance (info : ClaudeConvertInfo) :
    Follows info.blocks (stopOpenBlocksAndAdvance info).2 ⟨(stopOpenBlocksAndAdvance info).1.index,[]⟩ := by
  have h := follows_stopOpenBlocks info
  unfold stopOpenBlocksAndAdvance
  unfold blocks at h ⊢
  cases hl : info.lastMessagesType with
  | none => exact .nil _
  | text | thinking | tools =>
    rw [hl] at h
    exact h

variable {first : Bool}
lemma follows_writeContent {type : LastMessageType} {block : ContentBlock}
    (htype : ∀ i : ClaudeConvertInfo, { i with lastMessagesType := type }.blocks=⟨i.index+1,[(i.index,block.kind)]⟩)
    (hkind : delta.kind=block.kind) (hfrs : first=true → info.lastMessagesType≠type) :
    Follows info.blocks (writeContent info first type block delta).2
      (writeContent info first type block delta).1.blocks := by
  unfold writeContent
  by_cases hlast : info.lastMessagesType=type
  · have hno : ¬(first=true ∨ info.lastMessagesType≠type) := by
      rintro (hf | hne)
      · exact hfrs hf hlast
      · exact hne hlast
    have hbloc : info.blocks=⟨info.index+1,[(info.index,block.kind)]⟩ := by rw [← htype info,← hlast]
    simp only [if_neg (not_not.mpr hlast),if_neg hno,htype,hbloc]
    exact follows_delta (by simp [hkind])
  · simp only [if_pos hlast,if_pos (.inr hlast : first=true ∨ info.lastMessagesType≠type),htype]
    refine ((follows_advance info).append (follows_start _ block)).append (follows_delta ?_)
    simp [hkind]

lemma follows_convertContent (first : Bool) (delta : Delta)
    (hfrs : first=true → info.lastMessagesType=.none ∨ info.lastMessagesType=.tools) :
    Follows info.blocks (convertContent info first delta).2 (convertContent info first delta).1.blocks := by
  have hne : ∀ type : LastMessageType, type≠.none → type≠.tools → first=true → info.lastMessagesType≠type := by
    intro type hn ht hf he
    obtain h | h := hfrs hf
    · exact hn (he.symm.trans h)
    · exact ht (he.symm.trans h)
  unfold convertContent
  split
  · exact follows_writeContent (fun _ => rfl) rfl (hne .thinking nofun nofun)
  split
  · exact follows_writeContent (fun _ => rfl) rfl (hne .text nofun nofun)
  · exact .nil _

variable {delta : Delta}
lemma convertContent_tools (h : (convertContent info first delta).1.lastMessagesType=.tools) :
    (convertContent info first delta).1=info := by
  unfold convertContent at h ⊢
  split
  next hr =>
    rw [if_pos hr] at h
    cases h
  next hr =>
  rw [if_neg hr] at h
  split
  next hc =>
    rw [if_pos hc] at h
    cases h
  · rfl

lemma le_of_announce (h : announce n toolCalls=some m) : n ≤ m ∧ (toolCalls≠[] → 1 ≤ m) := by
  induction toolCalls generalizing n with
  | nil =>
    cases h
    exact ⟨le_refl _,fun hne => (hne rfl).elim⟩
  | cons toolCall toolCalls ih =>
    simp only [announce] at h
    split at h
    · have := (ih h).1
      exact ⟨by omega,fun _ => by omega⟩
    split at h
    next hold =>
      have hle := (ih h).1
      obtain ⟨k,-,hkn⟩ := hold.1
      exact ⟨hle,fun _ => by omega⟩
    · cases h

lemma follows_toolDelta (toolCall : ToolCall) (h : (index,.toolUse)∈b.opened) :
    Follows b (if toolCall.arguments ≠ "" then [.contentBlockDelta index (.inputJsonDelta toolCall.arguments)] else []) b := by
  split
  · exact follows_delta h
  · exact .nil b

lemma follows_toolCallsLoop (base i : ℕ) (h : announce n toolCalls=some m) :
    (toolCallsLoop base i (n-1) toolCalls).1=m-1 ∧
      Follows (groupBlocks base n) (toolCallsLoop base i (n-1) toolCalls).2 (groupBlocks base m) := by
  induction toolCalls generalizing n i with
  | nil =>
    cases h
    exact ⟨rfl,.nil _⟩
  | cons toolCall toolCalls ih =>
    simp only [announce] at h
    split at h
    next hnew =>
      -- a new tool starts the next block
      have hoffs : toolCall.index.getD i=n := by rw [hnew.1,Option.getD_some]
      have hmax : max (n-1) n=n+1-1 := by omega
      have hrest := ih (i+1) h
      simp only [toolCallsLoop,hoffs,hmax]
      refine ⟨hrest.1,Follows.append ?_ hrest.2⟩
      unfold toolCallEvents
      rw [if_pos hnew.2]
      have hstr : Follows (groupBlocks base n)
          [.contentBlockStart (base+n) (.toolUse toolCall.id toolCall.name)] (groupBlocks base (n+1)) := by
        rw [groupBlocks,groupBlocks,toolBlocks_succ]
        exact follows_start ⟨base+n,_⟩ _
      exact hstr.append (follows_toolDelta toolCall (mem_toolBlocks (Nat.lt_succ_self n)))
    · split at h
      next hold =>
        -- a tool that is open already
        obtain ⟨k,hk,hkn⟩ := hold.1
        have hoffs : toolCall.index.getD i=k := by rw [Option.mem_def.mp hk,Option.getD_some]
        have hmax : max (n-1) k=n-1 := by omega
        have hrest := ih (i+1) h
        simp only [toolCallsLoop,hoffs,hmax]
        refine ⟨hrest.1,Follows.append ?_ hrest.2⟩
        unfold toolCallEvents
        rw [if_neg (not_not.mpr hold.2),nil_append]
        exact follows_toolDelta toolCall (mem_toolBlocks hkn)
      · cases h

lemma follows_group (info : ClaudeConvertInfo) (toolCalls : List ToolCall) :
    ∃ base stops, Follows info.blocks stops (groupBlocks base info.group) ∧ convertTools info toolCalls =
        ({ (convertTools info toolCalls).1 with
            lastMessagesType := .tools
            toolCallBaseIndex := base
            toolCallMaxIndexOffset := (toolCallsLoop base 0 (info.group-1) toolCalls).1 },
          stops++(toolCallsLoop base 0 (info.group-1) toolCalls).2) := by
  by_cases hlast : info.lastMessagesType=.tools
  · refine ⟨info.toolCallBaseIndex,[],?_,?_⟩
    · rw [blocks,hlast,group,if_pos hlast]
      exact .nil _
    · simp only [convertTools,group,if_pos hlast,if_neg (not_not.mpr hlast),Nat.add_sub_cancel]
  refine ⟨(stopOpenBlocksAndAdvance info).1.index,(stopOpenBlocksAndAdvance info).2,?_,?_⟩
  · rw [group,if_neg hlast]
    exact follows_advance info
  · simp only [convertTools,group,if_neg hlast,if_pos hlast,ne_eq]

lemma follows_convertTools (hne : toolCalls≠[]) (h : announce info.group toolCalls=some m) :
    Follows info.blocks (convertTools info toolCalls).2 (convertTools info toolCalls).1.blocks := by
  have hm : m-1+1=m := Nat.sub_add_cancel ((le_of_announce h).2 hne)
  obtain ⟨base,stops,hstp,heq⟩ := follows_group info toolCalls
  obtain ⟨hmax,hfoll⟩ := follows_toolCallsLoop base 0 h
  rw [heq]
  simp only [blocks,hmax,hm]
  exact hstp.append hfoll

lemma follows_closeMessage (info : ClaudeConvertInfo) (usage : Option Pricing.Usage) (stopReason : String) :
    Follows info.blocks (closeMessage info usage stopReason).2 ⟨info.blocks.next,[]⟩ := by
  have hfin : Follows ⟨info.blocks.next,[]⟩ [.messageStop] ⟨info.blocks.next,[]⟩ := .single rfl
  refine ((follows_stopOpenBlocks info).append ?_).append hfin
  cases usage with
  | none => exact .nil _
  | some u => exact .single rfl

/-- The events of a chunk can be sent, and unless they end the message the converter knows the open blocks. -/
def Converts (b : Blocks BlockKind) (r : ClaudeConvertInfo × List ClaudeResponse) : Prop :=
  ∃ c, Follows b r.2 c ∧ (r.1.done=false → c=r.1.blocks)

lemma Converts.close (h : Follows b events info.blocks) (usage : Option Pricing.Usage) (stopReason : String) :
    Converts b ((closeMessage info usage stopReason).1,events++(closeMessage info usage stopReason).2) :=
  ⟨_,h.append (follows_closeMessage info usage stopReason),fun hdone => Bool.noConfusion hdone⟩

lemma follows_convertFirstTool (toolCalls : List ToolCall) (hlast : info.lastMessagesType=.none) (hind : info.index=0) :
    Follows info.blocks (convertFirstTool info toolCalls).2 (convertFirstTool info toolCalls).1.blocks ∧
      ((convertFirstTool info toolCalls).1.lastMessagesType=.none ∨
        (convertFirstTool info toolCalls).1.lastMessagesType=.tools) := by
  cases toolCalls with
  | nil => exact ⟨.nil _,.inl hlast⟩
  | cons toolCall toolCalls =>
    have hbloc : info.blocks=⟨0,[]⟩ := by rw [blocks,hlast,hind]
    refine ⟨?_,.inr rfl⟩
    rw [hbloc]
    exact (follows_start ⟨0,[]⟩ (.toolUse toolCall.id toolCall.name)).append
      (follows_toolDelta toolCall (mem_singleton_self _))

lemma converts_first (env : ConvertEnv) (chunk : Chunk) (hlast : info.lastMessagesType=.none)
    (hind : info.index=0) : Converts info.blocks (convertFirst env info chunk) := by
  have hstar : Follows info.blocks [.messageStart chunk.id chunk.model env.estimatePromptTokens] info.blocks :=
    .single rfl
  unfold convertFirst
  cases chunk.choices with
  | nil => exact ⟨_,hstar,fun _ => rfl⟩
  | cons choice choices =>
    obtain ⟨hfoll,hknd⟩ := follows_convertFirstTool choice.delta.toolCalls hlast hind
    have heven := (hstar.append hfoll).append (follows_convertContent true choice.delta fun _ => hknd)
    simp only
    cases choice.finish with
    | some reason => exact .close heven _ _
    | none => exact ⟨_,heven,fun _ => rfl⟩

/-! A later chunk that is not put off: its tool calls or its content, and then perhaps the end of the message. -/

def convertDelta (info : ClaudeConvertInfo) (delta : Delta) : ClaudeConvertInfo × List ClaudeResponse :=
  if delta.toolCalls≠[] then convertTools info delta.toolCalls else convertContent info false delta

def ClaudeConvertInfo.keepFinish (info : ClaudeConvertInfo) (choice : Choice) : ClaudeConvertInfo :=
  { info with finishReason := choice.finish.getD info.finishReason }

def close (r : ClaudeConvertInfo × List ClaudeResponse) (usage : Option Pricing.Usage) (stopReason : String) :
    ClaudeConvertInfo × List ClaudeResponse :=
  ((closeMessage r.1 usage stopReason).1,r.2++(closeMessage r.1 usage stopReason).2)

lemma convertLater_deferred (env : ConvertEnv) (info : ClaudeConvertInfo)
    (h : chunk.deferred=true) : ∃ choice, convertLater env info chunk=(info.keepFinish choice,[]) := by
  unfold Chunk.deferred at h
  unfold convertLater
  cases hc : chunk.choices with
  | nil => simp [hc] at h
  | cons choice choices =>
    simp only [hc,List.head?_cons,Option.bind_some,Bool.and_eq_true,Option.isNone_iff_eq_none] at h
    exact ⟨choice,if_pos h⟩

lemma convertLater_cons (env : ConvertEnv) (info : ClaudeConvertInfo) {choice : Choice}
    {choices : List Choice} (hc : chunk.choices=choice::choices) (h : chunk.deferred=false) :
    ∃ stopReason, convertLater env info chunk =
      if choice.finish.isSome then close (convertDelta (info.keepFinish choice) choice.delta) chunk.usage stopReason
      else convertDelta (info.keepFinish choice) choice.delta := by
  have hnow : ¬(choice.finish.isSome=true ∧ chunk.usage=none) := by simpa [Chunk.deferred,hc,
    Option.isSome_iff_ne_none] using h
  unfold convertLater
  simp only [hc]
  exact ⟨_,if_neg hnow⟩

lemma follows_convertDelta (info : ClaudeConvertInfo) (h : (announce info.group delta.toolCalls).isSome=true) :
    Follows info.blocks (convertDelta info delta).2 (convertDelta info delta).1.blocks := by
  unfold convertDelta
  split
  next hne =>
    obtain ⟨m,hm⟩ := Option.isSome_iff_exists.mp h
    exact follows_convertTools hne hm
  · exact follows_convertContent false delta nofun

lemma convertLater_cases (env : ConvertEnv) {P motive : ClaudeConvertInfo × List ClaudeResponse → Prop}
    (put : ∀ choice, P (info.keepFinish choice,[])) (nil : P (info,[]))
    (delta : chunk.deferred≠true → ∀ choice : Choice, chunk.toolCalls=choice.delta.toolCalls →
      P (convertDelta (info.keepFinish choice) choice.delta))
    (stays : ∀ r, P r → motive r) (closes : ∀ r usage stopReason, P r → motive (close r usage stopReason)) :
    motive (convertLater env info chunk) := by
  by_cases hdfr : chunk.deferred=true
  · obtain ⟨choice,he⟩ := convertLater_deferred env info hdfr
    rw [he]
    exact stays _ (put choice)
  cases hc : chunk.choices with
  | nil =>
    unfold convertLater
    simp only [hc]
    cases chunk.usage.or info.usage with
    | none => exact stays _ nil
    | some usage => exact closes _ (some usage) _ nil
  | cons choice choices =>
    obtain ⟨stopReason,he⟩ := convertLater_cons env info hc (Bool.eq_false_iff.mpr hdfr)
    have hdlt := delta hdfr choice (by simp [Chunk.toolCalls,hc])
    rw [he]
    split
    · exact closes _ _ _ hdlt
    · exact stays _ hdlt

lemma converts_later (env : ConvertEnv) (h : chunk.deferred=true ∨ (announce info.group chunk.toolCalls).isSome=true) :
    Converts info.blocks (convertLater env info chunk) := by
  apply convertLater_cases env (P := fun r => Follows info.blocks r.2 r.1.blocks)
  · exact fun _ => .nil _
  · exact .nil _
  · exact fun hdfr choice htools => follows_convertDelta (info.keepFinish choice) (htools ▸ h.resolve_left hdfr)
  · exact fun r hr => ⟨_,hr,fun _ => rfl⟩
  · exact fun r _ _ hr => .close hr _ _

namespace Conversion

/-- The output so far can be followed, and before the end of the message the converter knows the open blocks. -/
structure Sound (s : Conversion) : Prop where
  sent : ∃ b, Follows .empty s.output b ∧ (s.info.done=false → b=s.info.blocks)
  fresh : s.count=0 → s.info.lastMessagesType=.none ∧ s.info.index=0

lemma sound_start : start.Sound := ⟨⟨.empty,.nil _,fun _ => rfl⟩,fun _ => ⟨rfl,rfl⟩⟩

lemma Sound.converts (env : ConvertEnv) {s : Conversion} (h : s.Sound)
    (hdone : s.info.done=false) (hgrp : s.InGroup chunk) :
    Converts s.info.blocks (streamResponseOpenAI2Claude env (s.count+1) (s.info.keepUsage chunk) chunk) := by
  -- the usage that is kept for later has no part in the blocks
  rw [show s.info.blocks=(s.info.keepUsage chunk).blocks from rfl]
  unfold streamResponseOpenAI2Claude
  rw [if_neg (by simp [keepUsage,hdone])]
  by_cases hcnt : s.count=0
  · obtain ⟨hlast,hind⟩ := h.fresh hcnt
    rw [if_pos (by rw [hcnt])]
    exact converts_first env chunk hlast hind
  · rw [if_neg (by omega)]
    exact converts_later env ((hgrp.resolve_left (by simp [hdone])).resolve_left hcnt)

lemma Sound.step (env : ConvertEnv) {s t : Conversion} (h : s.Sound) (hgrp : s.InGroup chunk)
    (hstep : s.step env chunk=some t) : t.Sound := by
  obtain ⟨b,hsent,hknw⟩ := h.sent
  simp only [Conversion.step,Option.some.injEq] at hstep
  subst hstep
  refine ⟨?_,fun hcnt => (Nat.succ_ne_zero _ hcnt).elim⟩
  cases hdone : s.info.done with
  | true =>
    -- nothing is sent after the end of the message
    refine ⟨b,?_,fun hd => ?_⟩
    · simpa [streamResponseOpenAI2Claude,keepUsage,hdone] using hsent
    · simp [streamResponseOpenAI2Claude,keepUsage,hdone] at hd
  | false =>
    obtain rfl := hknw hdone
    obtain ⟨c,hfoll,hc⟩ := h.converts env hdone hgrp
    exact ⟨c,hsent.append hfoll,hc⟩
end Conversion
end AronaApi.Claude
