import AronaApi.Claude.Protocol
import AronaApi.Lib.Reassembly

/-! What the chunks carry and what a client reads of the converted stream: the text, the reasoning, and the tool
calls with their ids, names and arguments. -/
namespace AronaApi.Claude
open Schedule List ClaudeConvertInfo Delta ClaudeResponse

structure Reading where
  text : String
  thinking : String
  tools : List (Span (String × String))
  deriving DecidableEq

open Reading

def Chunk.delta (chunk : Chunk) : Delta := (chunk.choices.head?.map Choice.delta).getD ⟨none,none,none,[]⟩

def Chunk.content (chunk : Chunk) : String := chunk.delta.getContentString

def Chunk.reasoning (chunk : Chunk) : String := chunk.delta.getReasoningContent

/-- The tool calls of a chunk with their indices; a call without one has its position. -/
def number : ℕ → List ToolCall → List (ℕ × ToolCall)
  | _,[] => []
  | i,toolCall::toolCalls => (toolCall.index.getD i,toolCall)::number (i+1) toolCalls

lemma map_snd_number (i : ℕ) (toolCalls : List ToolCall) : (number i toolCalls).map Prod.snd=toolCalls := by
  induction toolCalls generalizing i with
  | nil => rfl
  | cons toolCall toolCalls ih => rw [number,map_cons,ih]

namespace Reading

def empty : Reading := ⟨"","",[]⟩

def start (key : ℕ) (id name : String) (r : Reading) : Reading := { r with tools := r.tools++[⟨key,(id,name),""⟩] }

def extend (key : ℕ) (piece : String) (r : Reading) : Reading := { r with tools := Span.extend key piece r.tools }

def hear (r : Reading) : ClaudeResponse → Reading
  | .contentBlockStart index (.toolUse id name) => r.start index id name
  | .contentBlockDelta _ (.textDelta text) => { r with text := r.text++text }
  | .contentBlockDelta _ (.thinkingDelta thinking) => { r with thinking := r.thinking++thinking }
  | .contentBlockDelta index (.inputJsonDelta json) => r.extend index json
  | _ => r

def feedTool (r : Reading) (call : ℕ × ToolCall) : Reading :=
  (if call.1∈Span.keys r.tools then r else r.start call.1 call.2.id call.2.name).extend call.1 call.2.arguments

def feed (r : Reading) (chunk : Chunk) : Reading :=
  { (number 0 chunk.toolCalls).foldl feedTool r with
    text := r.text++chunk.content
    thinking := r.thinking++chunk.reasoning }

def Same (r r' : Reading) : Prop :=
  r.text=r'.text ∧ r.thinking=r'.thinking ∧ r.tools.map Span.content=r'.tools.map Span.content

def weight (r : Reading) : ℕ := r.text.length+r.thinking.length+Span.weight r.tools

lemma Same.weight_eq {r r' : Reading} (h : r.Same r') : r.weight=r'.weight := by
  have htls : ∀ parts : List (Span (String × String)),
      Span.weight parts=((parts.map Span.content).map fun c => 1+c.2.length).sum := by
    intro parts
    simp [Span.weight,Span.content,Function.comp_def]
  rw [weight,weight,h.1,h.2.1,htls,htls,h.2.2]

def say (chunk : Chunk) (r : Reading) : Reading :=
  if chunk.reasoning ≠ "" then { r with thinking := r.thinking++chunk.reasoning }
  else { r with text := r.text++chunk.content }

def first (toolCalls : List ToolCall) (r : Reading) : Reading :=
  match toolCalls with
  | [] => r
  | toolCall::_ => (r.start 0 toolCall.id toolCall.name).extend 0 toolCall.arguments

def deliver (base : ℕ) (r : Reading) (call : ℕ × ToolCall) : Reading :=
  (if call.2.name ≠ "" then r.start (base+call.1) call.2.id call.2.name else r).extend (base+call.1) call.2.arguments
end Reading

/-- Where the converter is: whether it is writing tools, where they began, and the next free index. -/
structure Cursor where
  tools : Bool
  base : ℕ
  next : ℕ

def ClaudeConvertInfo.cursor (info : ClaudeConvertInfo) : Cursor :=
  { tools := info.lastMessagesType=.tools
    base := info.toolCallBaseIndex
    next := match info.lastMessagesType with
      | .none => info.index
      | .tools => info.toolCallBaseIndex+info.toolCallMaxIndexOffset+1
      | .text | .thinking => info.index+1 }

def Cursor.groupBase (c : Cursor) : ℕ := if c.tools then c.base else c.next

variable (info : ClaudeConvertInfo) {delta : Delta}
lemma advance_index : (stopOpenBlocksAndAdvance info).1.index=info.cursor.next := by
  unfold stopOpenBlocksAndAdvance cursor
  cases info.lastMessagesType <;> rfl

/-! What a client reads of the events of each function. -/

section
variable (r : Reading)
variable (info : ClaudeConvertInfo)
lemma hear_stopOpenBlocks : (stopOpenBlocks info).foldl hear r=r := by
  unfold stopOpenBlocks
  cases info.lastMessagesType with
  | none | text | thinking => rfl
  | tools =>
    induction List.range (info.toolCallMaxIndexOffset+1) with
    | nil => rfl
    | cons offset offsets ih => exact ih

lemma hear_advance : (stopOpenBlocksAndAdvance info).2.foldl hear r=r := by
  have h := hear_stopOpenBlocks r info
  unfold stopOpenBlocksAndAdvance
  cases info.lastMessagesType with
  | none => rfl
  | text | thinking | tools => exact h

lemma hear_closeMessage (usage : Option Pricing.Usage) (stopReason : String) :
    (closeMessage info usage stopReason).2.foldl hear r=r := by
  unfold closeMessage
  rw [foldl_append,foldl_append,hear_stopOpenBlocks]
  cases usage <;> rfl

lemma hear_writeContent {type : LastMessageType} {block : ContentBlock} {delta : ContentDelta} (first : Bool)
    (hblc : block.kind≠.toolUse) : (writeContent info first type block delta).2.foldl hear r =
      r.hear (.contentBlockDelta (writeContent info first type block delta).1.index delta) := by
  have hstr : ∀ index, r.hear (.contentBlockStart index block)=r := by
    intro index
    cases block with
    | toolUse id name => exact absurd rfl hblc
    | text | thinking => rfl
  unfold writeContent
  by_cases hlast : info.lastMessagesType≠type
  · simp only [hlast,if_true,or_true,foldl_append,hear_advance,ne_eq,not_false_eq_true,foldl_cons,foldl_nil,hstr]
  simp only [hlast,if_false,or_false,nil_append,foldl_append]
  split <;> simp only [foldl_cons,foldl_nil,hstr]

lemma hear_convertContent (first : Bool) (delta : Delta) :
    (convertContent info first delta).2.foldl hear r =
      if delta.getReasoningContent ≠ "" then { r with thinking := r.thinking++delta.getReasoningContent }
      else { r with text := r.text++delta.getContentString } := by
  unfold convertContent
  split
  · exact hear_writeContent r info first nofun
  split
  · exact hear_writeContent r info first nofun
  next hemp =>
  rw [not_not.mp hemp]
  simp

lemma hear_toolCallEvents (base k : ℕ) (toolCall : ToolCall) :
    (toolCallEvents (base+k) toolCall).foldl hear r=r.deliver base (k,toolCall) := by
  have hext : ∀ r' : Reading, (if toolCall.arguments ≠ "" then
      [contentBlockDelta (base+k) (.inputJsonDelta toolCall.arguments)] else []).foldl hear r' =
        r'.extend (base+k) toolCall.arguments := by
    intro r'
    split
    · rfl
    next hemp =>
    rw [not_not.mp hemp,extend,Span.extend_empty]
    rfl
  unfold toolCallEvents deliver
  rw [foldl_append,hext]
  split <;> rfl

lemma hear_toolCallsLoop (base i maxOffset : ℕ) (toolCalls : List ToolCall) :
    (toolCallsLoop base i maxOffset toolCalls).2.foldl hear r = (number i toolCalls).foldl (deliver base) r := by
  induction toolCalls generalizing r i maxOffset with
  | nil => rfl
  | cons toolCall toolCalls ih =>
    simp only [toolCallsLoop,foldl_append,hear_toolCallEvents,number,foldl_cons]
    exact ih _ _ _

lemma hear_convertTools (toolCalls : List ToolCall) : (convertTools info toolCalls).2.foldl hear r =
      (number 0 toolCalls).foldl (deliver info.cursor.groupBase) r := by
  have hbase : info.cursor.groupBase =
      if info.lastMessagesType=.tools then info.toolCallBaseIndex else info.cursor.next := by
    simp [Cursor.groupBase,cursor]
  unfold convertTools
  by_cases hlast : info.lastMessagesType=.tools
  · rw [hbase,if_pos hlast]
    simp only [hlast,ne_eq,not_true_eq_false,if_false,nil_append]
    exact hear_toolCallsLoop r _ _ _ _
  rw [hbase,if_neg hlast,← advance_index]
  simp only [hlast,ne_eq,not_false_eq_true,if_true,foldl_append,hear_advance]
  exact hear_toolCallsLoop r _ _ _ _

lemma hear_convertFirstTool (toolCalls : List ToolCall) :
    (convertFirstTool info toolCalls).2.foldl hear r=r.first toolCalls := by
  cases toolCalls with
  | nil => rfl
  | cons toolCall toolCalls =>
    unfold convertFirstTool first
    rw [foldl_cons]
    split
    · rfl
    next hemp =>
    simp only [not_not.mp hemp,extend,Span.extend_empty]
    rfl
end

/-! Where the functions leave the cursor. -/

lemma cursor_convertContent (first : Bool) (h : ¬(delta.getReasoningContent = "" ∧ delta.getContentString = "")) :
    (convertContent info first delta).1.cursor.tools=false ∧
      info.cursor.next≤(convertContent info first delta).1.cursor.next := by
  have hwrt : ∀ (type : LastMessageType) (block : ContentBlock) (piece : ContentDelta),
      type=.text ∨ type=.thinking → (writeContent info first type block piece).1.cursor.tools=false ∧
        info.cursor.next≤(writeContent info first type block piece).1.cursor.next := by
    intro type block piece htype
    unfold writeContent
    by_cases hlast : info.lastMessagesType≠type
    · rw [← advance_index]
      obtain rfl | rfl := htype <;> simp [cursor,hlast]
    · obtain rfl | rfl := htype <;> simp [cursor,not_not.mp hlast]
  unfold convertContent
  split
  · exact hwrt _ _ _ (.inr rfl)
  next hreas =>
  split
  · exact hwrt _ _ _ (.inl rfl)
  next hcont => exact absurd ⟨not_not.mp hreas,not_not.mp hcont⟩ h

lemma convertContent_silent (first : Bool)
    (h : delta.getReasoningContent = "" ∧ delta.getContentString = "") : convertContent info first delta=(info,[]) := by
  unfold convertContent
  rw [if_neg (not_not.mpr h.1),if_neg (not_not.mpr h.2)]

lemma toolCallsLoop_offsets (base i maxOffset : ℕ) (toolCalls : List ToolCall) :
    maxOffset≤(toolCallsLoop base i maxOffset toolCalls).1 ∧
      ∀ call∈number i toolCalls, call.1≤(toolCallsLoop base i maxOffset toolCalls).1 := by
  induction toolCalls generalizing i maxOffset with
  | nil => exact ⟨Nat.le_refl _,fun _ h => (not_mem_nil h).elim⟩
  | cons toolCall toolCalls ih =>
    obtain ⟨hmax,hcls⟩ := ih (i+1) (max maxOffset (toolCall.index.getD i))
    exact ⟨Nat.le_trans (Nat.le_max_left _ _) hmax,forall_mem_cons.mpr ⟨Nat.le_trans (Nat.le_max_right _ _) hmax,hcls⟩⟩

lemma cursor_convertTools (toolCalls : List ToolCall) : (convertTools info toolCalls).1.cursor.tools=true ∧
      (convertTools info toolCalls).1.cursor.base=info.cursor.groupBase ∧
      info.cursor.next≤(convertTools info toolCalls).1.cursor.next ∧
      ∀ call∈number 0 toolCalls, info.cursor.groupBase+call.1<(convertTools info toolCalls).1.cursor.next := by
  have hnext := advance_index info
  unfold convertTools Cursor.groupBase
  by_cases hlast : info.lastMessagesType=.tools
  · obtain ⟨hmax,hcls⟩ := toolCallsLoop_offsets info.toolCallBaseIndex 0 info.toolCallMaxIndexOffset toolCalls
    simp only [cursor,hlast,ne_eq,not_true_eq_false,if_false,decide_true,if_true,true_and]
    refine ⟨by omega,fun call hcall => ?_⟩
    have := hcls call hcall
    omega
  obtain ⟨hmax,hcls⟩ := toolCallsLoop_offsets (stopOpenBlocksAndAdvance info).1.index 0 0 toolCalls
  have htls : info.cursor.tools=false := by simp [cursor,hlast]
  rw [htls,← hnext]
  simp only [cursor,hlast,ne_eq,not_false_eq_true,if_true,decide_true,Bool.false_eq_true,if_false,true_and]
  refine ⟨by omega,fun call hcall => ?_⟩
  have := hcls call hcall
  omega

/-! What the converter does with a chunk: where it leaves the cursor, and what a client reads. -/

lemma toolCalls_eq (chunk : Chunk) : chunk.toolCalls=chunk.delta.toolCalls := by
  unfold Chunk.toolCalls Chunk.delta
  cases chunk.choices <;> rfl

lemma convert_first (env : ConvertEnv) (info : ClaudeConvertInfo) (chunk : Chunk) :
    (convertFirst env info chunk).1.cursor =
        (convertContent (convertFirstTool info chunk.toolCalls).1 true chunk.delta).1.cursor ∧
      ∀ r : Reading, (convertFirst env info chunk).2.foldl hear r=(r.first chunk.toolCalls).say chunk := by
  rw [toolCalls_eq]
  unfold convertFirst say Chunk.reasoning Chunk.content Chunk.delta
  cases chunk.choices with
  | nil =>
    refine ⟨rfl,fun r => ?_⟩
    simp [getReasoningContent,getContentString,first,hear]
  | cons choice choices =>
    have heven : ∀ r : Reading, (messageStart chunk.id chunk.model env.estimatePromptTokens::
        (convertFirstTool info choice.delta.toolCalls).2 ++
          (convertContent (convertFirstTool info choice.delta.toolCalls).1 true choice.delta).2).foldl hear r =
        (r.first choice.delta.toolCalls).say ⟨"","",[choice],none⟩ := by
      intro r
      rw [cons_append,foldl_cons,foldl_append,hear_convertContent,hear_convertFirstTool]
      rfl
    simp only
    cases choice.finish with
    | none => exact ⟨rfl,heven⟩
    | some reason =>
      refine ⟨rfl,fun r => ?_⟩
      rw [foldl_append,heven,hear_closeMessage]
      rfl

lemma convert_later (env : ConvertEnv) (info : ClaudeConvertInfo) {chunk : Chunk} (h : chunk.deferred=false) :
    ∃ info₀ : ClaudeConvertInfo, info₀.cursor=info.cursor ∧
      (convertLater env info chunk).1.cursor=(convertDelta info₀ chunk.delta).1.cursor ∧
      ∀ r : Reading, (convertLater env info chunk).2.foldl hear r =
        if chunk.toolCalls≠[] then (number 0 chunk.toolCalls).foldl (deliver info.cursor.groupBase) r
        else r.say chunk := by
  cases hc : chunk.choices with
  | nil =>
    have hemp : chunk.delta=⟨none,none,none,[]⟩ := by
      rw [Chunk.delta,hc]
      rfl
    have hread : ∀ r : Reading, (if chunk.toolCalls≠[] then
        (number 0 chunk.toolCalls).foldl (deliver info.cursor.groupBase) r else r.say chunk)=r := by
      intro r
      simp [toolCalls_eq,say,Chunk.reasoning,Chunk.content,hemp,getReasoningContent,getContentString]
    refine ⟨info,rfl,?_⟩
    simp only [hread,hemp]
    unfold convertLater
    simp only [hc]
    cases chunk.usage.or info.usage with
    | none => exact ⟨rfl,fun _ => rfl⟩
    | some usage => exact ⟨rfl,fun r => hear_closeMessage r _ _ _⟩
  | cons choice choices =>
    have hdlt : chunk.delta=choice.delta := by
      rw [Chunk.delta,hc]
      rfl
    have hread : ∀ r : Reading, (convertDelta (info.keepFinish choice) choice.delta).2.foldl hear r =
        if chunk.toolCalls≠[] then (number 0 chunk.toolCalls).foldl (deliver info.cursor.groupBase) r
        else r.say chunk := by
      intro r
      rw [toolCalls_eq,say,Chunk.reasoning,Chunk.content,hdlt]
      unfold convertDelta
      split
      · exact hear_convertTools r _ _
      · exact hear_convertContent r _ _ _
    obtain ⟨stopReason,he⟩ := convertLater_cons env info hc h
    refine ⟨info.keepFinish choice,rfl,?_⟩
    rw [he,hdlt]
    split
    · refine ⟨rfl,fun r => ?_⟩
      rw [close,foldl_append,hread,hear_closeMessage]
    · exact ⟨rfl,hread⟩
end AronaApi.Claude
