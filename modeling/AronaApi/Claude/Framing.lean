import AronaApi.Claude.Protocol
import AronaApi.Relay.ResponsesViaChat
import AronaApi.Responses.ToChat

/-! How a stream to a Claude client begins and ends. The chat handler holds back one chunk and hands the last one to
`HandleFinalResponse` (`relay/channel/openai/relay-openai.go`, `helper.go`); the Responses handler sends the chat
chunks of each event (`chat_via_responses.go`). -/
namespace AronaApi.Claude
open Pricing Responses List ClaudeConvertInfo ClaudeResponse
open Relay (Counter responseText2Usage orCounted)

inductive Frame
  | start
  | inner
  | delta
  | stop
  deriving DecidableEq

def ClaudeResponse.frame : ClaudeResponse → Frame
  | .messageStart _ _ _ => .start
  | .messageDelta _ _ => .delta
  | .messageStop => .stop
  | .contentBlockStart _ _ | .contentBlockDelta _ _ | .contentBlockStop _ => .inner

/-- One `message_start` first, one `message_delta` and one `message_stop` last. -/
def Framed (output : List ClaudeResponse) : Prop :=
  ∃ n, output.map frame=.start::List.replicate n .inner++[.delta,.stop]

/-! The handlers. -/

/-- What the chat handler needs besides the chunks: the converter's environment, the relay's own counts, whether it
counts the text (`RelayModeChatCompletions`), whether the model is an audio one, and `applyUsagePostProcessing`. -/
structure HandlerEnv where
  convert : ConvertEnv
  counter : Counter
  isChatCompletions : Bool
  isAudioModel : Bool
  postProcess : Usage → Chunk → Usage

def validUsage (usage : Option Usage) : Option Usage :=
  usage.filter fun u => u.promptTokens≠0 ∨ u.completionTokens≠0

/-- `ProcessStreamResponse`: the text of a chunk, and the largest number of tool calls. -/
def processStreamResponse (text : String) (toolCount : ℕ) (chunk : Chunk) : String × ℕ :=
  chunk.choices.foldl (fun (text,toolCount) choice =>
    let text := text++choice.delta.getContentString++choice.delta.getReasoningContent
    (choice.delta.toolCalls.foldl (fun text toolCall => text++toolCall.name++toolCall.arguments) text,
      max toolCount choice.delta.toolCalls.length)) (text,toolCount)

structure Scan where
  conversion : Conversion
  last : Option Chunk
  secondLast : Option Chunk
  text : String
  toolCount : ℕ

/-- `HandleStreamFormat`: a chunk that is counted and converted. -/
def handleStreamFormat (env : ConvertEnv) (s : Conversion) (chunk : Chunk) : Conversion := (s.step env chunk).getD s

def Scan.read (env : HandlerEnv) (s : Scan) (chunk : Chunk) : Scan :=
  let (text,toolCount) :=
    if env.isChatCompletions then processStreamResponse s.text s.toolCount chunk else (s.text,s.toolCount)
  { conversion := (s.last.map (handleStreamFormat env.convert s.conversion)).getD s.conversion
    last := some chunk
    secondLast := if env.isAudioModel then s.last.or s.secondLast else s.secondLast
    text
    toolCount }

/-- The usage that is billed: that of the last chunk, for audio models that of the one before, or the relay's counts. -/
def Scan.usage (env : HandlerEnv) (s : Scan) (last : Chunk) : Usage :=
  let counted := responseText2Usage env.counter s.text
  let usage := ((validUsage last.usage).or (validUsage (s.secondLast.bind Chunk.usage))).getD
    { counted with completionTokens := counted.completionTokens+s.toolCount*7 }
  env.postProcess usage last

/-- `HandleFinalResponse`: the last chunk is not counted. -/
def handleFinalResponse (env : ConvertEnv) (s : Conversion) (last : Chunk) (usage : Usage) : Conversion :=
  let (next,events) := streamResponseOpenAI2Claude env s.count { s.info with usage := some usage } last
  { s with info := { next with done := true }, output := s.output++events }

def oaiStreamHandler (env : HandlerEnv) (chunks : List Chunk) : Conversion :=
  let scan := chunks.foldl (Scan.read env) ⟨.start,none,none,"",0⟩
  match scan.last with
  | none => scan.conversion
  | some last => handleFinalResponse env.convert scan.conversion last (scan.usage env last)

/-- `sendChatChunk`, for one chunk after another. -/
def sendChatChunks (env : ConvertEnv) (s : Conversion) (chunks : List Chunk) : Conversion :=
  (chunks.filter fun chunk => chunk.choices≠[] ∨ chunk.usage.isSome).foldl (handleStreamFormat env) s

def sendResponses (env : ConvertEnv) : StreamState → Conversion → List ResponsesEvent → Except String (StreamState × Conversion)
  | state,s,[] => .ok (state,s)
  | state,s,event::events => do
    let (state,chunks) ← responsesStreamEventToChatChunks state event
    sendResponses env state (sendChatChunks env s chunks) events

def oaiResponsesToChatStreamHandler (env : HandlerEnv) (responseId model : String) (events : List ResponsesEvent) :
    Except String Conversion := do
  let (state,s) ← sendResponses env.convert (newResponsesToChatStreamState responseId model false) .start events
  let usage := orCounted env.counter state.usage state.usageText
  let s := { s with info := { s.info with usage := some usage } }
  return sendChatChunks env.convert s (finalizeResponsesToChatStream { state with usage }).2

inductive Upstream
  | chat (chunks : List Chunk)
  | responses (responseId model : String) (events : List ResponsesEvent)

def Upstream.relay (env : HandlerEnv) : Upstream → Except String (List ClaudeResponse)
  | .chat chunks => .ok (oaiStreamHandler env chunks).output
  | .responses responseId model events =>
    (oaiResponsesToChatStreamHandler env responseId model events).map Conversion.output

/-! What the converter's functions send between the beginning and the end. -/

structure Quiet (info : ClaudeConvertInfo) (r : ClaudeConvertInfo × List ClaudeResponse) : Prop where
  inner : ∀ e∈r.2, e.frame=.inner
  usage : r.1.usage=info.usage
  done : r.1.done=info.done

variable (info : ClaudeConvertInfo) {n : ℕ}
lemma Quiet.nil : Quiet info (info,[]) :=
  ⟨fun _ h => (not_mem_nil h).elim,rfl,rfl⟩

lemma Quiet.append {info : ClaudeConvertInfo} {r r' : ClaudeConvertInfo × List ClaudeResponse} (h : Quiet info r)
    (h' : Quiet r.1 r') : Quiet info (r'.1,r.2++r'.2) := by
  exact ⟨forall_mem_append.mpr ⟨h.inner,h'.inner⟩,h'.usage.trans h.usage,h'.done.trans h.done⟩

lemma inner_stopOpenBlocks : ∀ e∈stopOpenBlocks info, e.frame=.inner := by
  unfold stopOpenBlocks
  intro e he
  cases hlast : info.lastMessagesType with
  | none =>
    rw [hlast] at he
    exact (not_mem_nil he).elim
  | text | thinking =>
    rw [hlast] at he
    rw [mem_singleton.mp he]
    rfl
  | tools =>
    rw [hlast] at he
    obtain ⟨offset,-,rfl⟩ := mem_map.mp he
    rfl

lemma quiet_advance : Quiet info (stopOpenBlocksAndAdvance info) := by
  have hinr := inner_stopOpenBlocks info
  unfold stopOpenBlocksAndAdvance
  cases info.lastMessagesType with
  | none => exact .nil info
  | text | thinking | tools => exact ⟨hinr,rfl,rfl⟩

lemma quiet_writeContent (first : Bool) (type : LastMessageType) (block : ContentBlock)
    (delta : ContentDelta) : Quiet info (writeContent info first type block delta) := by
  have hstp : Quiet info (if info.lastMessagesType≠type then stopOpenBlocksAndAdvance info else (info,[])) := by
    split
    · exact quiet_advance info
    · exact .nil info
  unfold writeContent
  generalize (if info.lastMessagesType≠type then stopOpenBlocksAndAdvance info else (info,[]))=r at hstp
  refine ⟨fun e he => ?_,hstp.usage,hstp.done⟩
  obtain he | he := mem_append.mp he
  · obtain he | he := mem_append.mp he
    · exact hstp.inner e he
    split at he
    · rw [mem_singleton.mp he]
      rfl
    · exact (not_mem_nil he).elim
  · rw [mem_singleton.mp he]
    rfl

lemma quiet_convertContent (first : Bool) (delta : Delta) : Quiet info (convertContent info first delta) := by
  unfold convertContent
  split
  · exact quiet_writeContent _ _ _ _ _
  split
  · exact quiet_writeContent _ _ _ _ _
  · exact .nil info

lemma inner_toolCallEvents (index : ℕ) (toolCall : ToolCall) : ∀ e∈toolCallEvents index toolCall, e.frame=.inner := by
  unfold toolCallEvents
  intro e he
  obtain he | he := mem_append.mp he
  all_goals
    split at he
    · rw [mem_singleton.mp he]
      rfl
    · exact (not_mem_nil he).elim

lemma inner_toolCallsLoop (base i maxOffset : ℕ) (toolCalls : List ToolCall) :
    ∀ e∈(toolCallsLoop base i maxOffset toolCalls).2, e.frame=.inner := by
  induction toolCalls generalizing i maxOffset with
  | nil => exact fun _ h => (not_mem_nil h).elim
  | cons toolCall toolCalls ih =>
    exact forall_mem_append.mpr ⟨inner_toolCallEvents _ _,ih _ _⟩

lemma quiet_convertTools (toolCalls : List ToolCall) : Quiet info (convertTools info toolCalls) := by
  unfold convertTools
  split
  next next stops hgrp =>
    have hstp : Quiet info (next,stops) := by
      split at hgrp
      · obtain ⟨hinr,husg,hdone⟩ := quiet_advance info
        rw [← hgrp]
        exact ⟨hinr,husg,hdone⟩
      · rw [← hgrp]
        exact .nil info
    exact ⟨forall_mem_append.mpr ⟨hstp.inner,inner_toolCallsLoop _ _ _ _⟩,hstp.usage,hstp.done⟩

lemma quiet_convertFirstTool (toolCalls : List ToolCall) : Quiet info (convertFirstTool info toolCalls) := by
  cases toolCalls with
  | nil => exact .nil info
  | cons toolCall toolCalls =>
    refine ⟨fun e he => ?_,rfl,rfl⟩
    obtain rfl | he := mem_cons.mp he
    · rfl
    split at he
    · rw [mem_singleton.mp he]
      rfl
    · exact (not_mem_nil he).elim

lemma quiet_convertDelta (delta : Delta) : Quiet info (convertDelta info delta) := by
  unfold convertDelta
  split
  · exact quiet_convertTools _ _
  · exact quiet_convertContent _ _ _

/-! One chunk. -/

def Chunk.finish (chunk : Chunk) : Option String := chunk.choices.head?.bind Choice.finish

/-- A chunk after the first one ends the message: without choices if a usage is known, else with a finish reason and
a usage of its own. -/
def Chunk.closes (chunk : Chunk) (known : Bool) : Bool :=
  if chunk.choices=[] then known else chunk.finish.isSome && chunk.usage.isSome

def frames (events : List ClaudeResponse) : List Frame := events.map frame

lemma frames_append (events more : List ClaudeResponse) : frames (events++more)=frames events++frames more :=
  map_append

lemma frames_inner {events : List ClaudeResponse} (h : ∀ e∈events, e.frame=.inner) :
    ∃ n, frames events=List.replicate n .inner :=
  ⟨events.length,map_eq_replicate_iff.mpr h⟩

lemma frames_closeMessage (usage : Option Usage) (stopReason : String) :
    ∃ n, frames (closeMessage info usage stopReason).2 =
      List.replicate n .inner++(if usage.isSome then [.delta] else [])++[.stop] := by
  obtain ⟨n,hn⟩ := frames_inner (inner_stopOpenBlocks info)
  refine ⟨n,?_⟩
  unfold closeMessage
  rw [frames_append,frames_append,hn]
  cases usage <;> rfl

lemma frames_first (env : ConvertEnv) (info : ClaudeConvertInfo) (chunk : Chunk) :
    (chunk.finish=none → (convertFirst env info chunk).1.usage=info.usage ∧
      (convertFirst env info chunk).1.done=info.done ∧
      ∃ n, frames (convertFirst env info chunk).2=.start::List.replicate n .inner) ∧
    (chunk.finish.isSome=true → (convertFirst env info chunk).1.done=true ∧
      ∃ n, frames (convertFirst env info chunk).2=.start::List.replicate n .inner ++
        (if (chunk.usage.or info.usage).isSome then [.delta] else [])++[.stop]) := by
  unfold convertFirst Chunk.finish
  cases hc : chunk.choices with
  | nil => exact ⟨fun _ => ⟨rfl,rfl,0,rfl⟩,fun h => absurd h Bool.false_ne_true⟩
  | cons choice choices =>
    have hqt := (quiet_convertFirstTool info choice.delta.toolCalls).append
      (quiet_convertContent (convertFirstTool info choice.delta.toolCalls).1 true choice.delta)
    simp only [List.head?_cons,Option.bind_some]
    generalize convertContent (convertFirstTool info choice.delta.toolCalls).1 true choice.delta=r at hqt ⊢
    obtain ⟨final,content⟩ := r
    obtain ⟨m,hm⟩ := frames_inner hqt.inner
    have husg : final.usage=info.usage := hqt.usage
    cases hfinish : choice.finish with
    | none =>
      refine ⟨fun _ => ⟨husg,hqt.done,m,?_⟩,fun h => absurd h Bool.false_ne_true⟩
      exact congrArg (List.cons Frame.start) hm
    | some reason =>
      refine ⟨fun h => absurd h nofun,fun _ => ⟨rfl,?_⟩⟩
      obtain ⟨n,hn⟩ := frames_closeMessage { final with finishReason := reason } (chunk.usage.or final.usage)
        (stopReasonOpenAI2Claude env reason)
      have heven : frames ((convertFirstTool info choice.delta.toolCalls).2++content)=List.replicate m .inner := hm
      refine ⟨m+n,?_⟩
      rw [append_assoc,cons_append,cons_append,← append_assoc,← husg]
      refine congrArg (List.cons Frame.start) ?_
      refine (frames_append _ _).trans ((congrArg₂ _ heven hn).trans ?_)
      rw [← append_assoc,← append_assoc,replicate_append_replicate,append_assoc]

lemma frames_later (env : ConvertEnv) (info : ClaudeConvertInfo) (chunk : Chunk) :
    (chunk.closes (chunk.usage.or info.usage).isSome=false → Quiet info (convertLater env info chunk)) ∧
    (chunk.closes (chunk.usage.or info.usage).isSome=true → (convertLater env info chunk).1.done=true ∧
      ∃ n, frames (convertLater env info chunk).2=List.replicate n .inner++[.delta,.stop]) := by
  unfold Chunk.closes
  cases hc : chunk.choices with
  | nil =>
    rw [if_pos rfl]
    unfold convertLater
    simp only [hc]
    cases chunk.usage.or info.usage with
    | none => exact ⟨fun _ => .nil info,fun h => absurd h Bool.false_ne_true⟩
    | some usage =>
      refine ⟨fun h => absurd h nofun,fun _ => ⟨rfl,?_⟩⟩
      obtain ⟨n,hn⟩ := frames_closeMessage info (some usage)
        (if stopReasonOpenAI2Claude env info.finishReason = "" then "end_turn"
          else stopReasonOpenAI2Claude env info.finishReason)
      refine ⟨n,?_⟩
      rw [hn]
      simp
  | cons choice choices =>
    rw [if_neg (cons_ne_nil _ _)]
    have hfin : chunk.finish=choice.finish := by
      rw [Chunk.finish,hc]
      rfl
    rw [hfin]
    cases hdefer : chunk.deferred with
    | true =>
      obtain ⟨other,he⟩ := convertLater_deferred env info hdefer
      have husg : chunk.usage=none := by
        unfold Chunk.deferred at hdefer
        exact Option.isNone_iff_eq_none.mp (Bool.and_eq_true_iff.mp hdefer).2
      rw [he,husg]
      refine ⟨fun _ => ⟨fun _ h => (not_mem_nil h).elim,rfl,rfl⟩,fun h => ?_⟩
      rw [Option.isSome_none,Bool.and_false] at h
      cases h
    | false =>
      obtain ⟨stopReason,he⟩ := convertLater_cons env info hc hdefer
      have hqt := quiet_convertDelta (info.keepFinish choice) choice.delta
      rw [he]
      split
      next hsome =>
        have husg : chunk.usage.isSome=true := by
          rw [← Option.not_isNone]
          simpa [Chunk.deferred,hc,hsome] using hdefer
        refine ⟨fun h => ?_,fun _ => ⟨rfl,?_⟩⟩
        · rw [hsome,husg] at h
          cases h
        · obtain ⟨n,hn⟩ := frames_closeMessage (convertDelta (info.keepFinish choice) choice.delta).1 chunk.usage stopReason
          obtain ⟨m,hm⟩ := frames_inner hqt.inner
          refine ⟨m+n,?_⟩
          rw [close,frames_append,hn,hm,husg,if_pos rfl,append_assoc,← append_assoc,replicate_append_replicate]
          rfl
      next hnone =>
      refine ⟨fun _ => ⟨hqt.inner,hqt.usage,hqt.done⟩,fun h => ?_⟩
      exact absurd (Bool.and_eq_true_iff.mp h).1 hnone

/-! A run of chunks. -/

/-- The message has begun and not ended; `known` says whether a chunk had a usage. -/
structure Opened (s : Conversion) (known : Bool) : Prop where
  count : s.count≠0
  done : s.info.done=false
  usage : s.info.usage.isSome=known
  begun : ∃ n, frames s.output=.start::List.replicate n .inner

lemma not_framed_of_open {output : List ClaudeResponse}
    (h : frames output=.start::List.replicate n .inner) : ¬Framed output := by
  rintro ⟨m,hm⟩
  have hmem : Frame.stop∈frames output := by
    unfold frames
    rw [hm]
    simp
  rw [h] at hmem
  simp at hmem

variable {s : Conversion} {known : Bool} {env : ConvertEnv}
lemma Opened.not_framed (h : Opened s known) : ¬Framed s.output := by
  obtain ⟨n,hn⟩ := h.begun
  exact not_framed_of_open hn

lemma handleStreamFormat_eq (env : ConvertEnv) (s : Conversion) (chunk : Chunk) :
    (handleStreamFormat env s chunk).count=s.count+1 ∧ (handleStreamFormat env s chunk).info =
        (streamResponseOpenAI2Claude env (s.count+1) (s.info.keepUsage chunk) chunk).1 ∧
      (handleStreamFormat env s chunk).output=s.output ++
        (streamResponseOpenAI2Claude env (s.count+1) (s.info.keepUsage chunk) chunk).2 :=
  ⟨rfl,rfl,rfl⟩

lemma handleStreamFormat_done (env : ConvertEnv) (h : s.info.done=true) (chunk : Chunk) :
    (handleStreamFormat env s chunk).info.done=true ∧ (handleStreamFormat env s chunk).output=s.output := by
  obtain ⟨-,hinfo,houtp⟩ := handleStreamFormat_eq env s chunk
  have hdone : streamResponseOpenAI2Claude env (s.count+1) (s.info.keepUsage chunk) chunk =
      (s.info.keepUsage chunk,[]) := if_pos h
  rw [hinfo,houtp,hdone,append_nil]
  exact ⟨h,rfl⟩

lemma foldl_done (env : ConvertEnv) (chunks : List Chunk) (h : s.info.done=true) :
    (chunks.foldl (handleStreamFormat env) s).info.done=true ∧
      (chunks.foldl (handleStreamFormat env) s).output=s.output := by
  induction chunks generalizing s with
  | nil => exact ⟨h,rfl⟩
  | cons chunk chunks ih =>
    obtain ⟨hdone,houtp⟩ := handleStreamFormat_done env h chunk
    obtain ⟨hrest,hsame⟩ := ih hdone
    exact ⟨hrest,hsame.trans houtp⟩

lemma handle_first (env : ConvertEnv) (hcnt : s.count=0) (hdone : s.info.done=false) (houtp : s.output=[])
    (chunk : Chunk) :
    (chunk.finish=none → Opened (handleStreamFormat env s chunk) (chunk.usage.or s.info.usage).isSome) ∧
      (chunk.finish.isSome=true → (handleStreamFormat env s chunk).info.done=true ∧
        ∃ n, frames (handleStreamFormat env s chunk).output=.start::List.replicate n .inner ++
          (if (chunk.usage.or s.info.usage).isSome then [.delta] else [])++[.stop]) := by
  obtain ⟨hcn',hinfo,hout⟩ := handleStreamFormat_eq env s chunk
  have hfrs : streamResponseOpenAI2Claude env (s.count+1) (s.info.keepUsage chunk) chunk =
      convertFirst env (s.info.keepUsage chunk) chunk := by
    unfold streamResponseOpenAI2Claude
    rw [if_neg (by simp [keepUsage,hdone]),if_pos (by rw [hcnt])]
  obtain ⟨hopen,hclos⟩ := frames_first env (s.info.keepUsage chunk) chunk
  rw [houtp,nil_append,hfrs] at hout
  rw [hfrs] at hinfo
  have husg : chunk.usage.or (s.info.keepUsage chunk).usage=chunk.usage.or s.info.usage := by
    unfold keepUsage
    cases chunk.usage <;> rfl
  constructor
  · intro hfin
    obtain ⟨hkept,hstl,hfram⟩ := hopen hfin
    refine ⟨?_,?_,?_,?_⟩
    · rw [hcn']
      exact Nat.succ_ne_zero _
    · rw [hinfo,hstl]
      exact hdone
    · rw [hinfo,hkept]
      rfl
    · rw [hout]
      exact hfram
  · intro hfin
    rw [hinfo,hout,← husg]
    exact hclos hfin

lemma later_eq (env : ConvertEnv) (info : ClaudeConvertInfo) (hcnt : n≠1) (hdone : info.done=false)
    (chunk : Chunk) : streamResponseOpenAI2Claude env n info chunk=convertLater env info chunk := by
  unfold streamResponseOpenAI2Claude
  rw [if_neg (by simp [hdone]),if_neg hcnt]

lemma Opened.handle (h : Opened s known) (chunk : Chunk) : (chunk.closes (known || chunk.usage.isSome)=false →
      Opened (handleStreamFormat env s chunk) (known || chunk.usage.isSome)) ∧
    (chunk.closes (known || chunk.usage.isSome)=true →
      (handleStreamFormat env s chunk).info.done=true ∧ Framed (handleStreamFormat env s chunk).output) := by
  obtain ⟨hcn',hinfo,hout⟩ := handleStreamFormat_eq env s chunk
  have hltr : streamResponseOpenAI2Claude env (s.count+1) (s.info.keepUsage chunk) chunk=_ :=
    later_eq env (s.info.keepUsage chunk) (fun hone => h.count (Nat.succ.inj hone)) h.done chunk
  rw [hltr] at hinfo hout
  have hknw : (chunk.usage.or (s.info.keepUsage chunk).usage).isSome=(known || chunk.usage.isSome) := by
    rw [← h.usage]
    unfold keepUsage
    cases chunk.usage <;> simp
  obtain ⟨hopen,hclos⟩ := frames_later env (s.info.keepUsage chunk) chunk
  rw [hknw] at hopen hclos
  obtain ⟨n,hn⟩ := h.begun
  constructor
  · intro hcloses
    have hqt := hopen hcloses
    refine ⟨?_,?_,?_,?_⟩
    · rw [hcn']
      exact Nat.succ_ne_zero _
    · rw [hinfo,hqt.done]
      exact h.done
    · rw [hinfo,hqt.usage,← hknw]
      unfold keepUsage
      cases chunk.usage <;> rfl
    · obtain ⟨m,hm⟩ := frames_inner hqt.inner
      refine ⟨n+m,?_⟩
      rw [hout,frames_append,hn,hm,cons_append,replicate_append_replicate]
  · intro hcloses
    obtain ⟨hdone,m,hm⟩ := hclos hcloses
    rw [hinfo]
    refine ⟨hdone,n+m,?_⟩
    refine (congrArg frames hout).trans ?_
    rw [frames_append,hn,hm,cons_append,← append_assoc,replicate_append_replicate]
    rfl

def closesIn (known : Bool) : List Chunk → Bool
  | [] => false
  | chunk::chunks => chunk.closes (known || chunk.usage.isSome) || closesIn (known || chunk.usage.isSome) chunks

lemma closesIn_iff (known : Bool) (chunks : List Chunk) :
    closesIn known chunks=true ↔ ∃ before chunk after, chunks=before++chunk::after ∧
      chunk.closes (known || (before++[chunk]).any fun c => c.usage.isSome)=true := by
  induction chunks generalizing known with
  | nil => simp [closesIn]
  | cons chunk chunks ih =>
    rw [closesIn,Bool.or_eq_true,ih]
    constructor
    · rintro (hnow | ⟨before,later,after,rfl,hcloses⟩)
      · exact ⟨[],chunk,chunks,rfl,by simpa using hnow⟩
      · exact ⟨chunk::before,later,after,rfl,by simpa [Bool.or_assoc] using hcloses⟩
    · rintro ⟨before,later,after,he,hcloses⟩
      cases before with
      | nil =>
        obtain ⟨rfl,rfl⟩ := List.cons.inj he
        exact .inl (by simpa using hcloses)
      | cons first before =>
        obtain ⟨rfl,rfl⟩ := List.cons.inj he
        exact .inr ⟨before,later,after,rfl,by simpa [Bool.or_assoc] using hcloses⟩

lemma Opened.run (h : Opened s known) (chunks : List Chunk) :
    (closesIn known chunks=false → (∃ known', Opened (chunks.foldl (handleStreamFormat env) s) known') ∧
      (chunks.foldl (handleStreamFormat env) s).count=s.count+chunks.length) ∧
    (closesIn known chunks=true → (chunks.foldl (handleStreamFormat env) s).info.done=true ∧
      Framed (chunks.foldl (handleStreamFormat env) s).output) := by
  induction chunks generalizing s known with
  | nil => exact ⟨fun _ => ⟨⟨known,h⟩,rfl⟩,fun hcloses => absurd hcloses Bool.false_ne_true⟩
  | cons chunk chunks ih =>
    obtain ⟨hopen,hclos⟩ := h.handle chunk
    rw [foldl_cons,closesIn]
    cases hnow : chunk.closes (known || chunk.usage.isSome) with
    | true =>
      obtain ⟨hdone,hfram⟩ := hclos hnow
      obtain ⟨hrest,hsame⟩ := foldl_done env chunks hdone
      refine ⟨fun hcloses => absurd hcloses nofun,fun _ => ⟨hrest,?_⟩⟩
      rw [hsame]
      exact hfram
    | false =>
      obtain ⟨hrun,hend⟩ := ih (hopen hnow)
      rw [Bool.false_or]
      refine ⟨fun hcloses => ⟨(hrun hcloses).1,?_⟩,hend⟩
      rw [(hrun hcloses).2,(handleStreamFormat_eq env s chunk).1,length_cons]
      omega

lemma handleFinalResponse_done (env : ConvertEnv) (h : s.info.done=true) (last : Chunk) (usage : Usage) :
    (handleFinalResponse env s last usage).output=s.output := by
  have hdone : streamResponseOpenAI2Claude env s.count { s.info with usage := some usage } last =
      ({ s.info with usage := some usage },[]) := if_pos h
  unfold handleFinalResponse
  rw [hdone]
  exact append_nil _

lemma Opened.framed_final (h : Opened s known) (last : Chunk) (usage : Usage) :
    Framed (handleFinalResponse env s last usage).output ↔ s.count≠1 ∧ last.closes true=true := by
  obtain ⟨n,hn⟩ := h.begun
  have hout : (handleFinalResponse env s last usage).output =
      s.output++(streamResponseOpenAI2Claude env s.count { s.info with usage := some usage } last).2 := rfl
  by_cases hone : s.count=1
  · have hfrs : streamResponseOpenAI2Claude env s.count { s.info with usage := some usage } last =
        convertFirst env { s.info with usage := some usage } last := by
      unfold streamResponseOpenAI2Claude
      rw [if_neg (by simp [h.done]),if_pos hone]
    have hstr : ∃ rest, frames (convertFirst env { s.info with usage := some usage } last).2=.start::rest := by
      obtain ⟨hopen,hclos⟩ := frames_first env { s.info with usage := some usage } last
      cases hfinish : last.finish with
      | none =>
        obtain ⟨-,-,m,hm⟩ := hopen hfinish
        exact ⟨_,hm⟩
      | some reason =>
        obtain ⟨-,m,hm⟩ := hclos (by rw [hfinish]; rfl)
        exact ⟨_,hm⟩
    obtain ⟨rest,hrest⟩ := hstr
    constructor
    · rintro ⟨m,hm⟩
      -- a second `message_start`
      have hcnt : (frames (handleFinalResponse env s last usage).output).count .start=1 := by
        unfold frames
        rw [hm]
        simp [count_replicate]
      rw [hout,hfrs,frames_append,hn,hrest] at hcnt
      simp [count_replicate] at hcnt
    · exact fun hand => absurd hone hand.1
  · have hltr := later_eq env { s.info with usage := some usage } hone h.done last
    rw [hout,hltr]
    obtain ⟨hopen,hclos⟩ := frames_later env { s.info with usage := some usage } last
    have hknw : (last.usage.or (some usage)).isSome=true := by cases last.usage <;> rfl
    simp only [hknw] at hopen hclos
    cases hcloses : last.closes true with
    | true =>
      obtain ⟨-,m,hm⟩ := hclos hcloses
      refine ⟨fun _ => ⟨hone,rfl⟩,fun _ => ⟨n+m,?_⟩⟩
      refine (frames_append _ _).trans ?_
      rw [hn,hm,cons_append,← append_assoc,replicate_append_replicate]
      rfl
    | false =>
      obtain ⟨m,hm⟩ := frames_inner (hopen hcloses).inner
      refine ⟨fun hfram => absurd hfram (not_framed_of_open (n := n+m) ?_),fun hand => absurd hand.2 nofun⟩
      rw [frames_append,hn,hm,cons_append,replicate_append_replicate]

/-! The whole stream. -/

lemma scan_conversion (env : HandlerEnv) (chunks : List Chunk) :
    (chunks.foldl (Scan.read env) ⟨.start,none,none,"",0⟩).last=chunks.getLast? ∧
      (chunks.foldl (Scan.read env) ⟨.start,none,none,"",0⟩).conversion =
        chunks.dropLast.foldl (handleStreamFormat env.convert) .start := by
  induction chunks using List.reverseRecOn with
  | nil => exact ⟨rfl,rfl⟩
  | append_singleton chunks chunk ih =>
    obtain ⟨hlast,hconv⟩ := ih
    rw [foldl_append,foldl_cons,foldl_nil,List.getLast?_concat,dropLast_concat]
    generalize chunks.foldl (Scan.read env) ⟨.start,none,none,"",0⟩=scan at hlast hconv ⊢
    have hread : (scan.read env chunk).conversion =
        (scan.last.map (handleStreamFormat env.convert scan.conversion)).getD scan.conversion := rfl
    refine ⟨rfl,?_⟩
    rw [hread,hlast,hconv]
    -- the chunk that was held back is handled now
    cases hheld : chunks.getLast? with
    | none =>
      rw [List.getLast?_eq_none_iff.mp hheld]
      rfl
    | some held =>
      obtain ⟨before,rfl⟩ := List.getLast?_eq_some_iff.mp hheld
      rw [dropLast_concat,foldl_append]
      rfl

lemma output_oaiStreamHandler (env : HandlerEnv) (chunks : List Chunk) (last : Chunk) :
    ∃ usage, (oaiStreamHandler env (chunks++[last])).output =
      (handleFinalResponse env.convert (chunks.foldl (handleStreamFormat env.convert) .start) last usage).output := by
  obtain ⟨hlast,hconv⟩ := scan_conversion env (chunks++[last])
  rw [List.getLast?_concat] at hlast
  rw [dropLast_concat] at hconv
  unfold oaiStreamHandler
  simp only [hlast,hconv]
  exact ⟨_,rfl⟩

/-- The chunks of a chat stream that is framed: at least two. If the first one has a finish reason it has a usage;
else two others follow, of which one ends the message. The last one knows a usage in any case. -/
def ChatCloses (chunks : List Chunk) : Prop :=
  ∃ first rest, chunks=first::rest ∧ rest≠[] ∧ if first.finish.isSome then first.usage.isSome=true
    else 2 ≤ rest.length ∧ ∃ before chunk after, rest=before++chunk::after ∧
      chunk.closes (after.isEmpty || (first::before++[chunk]).any fun c => c.usage.isSome)=true

lemma Opened.framed_rest (h : Opened s known) (hcnt : s.count=1) (mid : List Chunk) (last : Chunk) (usage : Usage) :
    Framed (handleFinalResponse env (mid.foldl (handleStreamFormat env) s) last usage).output ↔
      mid≠[] ∧ (closesIn known mid=true ∨ last.closes true=true) := by
  obtain ⟨hopen,hclos⟩ := h.run mid
  cases hcloses : closesIn known mid with
  | true =>
    obtain ⟨hdone,hfram⟩ := hclos hcloses
    rw [handleFinalResponse_done env hdone]
    refine ⟨fun _ => ⟨?_,.inl rfl⟩,fun _ => hfram⟩
    rintro rfl
    cases hcloses
  | false =>
    obtain ⟨⟨known',hope⟩,hleng⟩ := hopen hcloses
    rw [hope.framed_final,hleng,hcnt]
    have hmid : 1+mid.length≠1 ↔ mid≠[] := by
      rw [← length_pos_iff]
      omega
    rw [hmid]
    exact and_congr_right fun _ => ⟨.inr,fun hor => hor.resolve_left Bool.false_ne_true⟩

lemma closes_rest_iff (first : Chunk) (mid : List Chunk) (last : Chunk) :
    (closesIn first.usage.isSome mid=true ∨ last.closes true=true) ↔
      ∃ before chunk after, mid++[last]=before++chunk::after ∧
        chunk.closes (after.isEmpty || (first::before++[chunk]).any fun c => c.usage.isSome)=true := by
  rw [closesIn_iff]
  constructor
  · rintro (⟨before,chunk,after,rfl,hcloses⟩ | hcloses)
    · have hmore : (after++[last]).isEmpty=false := by cases after <;> rfl
      refine ⟨before,chunk,after++[last],by simp,?_⟩
      simpa [hmore] using hcloses
    · exact ⟨mid,last,[],rfl,by simpa using hcloses⟩
  · rintro ⟨before,chunk,after,he,hcloses⟩
    induction after using List.reverseRecOn with
    | nil =>
      obtain ⟨rfl,hlast⟩ := append_inj' he rfl
      obtain rfl := singleton_inj.mp hlast
      exact .inr (by simpa using hcloses)
    | append_singleton after other _ =>
      rw [← cons_append,← append_assoc] at he
      obtain ⟨rfl,-⟩ := append_inj' he rfl
      have hmore : (after++[other]).isEmpty=false := by cases after <;> rfl
      refine .inl ⟨before,chunk,after,rfl,?_⟩
      simpa [hmore] using hcloses

lemma not_framed_single (env : ConvertEnv) (last : Chunk) (usage : Usage) :
    ¬Framed (handleFinalResponse env .start last usage).output := by
  have hltr := later_eq env { Conversion.start.info with usage := some usage } Nat.zero_ne_one rfl last
  have hout : (handleFinalResponse env .start last usage).output =
      (streamResponseOpenAI2Claude env 0 { Conversion.start.info with usage := some usage } last).2 := rfl
  have hnone : Frame.start∉frames (convertLater env { Conversion.start.info with usage := some usage } last).2 := by
    obtain ⟨hopen,hclos⟩ := frames_later env { Conversion.start.info with usage := some usage } last
    cases hcloses : last.closes (last.usage.or (some usage)).isSome with
    | true =>
      obtain ⟨-,n,hn⟩ := hclos hcloses
      rw [hn]
      simp
    | false =>
      obtain ⟨n,hn⟩ := frames_inner (hopen hcloses).inner
      rw [hn]
      simp
  rintro ⟨n,hn⟩
  rw [hout,hltr] at hn
  apply hnone
  unfold frames
  rw [hn]
  exact mem_cons_self

lemma chatCloses_cons (first : Chunk) (rest : List Chunk) :
    ChatCloses (first::rest) ↔ rest≠[] ∧ if first.finish.isSome then first.usage.isSome=true
      else 2 ≤ rest.length ∧ ∃ before chunk after, rest=before++chunk::after ∧
        chunk.closes (after.isEmpty || (first::before++[chunk]).any fun c => c.usage.isSome)=true := by
  constructor
  · rintro ⟨first',rest',he,hand⟩
    obtain ⟨rfl,rfl⟩ := List.cons.inj he
    exact hand
  · exact fun hand => ⟨first,rest,rfl,hand⟩

lemma framed_chat_iff (env : HandlerEnv) (chunks : List Chunk) :
    Framed (oaiStreamHandler env chunks).output ↔ ChatCloses chunks := by
  cases hchunks : chunks with
  | nil =>
    constructor
    · rintro ⟨n,hn⟩
      cases hn
    · rintro ⟨first,rest,he,-⟩
      cases he
  | cons first rest =>
    rw [chatCloses_cons]
    induction rest using List.reverseRecOn with
    | nil =>
      obtain ⟨usage,houtp⟩ := output_oaiStreamHandler env [] first
      rw [nil_append] at houtp
      rw [houtp]
      exact ⟨fun hfram => absurd hfram (not_framed_single _ _ _),fun hand => absurd rfl hand.1⟩
    | append_singleton mid last _ =>
      obtain ⟨usage,houtp⟩ := output_oaiStreamHandler env (first::mid) last
      rw [cons_append] at houtp
      rw [houtp,foldl_cons,and_iff_right (by simp)]
      obtain ⟨hopen,hclos⟩ := handle_first env.convert (s := .start) rfl rfl rfl first
      have hknw : first.usage.or Conversion.start.info.usage=first.usage := Option.or_none
      rw [hknw] at hopen hclos
      cases hfinish : first.finish with
      | some reason =>
        obtain ⟨hdone,n,hn⟩ := hclos (by rw [hfinish]; rfl)
        obtain ⟨haft,hsame⟩ := foldl_done env.convert mid hdone
        rw [handleFinalResponse_done _ haft,hsame,Option.isSome_some,if_pos rfl]
        constructor
        · rintro ⟨m,hm⟩
          have hdlt : Frame.delta∈frames (handleStreamFormat env.convert .start first).output := by
            unfold frames
            rw [hm]
            simp
          rw [hn] at hdlt
          by_contra hnone
          rw [if_neg hnone] at hdlt
          simp at hdlt
        · intro husg
          rw [if_pos husg,append_assoc] at hn
          exact ⟨n,hn⟩
      | none =>
        rw [(hopen hfinish).framed_rest rfl,closes_rest_iff,if_neg (by simp)]
        refine and_congr_left fun _ => ?_
        rw [length_append,length_singleton,← length_pos_iff]
        omega
end AronaApi.Claude
