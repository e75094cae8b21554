import AronaApi.Claude.Stream
import AronaApi.Lib.Reassembly
import Mathlib.Data.List.AList
import Mathlib.Data.List.Sort

/-! A Responses stream turned into chat chunks (`service/relayconvert/responses_to_chat.go`). The converter keeps
the tools it has seen under a key that an event has by its output index, by the id of its item or by its call id.
Arguments that come before their tool wait under the output index or the item's id. -/
namespace AronaApi.Responses
open Claude GoStd Pricing

inductive OutputType
  | message
  | reasoning
  | functionCall
  | customToolCall
  | other
  deriving DecidableEq

def isResponsesToolOutputType (type : OutputType) : Bool := type=.functionCall || type=.customToolCall

/-- `dto.ResponsesOutputContent`; its type is `output_text` or another one. -/
structure OutputContent where
  isOutputText : Bool
  text : String

/-- `dto.ResponsesOutput`, with its arguments in the form of `ArgumentsString`. -/
structure ResponsesOutput where
  type : OutputType
  id : String
  role : String
  content : List OutputContent
  callId : String
  name : String
  arguments : String

/-- `dto.OpenAIResponsesResponse`; `incompleteReason` is the reason of its incomplete details. -/
structure ResponsesResponse where
  id : String
  status : Option String
  incompleteReason : Option String
  model : String
  output : List ResponsesOutput
  usage : Option Usage

inductive EventType
  | created
  | completed
  | done
  | incomplete
  | failed
  | error
  | outputTextDelta
  | outputItemAdded
  | outputItemDone
  | functionArgsDelta
  | functionArgsDone
  | customToolInputDelta
  | customToolInputDone
  | reasoningSummaryDelta
  | reasoningSummaryDone
  | reasoningTextDelta
  | reasoningTextDone
  | other
  deriving DecidableEq

/-- `dto.ResponsesStreamResponse`. -/
structure ResponsesEvent where
  type : EventType
  response : Option ResponsesResponse
  delta : String
  item : Option ResponsesOutput
  outputIndex : Option ℕ
  itemId : String

/-! The whole response. -/

def responsesFinishReasonFromStatus (response : Option ResponsesResponse) : Option String :=
  match response with
  | none => none
  | some resp =>
    if trimSpace (resp.status.getD "") ≠ "incomplete" then none
    else if trimSpace (resp.incompleteReason.getD "") = "content_filter" then some "content_filter"
    else some "length"

def usageFromResponsesUsage (src : Option Usage) : Usage :=
  match src with
  | none => .zero
  | some src =>
    let details := src.inputTokensDetails.getD ⟨0,0,0,0,0⟩
    { Usage.zero with
      promptTokens := src.inputTokens
      inputTokens := src.inputTokens
      completionTokens := src.outputTokens
      outputTokens := src.outputTokens
      totalTokens := if src.totalTokens≠0 then src.totalTokens else src.inputTokens+src.outputTokens
      promptTokensDetails := ⟨details.cachedTokens,0,0,details.audioTokens,details.imageTokens⟩
      completionTokenDetails := ⟨0,0,0,src.completionTokenDetails.reasoningTokens⟩ }

def ResponsesOutput.outputText (out : ResponsesOutput) : String :=
  spell OutputContent.text (out.content.filter OutputContent.isOutputText)

def ResponsesOutput.allText (out : ResponsesOutput) : String := spell OutputContent.text out.content

def ResponsesOutput.isAssistant (out : ResponsesOutput) : Bool :=
  out.type=.message && (out.role = "" || out.role = "assistant")

/-- The texts of the assistant's messages; if they are empty, the texts of all items. -/
def extractOutputTextFromResponses (resp : ResponsesResponse) : String :=
  let text := spell ResponsesOutput.outputText (resp.output.filter ResponsesOutput.isAssistant)
  if text ≠ "" then text else spell ResponsesOutput.allText resp.output

def extractReasoningTextFromResponses (resp : ResponsesResponse) : String :=
  spell ResponsesOutput.allText (resp.output.filter fun out => out.type=.reasoning)

def ResponsesOutput.toolCall (out : ResponsesOutput) : (String × String) × String :=
  ((if trimSpace out.callId = "" then trimSpace out.id else trimSpace out.callId,trimSpace out.name),out.arguments)

/-- The message of `dto.OpenAITextResponse` and its finish reason. -/
structure ChatMessage where
  content : String
  reasoningContent : Option String
  toolCalls : List ((String × String) × String)
  finishReason : String

def responsesResponseToChatCompletionsResponse (resp : ResponsesResponse) : ChatMessage :=
  let reasoning := extractReasoningTextFromResponses resp
  let toolCalls := (resp.output.filter fun out => isResponsesToolOutputType out.type && trimSpace out.name ≠ "").map
    ResponsesOutput.toolCall
  { content := extractOutputTextFromResponses resp
    reasoningContent := if reasoning ≠ "" then some reasoning else none
    toolCalls
    finishReason := (responsesFinishReasonFromStatus (some resp)).getD (if toolCalls≠[] then "tool_calls" else "stop") }

/-! The stream. -/

/-- The keys of `toolByKey`. -/
inductive ToolKey
  | output (index : ℕ)
  | item (id : String)
  | call (id : String)
  deriving DecidableEq

def ToolKey.text : ToolKey → String
  | .output index => "output:" ++ toString index
  | .item id => "item:" ++ id
  | .call id => "call:" ++ id

def ToolKey.waitingCallId : ToolKey → String
  | .output index => "call_output_" ++ toString index
  | .item id => id
  | .call id => "call:" ++ id

/-- `responsesStreamTool`; what was sent of the arguments is counted in bytes. -/
structure StreamTool where
  key : ToolKey
  callId : String
  itemId : String
  name : String
  arguments : String
  index : ℕ
  sent : Bool
  nameSent : Bool
  argsSentAt : ℕ

/-- `ResponsesToChatStreamState`. -/
structure StreamState where
  id : String
  model : String
  includeUsage : Bool
  usage : Usage
  sentStart : Bool
  finalized : Bool
  hasSentText : Bool
  sawToolCall : Bool
  hasSentReasoning : Bool
  needsReasoningSummaryBreak : Bool
  nextToolIndex : ℕ
  toolByKey : AList fun _ : ToolKey => StreamTool
  outputIndexToKey : AList fun _ : ℕ => ToolKey
  itemIdToKey : AList fun _ : String => ToolKey
  pendingArgsByOutputIndex : AList fun _ : ℕ => String
  pendingArgsByItemId : AList fun _ : String => String
  usageText : String

def newResponsesToChatStreamState (id model : String) (includeUsage : Bool) : StreamState :=
  ⟨id,model,includeUsage,.zero,false,false,false,false,false,false,0,∅,∅,∅,∅,∅,""⟩

/-- What follows the first `n` bytes, for `n` at the start of a character. -/
def dropBytes : ℕ → List Char → List Char
  | _,[] => []
  | n,c::cs => if n=0 then c::cs else dropBytes (n-c.utf8Size) cs

namespace StreamState
variable (s : StreamState)
def makeChunk (delta : Delta) (finishReason : Option String) : Chunk := ⟨s.id,s.model,[⟨delta,finishReason⟩],none⟩

def applyResponseMetadata (response : Option ResponsesResponse) : StreamState :=
  match response with
  | none => s
  | some resp =>
    { s with
      id := if s.id = "" then resp.id else s.id
      model := if resp.model ≠ "" then resp.model else s.model
      usage := if resp.usage.isSome then usageFromResponsesUsage resp.usage else s.usage }

def ensureStart : StreamState × List Chunk :=
  if s.sentStart then (s,[]) else ({ s with sentStart := true },[s.makeChunk ⟨some "",none,none,[]⟩ none])

def noteText (delta : String) : StreamState := { s with usageText := s.usageText++delta, hasSentText := true }

def textDelta (delta : String) : StreamState × List Chunk :=
  if delta = "" then (s,[])
  else
    let (s,chunks) := (s.noteText delta).ensureStart
    (s,chunks++[s.makeChunk ⟨some delta,none,none,[]⟩ none])

def breakSummary (delta : String) : String :=
  if !s.needsReasoningSummaryBreak then delta
  else if "\n\n".toList.isPrefixOf delta.toList then delta
  else if "\n".toList.isPrefixOf delta.toList then "\n" ++ delta
  else "\n\n" ++ delta

def noteReasoning (delta : String) : StreamState :=
  { s with needsReasoningSummaryBreak := false, usageText := s.usageText++delta }

def reasoningDelta (delta : String) : StreamState × List Chunk :=
  if delta = "" then (s,[])
  else
    let delta := s.breakSummary delta
    let (s,chunks) := (s.noteReasoning delta).ensureStart
    ({ s with hasSentReasoning := true },chunks++[s.makeChunk ⟨none,some delta,none,[]⟩ none])

def store (tool : StreamTool) : StreamState := { s with toolByKey := s.toolByKey.insert tool.key tool }
end StreamState

section
variable (event : ResponsesEvent)
def keyForEvent : Option ToolKey :=
  match event.outputIndex with
  | some index => some (.output index)
  | none =>
    let byItemId := if trimSpace event.itemId ≠ "" then some (.item (trimSpace event.itemId)) else none
    match event.item with
    | none => byItemId
    | some item =>
      if trimSpace item.id ≠ "" then some (.item (trimSpace item.id))
      else if trimSpace item.callId ≠ "" then some (.call (trimSpace item.callId))
      else byItemId

def responseStreamEventItemId : String :=
  match event.item with
  | none => trimSpace event.itemId
  | some item => if trimSpace item.id ≠ "" then trimSpace item.id else trimSpace event.itemId

def fallbackCallId : String :=
  if trimSpace event.itemId ≠ "" then trimSpace event.itemId
  else match event.outputIndex with
    | some index => "call_output_" ++ toString index
    | none => ""
end

namespace StreamState
variable (s : StreamState)
def toolAt (key : ToolKey) (callId : String) : StreamState × StreamTool :=
  match s.toolByKey.lookup key with
  | some tool => (s,tool)
  | none =>
    let tool : StreamTool := ⟨key,callId,"","","",s.nextToolIndex,false,false,0⟩
    ({ s.store tool with nextToolIndex := s.nextToolIndex+1 },tool)

/-- Registers the output index and the item of an event for a tool, with the arguments that wait for it. -/
def claim (event : ResponsesEvent) (tool : StreamTool) : StreamState × StreamTool :=
  let (s,tool) := match event.outputIndex with
    | none => (s,tool)
    | some index =>
      ({ s with
          outputIndexToKey := s.outputIndexToKey.insert index tool.key
          pendingArgsByOutputIndex := s.pendingArgsByOutputIndex.erase index },
        { tool with arguments := tool.arguments++(s.pendingArgsByOutputIndex.lookup index).getD "" })
  let itemId := responseStreamEventItemId event
  if itemId = "" then (s,tool)
  else
    ({ s with
        itemIdToKey := s.itemIdToKey.insert itemId tool.key
        pendingArgsByItemId := s.pendingArgsByItemId.erase itemId },
      { tool with itemId, arguments := tool.arguments++(s.pendingArgsByItemId.lookup itemId).getD "" })

/-- `ensureToolForEvent` for an event with an item; `fallbackToolKey` adds no key to those of `keyForEvent`. -/
def ensureToolForEvent (event : ResponsesEvent) (item : ResponsesOutput) : Option (StreamState × StreamTool) :=
  (keyForEvent event).map fun key =>
    let (s,tool) := s.toolAt key ""
    let (s,tool) := s.claim event tool
    let callId :=
      if trimSpace item.callId ≠ "" then trimSpace item.callId
      else if tool.callId = "" then trimSpace item.id else tool.callId
    (s,{ tool with callId, name := if trimSpace item.name ≠ "" then trimSpace item.name else tool.name })

def findToolForEvent (event : ResponsesEvent) : Option StreamTool :=
  match event.outputIndex.bind s.outputIndexToKey.lookup with
  | some key => s.toolByKey.lookup key
  | none =>
    match if trimSpace event.itemId ≠ "" then s.itemIdToKey.lookup (trimSpace event.itemId) else none with
    | some key => s.toolByKey.lookup key
    | none => if event.item.isSome then (keyForEvent event).bind s.toolByKey.lookup else none

def ensureFallbackToolForEvent (event : ResponsesEvent) : Option (StreamState × StreamTool) :=
  let key := match event.outputIndex with
    | some index => some (ToolKey.output index)
    | none => if trimSpace event.itemId ≠ "" then some (.item (trimSpace event.itemId)) else none
  key.map fun key =>
    let (s,tool) := s.toolAt key (fallbackCallId event)
    s.claim event tool

/-- The delta of a tool: a piece of its arguments, or what was not yet sent of them. -/
def toolDelta (tool : StreamTool) (explicitDelta : String) : StreamState × List Chunk :=
  let argsDelta :=
    if explicitDelta = "" then String.ofList (dropBytes tool.argsSentAt tool.arguments.toList) else explicitDelta
  if tool.sent ∧ argsDelta = "" ∧ (tool.name = "" ∨ tool.nameSent) then (s.store tool,[])
  else
    let (s,chunks) := s.ensureStart
    let callId := if trimSpace tool.callId = "" then tool.key.text else trimSpace tool.callId
    let name := if tool.nameSent then "" else tool.name
    let sent := { tool with
      nameSent := tool.nameSent || tool.name ≠ ""
      sent := true
      argsSentAt := tool.argsSentAt+argsDelta.utf8ByteSize }
    ({ s.store sent with sawToolCall := true, usageText := s.usageText++argsDelta++name },
      chunks++[s.makeChunk ⟨none,none,none,[⟨some tool.index,callId,name,argsDelta⟩]⟩ none])

def toolItem (event : ResponsesEvent) (item : ResponsesOutput) : StreamState × List Chunk :=
  match s.ensureToolForEvent event item with
  | none => (s,[])
  | some (s,tool) =>
    s.toolDelta { tool with arguments := if item.arguments ≠ "" then item.arguments else tool.arguments } ""

def toolArgumentsDelta (event : ResponsesEvent) : StreamState × List Chunk :=
  if event.delta = "" then (s,[])
  else match s.findToolForEvent event with
    | some tool => s.toolDelta { tool with arguments := tool.arguments++event.delta } event.delta
    | none =>
      match event.outputIndex with
      | some index =>
        ({ s with
            pendingArgsByOutputIndex := s.pendingArgsByOutputIndex.insert index
              ((s.pendingArgsByOutputIndex.lookup index).getD "" ++ event.delta) },[])
      | none =>
        let itemId := trimSpace event.itemId
        if itemId = "" then (s,[])
        else
          ({ s with
              pendingArgsByItemId := s.pendingArgsByItemId.insert itemId
                ((s.pendingArgsByItemId.lookup itemId).getD "" ++ event.delta) },[])

def flushPendingTool (event : ResponsesEvent) : StreamState × List Chunk :=
  match s.findToolForEvent event with
  | some tool => s.toolDelta tool ""
  | none =>
    match s.ensureFallbackToolForEvent event with
    | some (s,tool) => s.toolDelta tool ""
    | none => (s,[])

/-- An output item of the terminal response: texts only if none was sent, tools in any case. -/
def terminalOutput (out : ResponsesOutput) : StreamState × List Chunk :=
  if out.type=.message ∧ s.hasSentText=false then s.textDelta out.outputText
  else if out.type=.reasoning ∧ s.hasSentReasoning=false then s.reasoningDelta out.allText
  else if isResponsesToolOutputType out.type then s.toolItem ⟨.other,none,"",some out,none,""⟩ out
  else (s,[])
end StreamState

def collect {α : Type} (f : StreamState → α → StreamState × List Chunk) (s : StreamState) :
    List α → StreamState × List Chunk
  | [] => (s,[])
  | a::as =>
    let (s,chunks) := f s a
    let (s,more) := collect f s as
    (s,chunks++more)

namespace StreamState
variable (s : StreamState)
def terminalOutputChunks (response : Option ResponsesResponse) : StreamState × List Chunk :=
  match response with
  | none => (s,[])
  | some resp => collect terminalOutput s resp.output

def takePending (key : ToolKey) (tool : StreamTool) : StreamState × StreamTool :=
  match key with
  | .output index =>
    ({ s with pendingArgsByOutputIndex := s.pendingArgsByOutputIndex.erase index },
      { tool with arguments := tool.arguments++(s.pendingArgsByOutputIndex.lookup index).getD "" })
  | .item id =>
    ({ s with pendingArgsByItemId := s.pendingArgsByItemId.erase id },
      { tool with arguments := tool.arguments++(s.pendingArgsByItemId.lookup id).getD "" })
  | .call _ => (s,tool)

/-- Sends what is left of the tool under a key, which arguments may have been waiting for. -/
def flushKey (key : ToolKey) : StreamState × List Chunk :=
  let (s,tool) := s.toolAt key key.waitingCallId
  let (s,tool) := s.takePending key tool
  s.toolDelta tool ""

def flushAllPendingTools : StreamState × List Chunk :=
  let keys := (s.toolByKey.keys++s.pendingArgsByOutputIndex.keys.map ToolKey.output ++
    s.pendingArgsByItemId.keys.map ToolKey.item).dedup
  collect flushKey s (keys.insertionSort fun a b => a.text≤b.text)

def markFinalized : StreamState := { s with finalized := true }

def finalize (response : Option ResponsesResponse) : StreamState × List Chunk :=
  if s.finalized then (s,[])
  else
    let (s,flushed) := s.markFinalized.flushAllPendingTools
    let (s,start) := s.ensureStart
    let finishReason :=
      (responsesFinishReasonFromStatus response).getD (if s.sawToolCall then "tool_calls" else "stop")
    (s,flushed++start++[s.makeChunk ⟨none,none,none,[]⟩ (some finishReason)] ++
      if s.includeUsage then [⟨s.id,s.model,[],some s.usage⟩] else [])
end StreamState

def ensureIncompleteResponse (response : Option ResponsesResponse) : ResponsesResponse :=
  let resp := response.getD ⟨"",none,none,"",[],none⟩
  { resp with status := resp.status.or (some "incomplete") }

def responsesStreamEventToChatChunks (s : StreamState) (event : ResponsesEvent) :
    Except String (StreamState × List Chunk) :=
  let terminal (response : Option ResponsesResponse) :=
    let (s,output) := (s.applyResponseMetadata response).terminalOutputChunks response
    let (s,chunks) := s.finalize response
    (s,output++chunks)
  match event.type with
  | .created => .ok (s.applyResponseMetadata event.response).ensureStart
  | .reasoningSummaryDelta | .reasoningTextDelta => .ok (s.reasoningDelta event.delta)
  | .reasoningSummaryDone | .reasoningTextDone =>
    .ok ({ s with needsReasoningSummaryBreak := s.needsReasoningSummaryBreak || s.hasSentReasoning },[])
  | .outputTextDelta => .ok (s.textDelta event.delta)
  | .outputItemAdded | .outputItemDone =>
    match event.item with
    | none => .ok (s,[])
    | some item => .ok (if isResponsesToolOutputType item.type then s.toolItem event item else (s,[]))
  | .functionArgsDelta | .customToolInputDelta => .ok (s.toolArgumentsDelta event)
  | .functionArgsDone | .customToolInputDone => .ok (s.flushPendingTool event)
  | .completed | .done => .ok (terminal event.response)
  | .incomplete => .ok (terminal (some (ensureIncompleteResponse event.response)))
  | .failed => .error "responses stream error: response.failed"
  | .error => .error "responses stream error: response.error"
  | .other => .ok (s,[])

def finalizeResponsesToChatStream (s : StreamState) : StreamState × List Chunk := s.finalize none
end AronaApi.Responses
