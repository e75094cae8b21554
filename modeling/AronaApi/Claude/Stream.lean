import AronaApi.Lib.BlockStream
import AronaApi.Pricing.TextQuota

/-! OpenAI chat chunks turned into Claude's stream events (`StreamResponseOpenAI2Claude` of
`service/convert.go`). The converter keeps the type of the block it is writing, the index of that block and,
for tools, the index of the first one and the largest offset from it. -/
namespace AronaApi.Claude
open Pricing

structure ToolCall where
  index : Option ℕ
  id : String
  name : String
  arguments : String

structure Delta where
  content : Option String
  reasoningContent : Option String
  reasoning : Option String
  toolCalls : List ToolCall

structure Choice where
  delta : Delta
  finishReason : Option String

/-- `dto.ChatCompletionsStreamResponse`. -/
structure Chunk where
  id : String
  model : String
  choices : List Choice
  usage : Option Usage

def Delta.getContentString (delta : Delta) : String := delta.content.getD ""

def Delta.getReasoningContent (delta : Delta) : String := (delta.reasoningContent.or delta.reasoning).getD ""

def Choice.finish (choice : Choice) : Option String := choice.finishReason.filter fun reason => reason ≠ ""

structure ClaudeUsage where
  inputTokens : ℤ
  outputTokens : ℤ
  cacheCreationInputTokens : ℤ
  cacheReadInputTokens : ℤ
  cacheCreation : Option (ℤ × ℤ)

inductive ContentBlock
  | text
  | thinking
  | toolUse (id name : String)

inductive ContentDelta
  | textDelta (text : String)
  | thinkingDelta (thinking : String)
  | inputJsonDelta (partialJson : String)

/-- `dto.ClaudeResponse` by its type. -/
inductive ClaudeResponse
  | messageStart (id model : String) (inputTokens : ℤ)
  | contentBlockStart (index : ℕ) (block : ContentBlock)
  | contentBlockDelta (index : ℕ) (delta : ContentDelta)
  | contentBlockStop (index : ℕ)
  | messageDelta (usage : ClaudeUsage) (stopReason : String)
  | messageStop

inductive LastMessageType
  | none
  | text
  | tools
  | thinking
  deriving DecidableEq

structure ClaudeConvertInfo where
  lastMessagesType : LastMessageType
  index : ℕ
  usage : Option Usage
  finishReason : String
  done : Bool
  toolCallBaseIndex : ℕ
  toolCallMaxIndexOffset : ℕ

/-- `strings.ToLower`, and the estimate of the prompt's tokens. -/
structure ConvertEnv where
  toLower : String → String
  estimatePromptTokens : ℤ

def normalizeCacheCreationSplit (totalTokens tokens5m tokens1h : ℤ) : ℤ × ℤ :=
  (tokens5m+max (totalTokens-tokens5m-tokens1h) 0,tokens1h)

def buildClaudeUsageFromOpenAIUsage (usage : Usage) : ClaudeUsage :=
  let (tokens5m,tokens1h) := normalizeCacheCreationSplit usage.promptTokensDetails.cachedCreationTokens
    usage.claudeCacheCreation5mTokens usage.claudeCacheCreation1hTokens
  { inputTokens := usage.promptTokens
    outputTokens := usage.completionTokens
    cacheCreationInputTokens := usage.promptTokensDetails.cachedCreationTokens
    cacheReadInputTokens := usage.promptTokensDetails.cachedTokens
    cacheCreation := if tokens5m > 0 ∨ tokens1h > 0 then some (tokens5m,tokens1h) else none }

def stopReasonOpenAI2Claude (env : ConvertEnv) (finishReason : String) : String :=
  let lower := env.toLower finishReason
  if lower = "stop" then "end_turn"
  else if lower = "stop_sequence" then "stop_sequence"
  else if lower = "length" ∨ lower = "max_tokens" then "max_tokens"
  else if lower = "content_filter" then "refusal"
  else if lower = "tool_calls" then "tool_use"
  else finishReason

section
variable (info : ClaudeConvertInfo)
/-- The stops of the open block, or of all tool blocks up to the largest offset. -/
def stopOpenBlocks : List ClaudeResponse :=
  match info.lastMessagesType with
  | .none => []
  | .text | .thinking => [.contentBlockStop info.index]
  | .tools => (List.range (info.toolCallMaxIndexOffset+1)).map fun offset =>
      .contentBlockStop (info.toolCallBaseIndex+offset)

def stopOpenBlocksAndAdvance : ClaudeConvertInfo × List ClaudeResponse :=
  match info.lastMessagesType with
  | .none => (info,[])
  | .tools =>
    ({ info with
        index := info.toolCallBaseIndex+info.toolCallMaxIndexOffset+1
        toolCallBaseIndex := 0
        toolCallMaxIndexOffset := 0
        lastMessagesType := .none },stopOpenBlocks info)
  | .text | .thinking => ({ info with index := info.index+1, lastMessagesType := .none },stopOpenBlocks info)

/-- A piece of text or reasoning. The first chunk starts a block in any case, a later one if the type changes. -/
def writeContent (first : Bool) (type : LastMessageType) (block : ContentBlock) (delta : ContentDelta) :
    ClaudeConvertInfo × List ClaudeResponse :=
  let (next,stops) := if info.lastMessagesType≠type then stopOpenBlocksAndAdvance info else (info,[])
  let starts := if first ∨ info.lastMessagesType≠type then [ClaudeResponse.contentBlockStart next.index block] else []
  ({ next with lastMessagesType := type },stops++starts++[.contentBlockDelta next.index delta])

def convertContent (first : Bool) (delta : Delta) : ClaudeConvertInfo × List ClaudeResponse :=
  if delta.getReasoningContent ≠ "" then
    writeContent info first .thinking .thinking (.thinkingDelta delta.getReasoningContent)
  else if delta.getContentString ≠ "" then writeContent info first .text .text (.textDelta delta.getContentString)
  else (info,[])

def convertFirstTool (toolCalls : List ToolCall) : ClaudeConvertInfo × List ClaudeResponse :=
  match toolCalls with
  | [] => (info,[])
  | toolCall::_ =>
    ({ info with lastMessagesType := .tools, toolCallBaseIndex := 0, toolCallMaxIndexOffset := 0 },
      .contentBlockStart 0 (.toolUse toolCall.id toolCall.name)::
        if toolCall.arguments ≠ "" then [.contentBlockDelta 0 (.inputJsonDelta toolCall.arguments)] else [])

def toolCallEvents (index : ℕ) (toolCall : ToolCall) : List ClaudeResponse :=
  (if toolCall.name ≠ "" then [.contentBlockStart index (.toolUse toolCall.id toolCall.name)] else []) ++
    if toolCall.arguments ≠ "" then [.contentBlockDelta index (.inputJsonDelta toolCall.arguments)] else []

/-- The loop over the tool calls of a later chunk, with the largest offset so far. -/
def toolCallsLoop (base : ℕ) : ℕ → ℕ → List ToolCall → ℕ × List ClaudeResponse
  | _,maxOffset,[] => (maxOffset,[])
  | i,maxOffset,toolCall::toolCalls =>
    let offset := toolCall.index.getD i
    let (largest,events) := toolCallsLoop base (i+1) (max maxOffset offset) toolCalls
    (largest,toolCallEvents (base+offset) toolCall++events)

def convertTools (toolCalls : List ToolCall) : ClaudeConvertInfo × List ClaudeResponse :=
  let (next,stops) :=
    if info.lastMessagesType≠.tools then
      let (advanced,stops) := stopOpenBlocksAndAdvance info
      ({ advanced with toolCallBaseIndex := advanced.index, toolCallMaxIndexOffset := 0 },stops)
    else (info,[])
  let (maxOffset,events) := toolCallsLoop next.toolCallBaseIndex 0 next.toolCallMaxIndexOffset toolCalls
  ({ next with
      lastMessagesType := .tools
      toolCallMaxIndexOffset := maxOffset
      index := next.toolCallBaseIndex+maxOffset },stops++events)

def closeMessage (usage : Option Usage) (stopReason : String) : ClaudeConvertInfo × List ClaudeResponse :=
  ({ info with done := true },stopOpenBlocks info ++
    (usage.map fun u => ClaudeResponse.messageDelta (buildClaudeUsageFromOpenAIUsage u) stopReason).toList ++
    [.messageStop])
end

def convertFirst (env : ConvertEnv) (info : ClaudeConvertInfo) (chunk : Chunk) :
    ClaudeConvertInfo × List ClaudeResponse :=
  let started := ClaudeResponse.messageStart chunk.id chunk.model env.estimatePromptTokens
  match chunk.choices with
  | [] => (info,[started])
  | choice::_ =>
    let (info,tools) := convertFirstTool info choice.delta.toolCalls
    let (info,content) := convertContent info true choice.delta
    let events := started::tools++content
    match choice.finish with
    | none => (info,events)
    | some reason =>
      let (info,close) := closeMessage { info with finishReason := reason } (chunk.usage.or info.usage)
        (stopReasonOpenAI2Claude env reason)
      (info,events++close)

/-- A later chunk. With a finish reason but without a usage it is put off, with all it carries. -/
def convertLater (env : ConvertEnv) (info : ClaudeConvertInfo) (chunk : Chunk) :
    ClaudeConvertInfo × List ClaudeResponse :=
  match chunk.choices with
  | [] =>
    match chunk.usage.or info.usage with
    | none => (info,[])
    | some usage =>
      let stopReason := stopReasonOpenAI2Claude env info.finishReason
      closeMessage info (some usage) (if stopReason = "" then "end_turn" else stopReason)
  | choice::_ =>
    let info := { info with finishReason := choice.finish.getD info.finishReason }
    if choice.finish.isSome ∧ chunk.usage=none then (info,[])
    else
      let (info,events) :=
        if choice.delta.toolCalls≠[] then convertTools info choice.delta.toolCalls
        else convertContent info false choice.delta
      if choice.finish.isSome then
        let (info,close) := closeMessage info chunk.usage (stopReasonOpenAI2Claude env info.finishReason)
        (info,events++close)
      else (info,events)

def streamResponseOpenAI2Claude (env : ConvertEnv) (sendResponseCount : ℕ) (info : ClaudeConvertInfo)
    (chunk : Chunk) : ClaudeConvertInfo × List ClaudeResponse :=
  if info.done then (info,[])
  else if sendResponseCount=1 then convertFirst env info chunk
  else convertLater env info chunk
end AronaApi.Claude
