import AronaApi.Pricing.TextQuota

/-! A Responses client that is served by a chat upstream (`relay/channel/openai/responses_via_chat.go`,
`service/relayconvert/chat_to_responses_response.go`): the usage that the handlers return for billing. -/
namespace AronaApi.Relay
open Pricing

/-- `UsageFromChatUsage`; a count of zero stays the zero value. -/
def usageFromChatUsage (src : Usage) : Usage :=
  { Usage.zero with
    promptTokens := src.promptTokens
    inputTokens := src.promptTokens
    completionTokens := src.completionTokens
    outputTokens := src.completionTokens
    totalTokens := if src.totalTokens≠0 then src.totalTokens else src.promptTokens+src.completionTokens
    inputTokensDetails := if src.promptTokensDetails=⟨0,0,0,0,0⟩ then none else some src.promptTokensDetails
    completionTokenDetails := src.completionTokenDetails }

/-- The relay's own counts: the estimate of the prompt, and `EstimateTokenByModel`. -/
structure Counter where
  estimatePromptTokens : ℤ
  estimateToken : String → ℤ

def responseText2Usage (counter : Counter) (text : String) : Usage :=
  let completionTokens := counter.estimateToken text
  { Usage.zero with
    promptTokens := counter.estimatePromptTokens
    completionTokens := completionTokens
    totalTokens := counter.estimatePromptTokens+completionTokens }

def orCounted (counter : Counter) (usage : Usage) (text : String) : Usage :=
  if usage.totalTokens=0 then responseText2Usage counter text else usage

/-- A chat completion: an error of the upstream, or the usage, the text of the first choice and whether its
tool calls can be converted. -/
structure ChatResponse where
  isError : Bool
  usage : Usage
  text : String
  toolCallsConvert : Bool

def oaiChatToResponsesHandler (counter : Counter) (r : ChatResponse) : Option Usage :=
  if r.isError=true ∨ r.toolCallsConvert=false then none
  else some (orCounted counter (usageFromChatUsage r.usage) r.text)

/-- One event of a chat stream. A malformed one is logged and skipped, an error ends the stream. -/
inductive ChatChunk
  | failure
  | malformed
  | data (usage : Option Usage) (text : String)

/-- `ChatToResponsesStreamState`, as far as the usage depends on it. -/
structure StreamState where
  usage : Usage
  text : String

def streamChunk (state : StreamState) : ChatChunk → Option StreamState
  | .failure => none
  | .malformed => some state
  | .data usage text => some ⟨(usage.map usageFromChatUsage).getD state.usage,state.text++text⟩

def oaiChatToResponsesStreamHandler (counter : Counter) (chunks : List ChatChunk) : Option Usage :=
  (chunks.foldlM streamChunk ⟨Usage.zero,""⟩).map fun state => orCounted counter state.usage state.text

inductive ChatAnswer
  | whole (r : ChatResponse)
  | stream (chunks : List ChatChunk)

def ChatAnswer.billed (counter : Counter) : ChatAnswer → Option Usage
  | .whole r => oaiChatToResponsesHandler counter r
  | .stream chunks => oaiChatToResponsesStreamHandler counter chunks

def ChatChunk.usage : ChatChunk → Option Usage
  | .data usage _ => usage
  | _ => none

def ChatAnswer.reported : ChatAnswer → Option Usage
  | .whole r => some r.usage
  | .stream chunks => (chunks.filterMap ChatChunk.usage).getLast?
end AronaApi.Relay
