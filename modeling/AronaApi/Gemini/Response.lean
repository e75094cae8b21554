import AronaApi.Gemini.Request
import AronaApi.Lib.Lines

/-! A Gemini answer as an OpenAI one: `responseGeminiChat2OpenAI` for a whole response and
`streamResponseGeminiChat2OpenAI` for one chunk of a stream. Tool call ids are random and left out. -/
namespace AronaApi.Gemini
open GeminiPart

variable {J : Type}
inductive GeminiFinishReason
  | stop
  | maxTokens
  | safety
  | recitation
  | blocklist
  | prohibitedContent
  | spii
  | other
  | unknown (name : String)
  deriving DecidableEq

inductive FinishReason
  | stop
  | length
  | contentFilter
  | toolCalls
  deriving DecidableEq

def finishReasonOf : GeminiFinishReason → FinishReason
  | .stop => .stop
  | .maxTokens => .length
  | .safety | .recitation | .blocklist | .prohibitedContent | .spii | .other | .unknown _ => .contentFilter

structure GeminiChatCandidate (J : Type) where
  index : ℤ
  parts : List (GeminiPart J)
  finishReason : Option GeminiFinishReason := none

structure FunctionCallResponse where
  name : String
  arguments : String
  deriving DecidableEq

variable (marshal : J → Option String)
def getResponseToolCall (call : String × J) : Option FunctionCallResponse :=
  (marshal call.2).map fun arguments => ⟨call.1,arguments⟩

def toolCallsOf (parts : List (GeminiPart J)) : List FunctionCallResponse :=
  parts.filterMap fun p =>
    match p.inlineData with
    | some _ => none
    | none => p.functionCall.bind (getResponseToolCall marshal)

def GeminiPart.isFunctionCall (p : GeminiPart J) : Bool := p.inlineData.isNone && p.functionCall.isSome

def GeminiPart.isThought (p : GeminiPart J) : Bool := p.inlineData.isNone && p.functionCall.isNone && p.thought

def GeminiPart.isText (p : GeminiPart J) : Bool :=
  p.inlineData.isNone && p.functionCall.isNone && !p.thought && p.executableCode.isNone && p.codeExecutionResult.isNone

def isImage (mimeType : String) : Bool := "image".toList.isPrefixOf mimeType.toList

def dataLink (label : String) (data : String × String) : String :=
  label++"(data:"++data.1++";base64,"++data.2++")"

/-- What code, a result of code or a text writes; `close` ends a block. -/
def answerPiece (close : String) (p : GeminiPart J) : Option String :=
  match p.executableCode,p.codeExecutionResult with
  | some code,_ => some ("```"++code.1++"\n"++code.2++close)
  | none,some output => some ("```output\n"++output++close)
  | none,none => if p.text = "\n" then none else some p.text

def wholePiece (p : GeminiPart J) : Option String :=
  match p.inlineData with
  | some data => some (dataLink (if isImage data.1 then "![image]" else "[media]") data)
  | none => if p.functionCall.isSome || p.thought then none else answerPiece "\n```" p

structure Choice where
  index : ℤ
  content : String
  reasoningContent : Option String
  toolCalls : List FunctionCallResponse
  finishReason : FinishReason
  deriving DecidableEq

/-- The choice of one candidate; `isToolCall` is what the candidates before and this one left in the flag. -/
def choiceOf (isToolCall : Bool) (c : GeminiChatCandidate J) : Choice where
  index := c.index
  content := Lines.join (c.parts.filterMap wholePiece)
  -- every thought replaces the one before
  reasoningContent := (c.parts.filter isThought).getLast?.map text
  toolCalls := toolCallsOf marshal c.parts
  finishReason :=
    if isToolCall then .toolCalls
    else match c.finishReason with
      | some reason => finishReasonOf reason
      | none => if c.parts.any isFunctionCall then .toolCalls else .stop

def choicesFrom : Bool → List (GeminiChatCandidate J) → List Choice
  | _,[] => []
  | isToolCall,c::cs =>
    let isToolCall := isToolCall || toolCallsOf marshal c.parts≠[]
    choiceOf marshal isToolCall c::choicesFrom isToolCall cs

def responseGeminiChat2OpenAI (candidates : List (GeminiChatCandidate J)) : List Choice :=
  choicesFrom marshal false candidates

/-- What a part of a chunk writes: thoughts too, and of inline data only images. -/
def chunkPiece (p : GeminiPart J) : Option String :=
  match p.inlineData with
  | some data => if isImage data.1 then some (dataLink "![image]" data) else none
  | none =>
    if p.functionCall.isSome then none
    else if p.thought then some p.text
    else answerPiece "\n```\n" p

structure StreamChoice where
  index : ℤ
  content : Option String
  reasoningContent : Option String
  toolCalls : List FunctionCallResponse
  finishReason : Option FinishReason
  deriving DecidableEq

def streamFinishReason (c : GeminiChatCandidate J) : Option FinishReason :=
  if c.parts.any isFunctionCall then some .toolCalls
  else match c.finishReason with
    | none | some .stop => none
    | some reason => some (finishReasonOf reason)

/-- One candidate of a chunk: all that is written goes to the reasoning as soon as one part is a thought. -/
def streamChoiceOf (c : GeminiChatCandidate J) : StreamChoice :=
  let written := Lines.join (c.parts.filterMap chunkPiece)
  let isThought := c.parts.any isThought
  { index := c.index
    content := if isThought then none else some written
    reasoningContent := if isThought then some written else none
    toolCalls := toolCallsOf marshal c.parts
    finishReason := streamFinishReason c }

def streamResponseGeminiChat2OpenAI (candidates : List (GeminiChatCandidate J)) : List StreamChoice × Bool :=
  (candidates.map (streamChoiceOf marshal),candidates.any fun c => c.finishReason=some .stop)
end AronaApi.Gemini
