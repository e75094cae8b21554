import AronaApi.Claude.Content
import AronaApi.Gemini.Response

/-! An OpenAI answer for a Gemini client: `ResponseOpenAI2Gemini` for a whole response and
`StreamResponseOpenAI2Gemini` for one chunk, which is converted without a memory of those before. -/
namespace AronaApi.Gemini
open Claude (ToolCall Reading number)
open List GeminiChatCandidate

variable {J : Type}
/-- The JSON library: `parseObject` is `json.Unmarshal` into a map. -/
structure Json (J : Type) where
  parseObject : String → Option J
  emptyObject : J
  wrap : String → J → J
  string : String → J

/-- `dto.ChatCompletionsStreamResponseChoiceDelta`; an empty list of tool calls is not a missing one. -/
structure OpenAIDelta where
  content : Option String
  toolCalls : Option (List ToolCall)

open OpenAIDelta

structure OpenAIChoice where
  index : ℤ
  delta : OpenAIDelta
  finishReason : Option String

structure OpenAIUsage where
  promptTokens : ℤ
  completionTokens : ℤ
  totalTokens : ℤ

structure OpenAIChunk where
  choices : List OpenAIChoice
  usage : Option OpenAIUsage

/-- A choice of a whole response, its content as `StringContent` gives it. -/
structure OpenAIMessage where
  index : ℤ
  content : String
  toolCalls : List ToolCall
  finishReason : String

structure GeminiChatResponse (J : Type) where
  candidates : List (GeminiChatCandidate J)
  promptTokenCount : ℤ
  candidatesTokenCount : ℤ
  totalTokenCount : ℤ

def geminiFinishReason : String → GeminiFinishReason
  | "length" => .maxTokens
  | "content_filter" => .safety
  | _ => .stop

variable (json : Json J)
def callArguments (arguments : String) : J :=
  if arguments = "" then json.emptyObject
  else (json.parseObject arguments).getD (json.wrap "arguments" (json.string arguments))

def callPart (call : ToolCall) : GeminiPart J := {functionCall := some (call.name,callArguments json call.arguments)}

def textPart (text : String) : List (GeminiPart J) := if text = "" then [] else [{text}]

def responseOpenAI2Gemini (choices : List OpenAIMessage) (usage : OpenAIUsage) : GeminiChatResponse J where
  candidates := choices.map fun choice =>
    { index := choice.index
      parts := textPart choice.content++choice.toolCalls.map (callPart json)
      finishReason := some (geminiFinishReason choice.finishReason) }
  promptTokenCount := usage.promptTokens
  candidatesTokenCount := usage.completionTokens
  totalTokenCount := usage.promptTokens+usage.completionTokens

def OpenAIDelta.getContentString (delta : OpenAIDelta) : String := delta.content.getD ""

def deltaParts (delta : OpenAIDelta) : List (GeminiPart J) :=
  match delta.toolCalls with
  | some toolCalls => toolCalls.map (callPart json)
  | none => textPart delta.getContentString

def OpenAIChoice.hasContent (choice : OpenAIChoice) : Bool :=
  choice.delta.getContentString ≠ "" || choice.delta.toolCalls.getD []≠[]

def streamResponseOpenAI2Gemini (estimatePromptTokens : ℤ) (chunk : OpenAIChunk) : Option (GeminiChatResponse J) :=
  if !chunk.choices.any OpenAIChoice.hasContent && !chunk.choices.any fun choice => choice.finishReason.isSome then none
  else
    some
      { candidates := chunk.choices.map fun choice =>
          { index := choice.index
            parts := deltaParts json choice.delta
            finishReason := choice.finishReason.map geminiFinishReason }
        promptTokenCount := (chunk.usage.map OpenAIUsage.promptTokens).getD estimatePromptTokens
        candidatesTokenCount := (chunk.usage.map OpenAIUsage.completionTokens).getD 0
        totalTokenCount := (chunk.usage.map OpenAIUsage.totalTokens).getD estimatePromptTokens }

/-! Whole and streamed. -/

def streamedParts (estimatePromptTokens : ℤ) (chunks : List OpenAIChunk) (i : ℤ) : List (GeminiPart J) :=
  ((chunks.filterMap (streamResponseOpenAI2Gemini json estimatePromptTokens)).flatMap fun response =>
    response.candidates.filter fun c => c.index=i).flatMap parts

def deltasOf (chunks : List OpenAIChunk) (i : ℤ) : List OpenAIDelta :=
  ((chunks.flatMap OpenAIChunk.choices).filter fun choice => choice.index=i).map OpenAIChoice.delta

def OpenAIDelta.calls (delta : OpenAIDelta) : List (ℕ × ToolCall) := number 0 (delta.toolCalls.getD [])

def callsOf (deltas : List OpenAIDelta) : List (ℕ × ToolCall) := deltas.flatMap calls

/-- The message the deltas are a split of: the texts one after another, and the tool calls put together by their
indices. -/
def messageOf (deltas : List OpenAIDelta) (i : ℤ) (finishReason : String) : OpenAIMessage where
  index := i
  content := spell getContentString deltas
  toolCalls := ((callsOf deltas).foldl Reading.feedTool .empty).tools.map fun part =>
    ⟨none,part.header.1,part.header.2,part.body⟩
  finishReason := finishReason

def gist (parts : List (GeminiPart J)) : String × List (String × J) :=
  (spell GeminiPart.text parts,parts.filterMap GeminiPart.functionCall)

def SameParts (estimatePromptTokens : ℤ) (chunks : List OpenAIChunk) (i : ℤ) (finishReason : String)
    (usage : OpenAIUsage) : Prop :=
  gist (streamedParts json estimatePromptTokens chunks i) =
    gist ((responseOpenAI2Gemini json [messageOf (deltasOf chunks i) i finishReason] usage).candidates.flatMap
      parts)

/-- Every text is in a chunk without a list of tool calls, and every tool call in one delta. -/
structure InOnePiece (deltas : List OpenAIDelta) : Prop where
  texts : ∀ delta∈deltas, delta.toolCalls≠none → delta.getContentString = ""
  calls : ((callsOf deltas).map Prod.fst).Nodup

@[simp] lemma gist_append (parts more : List (GeminiPart J)) :
    gist (parts++more)=((gist parts).1++(gist more).1,(gist parts).2++(gist more).2) := by simp [gist]

variable {json}
lemma gist_textPart (text : String) : gist (textPart text : List (GeminiPart J))=(text,[]) := by
  unfold textPart
  split
  next hemp =>
    rw [hemp]
    rfl
  · simp [gist]

lemma gist_callParts (toolCalls : List ToolCall) : gist (toolCalls.map (callPart json)) =
      ("",toolCalls.map fun call => (call.name,callArguments json call.arguments)) := by
  induction toolCalls with
  | nil => rfl
  | cons call calls ih =>
    rw [map_cons,← singleton_append,gist_append,ih]
    simp [gist,callPart]

lemma gist_deltaParts (delta : OpenAIDelta) :
    gist (deltaParts json delta) = (if delta.toolCalls=none then delta.getContentString else "",
        delta.calls.map fun call => (call.2.name,callArguments json call.2.arguments)) := by
  have hcls : (delta.calls.map fun call => (call.2.name,callArguments json call.2.arguments)) =
      (delta.toolCalls.getD []).map fun call => (call.name,callArguments json call.arguments) := by
    have hmap := congrArg (List.map fun call => (call.name,callArguments json call.arguments))
      (Claude.map_snd_number 0 (delta.toolCalls.getD []))
    rw [map_map] at hmap
    exact hmap
  rw [hcls,deltaParts]
  cases delta.toolCalls with
  | none => exact gist_textPart _
  | some toolCalls => exact gist_callParts toolCalls

lemma gist_flatMap_deltaParts (deltas : List OpenAIDelta) : gist (deltas.flatMap (deltaParts json)) =
      (spell getContentString (deltas.filter fun delta => delta.toolCalls=none),
        (callsOf deltas).map fun call => (call.2.name,callArguments json call.2.arguments)) := by
  induction deltas with
  | nil => rfl
  | cons delta deltas ih =>
    have hcls : callsOf (delta::deltas)=delta.calls++callsOf deltas := flatMap_cons
    rw [flatMap_cons,gist_append,ih,gist_deltaParts,hcls,map_append]
    by_cases hnone : delta.toolCalls=none
    · rw [if_pos hnone,filter_cons_of_pos (by simpa using hnone),spell_cons]
    · rw [if_neg hnone,filter_cons_of_neg (by simpa using hnone),String.empty_append]

lemma deltaParts_of_not_hasContent {choice : OpenAIChoice} (h : choice.hasContent=false) :
    deltaParts json choice.delta=[] := by
  obtain ⟨htext,hcls⟩ : choice.delta.getContentString = "" ∧ choice.delta.toolCalls.getD []=[] := by
    simpa [OpenAIChoice.hasContent] using h
  unfold deltaParts
  cases htool : choice.delta.toolCalls with
  | none =>
    show textPart _=_
    rw [htext]
    rfl
  | some toolCalls =>
    rw [htool] at hcls
    show toolCalls.map _=[]
    rw [show toolCalls=[] from hcls]
    rfl

lemma parts_of_chunk (estimatePromptTokens : ℤ) (chunk : OpenAIChunk) (i : ℤ) :
    ((streamResponseOpenAI2Gemini json estimatePromptTokens chunk).toList.flatMap fun response =>
      response.candidates.filter fun c => c.index=i).flatMap parts =
    (deltasOf [chunk] i).flatMap (deltaParts json) := by
  have hdelt : deltasOf [chunk] i=(chunk.choices.filter fun choice => choice.index=i).map OpenAIChoice.delta := by
    simp [deltasOf]
  rw [hdelt,streamResponseOpenAI2Gemini]
  split
  next hskip =>
    have hemp : ∀ choice∈chunk.choices, choice.hasContent=false := by
      simp only [Bool.and_eq_true,Bool.not_eq_true',any_eq_false] at hskip
      intro choice hcho
      simpa using hskip.1 choice hcho
    symm
    rw [flatMap_map,Option.toList_none,flatMap_nil,flatMap_nil,flatMap_eq_nil_iff]
    intro choice hcho
    exact deltaParts_of_not_hasContent (hemp choice (mem_filter.mp hcho).1)
  · rw [Option.toList_some,flatMap_singleton,filter_map,flatMap_map,flatMap_map]
    rfl

lemma streamedParts_eq (estimatePromptTokens : ℤ) (chunks : List OpenAIChunk) (i : ℤ) :
    streamedParts json estimatePromptTokens chunks i=(deltasOf chunks i).flatMap (deltaParts json) := by
  induction chunks with
  | nil => rfl
  | cons chunk chunks ih =>
    have hdelt : deltasOf (chunk::chunks) i=deltasOf [chunk] i++deltasOf chunks i := by simp [deltasOf]
    have hstr : (chunk::chunks).filterMap (streamResponseOpenAI2Gemini json estimatePromptTokens) =
        (streamResponseOpenAI2Gemini json estimatePromptTokens chunk).toList++
          chunks.filterMap (streamResponseOpenAI2Gemini json estimatePromptTokens) := by
      cases hchunk : streamResponseOpenAI2Gemini json estimatePromptTokens chunk with
      | none => rw [filterMap_cons_none hchunk,Option.toList_none,nil_append]
      | some response => rw [filterMap_cons_some hchunk,Option.toList_some,singleton_append]
    rw [hdelt,flatMap_append,← ih,← parts_of_chunk estimatePromptTokens,streamedParts,hstr,
      flatMap_append,flatMap_append]
    rfl

section
def FreshCalls (keys : List ℕ) (calls : List (ℕ × ToolCall)) : Prop :=
  (calls.map Prod.fst).Nodup ∧ ∀ call∈calls, call.1∉keys

lemma freshCalls_cons {keys : List ℕ} {call : ℕ × ToolCall} {calls : List (ℕ × ToolCall)} :
    FreshCalls keys (call::calls) ↔ call.1∉keys ∧ FreshCalls (keys++[call.1]) calls := by
  have hmem : call.1∉calls.map Prod.fst ↔ ∀ other∈calls, other.1≠call.1 := by simp only [mem_map,not_exists,not_and,
    ne_eq]
  simp only [FreshCalls,map_cons,nodup_cons,forall_mem_cons,mem_append,mem_singleton,not_or,forall_and,hmem]
  constructor
  · rintro ⟨⟨hoth,hndp⟩,hnew,hfresh⟩
    exact ⟨hnew,hndp,hfresh,hoth⟩
  · rintro ⟨hnew,hndp,hfresh,hoth⟩
    exact ⟨⟨hoth,hndp⟩,hnew,hfresh⟩

variable {r : Reading} {call : ℕ × ToolCall}
lemma length_feedTool_of_mem (h : call.1∈Span.keys r.tools) : (r.feedTool call).tools.length=r.tools.length := by
  have hkeys : Span.keys (r.feedTool call).tools=Span.keys r.tools := by
    rw [Reading.feedTool,if_pos h,Reading.extend,Span.keys_extend]
  simpa [Span.keys] using congrArg List.length hkeys

lemma tools_feedTool_of_not_mem (h : call.1∉Span.keys r.tools) :
    (r.feedTool call).tools=r.tools++[⟨call.1,(call.2.id,call.2.name),call.2.arguments⟩] := by
  have hkey : (⟨call.1,(call.2.id,call.2.name),""⟩ : Span (String × String)).key=call.1 := rfl
  rw [Reading.feedTool,if_neg h]
  show Span.extend call.1 call.2.arguments (r.tools++[⟨call.1,(call.2.id,call.2.name),""⟩])=_
  rw [Span.extend_append_cons hkey not_mem_nil]
  simp [Span.grow]

variable (calls : List (ℕ × ToolCall))
lemma length_foldl_feedTool (r : Reading) :
    (calls.foldl Reading.feedTool r).tools.length ≤ r.tools.length+calls.length ∧
    ((calls.foldl Reading.feedTool r).tools.length=r.tools.length+calls.length →
      FreshCalls (Span.keys r.tools) calls) := by
  induction calls generalizing r with
  | nil => simp [FreshCalls]
  | cons call calls ih =>
    obtain ⟨hle,hfresh⟩ := ih (r.feedTool call)
    rw [foldl_cons,length_cons]
    by_cases hold : call.1∈Span.keys r.tools
    · rw [length_feedTool_of_mem hold] at hle
      refine ⟨?_,?_⟩
      · omega
      · intro hmany
        omega
    rw [tools_feedTool_of_not_mem hold] at hle hfresh
    simp only [length_append,length_singleton,Span.keys_append] at hle hfresh
    refine ⟨?_,?_⟩
    · omega
    · intro hmany
      exact freshCalls_cons.mpr ⟨hold,hfresh (by omega)⟩

lemma content_foldl_feedTool {r : Reading} (h : FreshCalls (Span.keys r.tools) calls) :
    (calls.foldl Reading.feedTool r).tools.map Span.content =
      r.tools.map Span.content++calls.map fun call => ((call.2.id,call.2.name),call.2.arguments) := by
  induction calls generalizing r with
  | nil => simp
  | cons call calls ih =>
    obtain ⟨hnew,hrest⟩ := freshCalls_cons.mp h
    have htls := tools_feedTool_of_not_mem hnew
    have hkeys : Span.keys (r.feedTool call).tools=Span.keys r.tools++[call.1] := by
      rw [htls,Span.keys_append]
      rfl
    rw [← hkeys] at hrest
    rw [foldl_cons,ih hrest,htls]
    simp [Span.content]
end

/-- The streamed parts are those of the whole message exactly if no text shares a chunk with tool calls and every
tool call comes in one piece. -/
theorem sameParts_iff_inOnePiece (estimatePromptTokens : ℤ) (chunks : List OpenAIChunk) (i : ℤ) (finishReason : String)
    (usage : OpenAIUsage) :
    SameParts json estimatePromptTokens chunks i finishReason usage ↔ InOnePiece (deltasOf chunks i) := by
  have hwhl : ((responseOpenAI2Gemini json [messageOf (deltasOf chunks i) i finishReason] usage).candidates.flatMap
      parts)=textPart (spell getContentString (deltasOf chunks i))++
        (messageOf (deltasOf chunks i) i finishReason).toolCalls.map (callPart json) := flatMap_singleton _ _
  have htls : ((messageOf (deltasOf chunks i) i finishReason).toolCalls.map fun call =>
      (call.name,callArguments json call.arguments)) =
      (((callsOf (deltasOf chunks i)).foldl Reading.feedTool .empty).tools.map Span.content).map fun content =>
        (content.1.2,callArguments json content.2) := by simp [messageOf,Span.content]
  have htxt := spell_filter_eq_iff getContentString (fun delta => delta.toolCalls=none)
    (deltasOf chunks i)
  unfold SameParts
  rw [streamedParts_eq,gist_flatMap_deltaParts,hwhl,gist_append,gist_textPart,gist_callParts,htls,
    String.append_empty,nil_append,Prod.mk.injEq,htxt]
  constructor
  · rintro ⟨htext,hcls⟩
    have hleng := congrArg List.length hcls
    simp only [length_map] at hleng
    have hfresh := (length_foldl_feedTool (callsOf (deltasOf chunks i)) .empty).2
      (by rw [← hleng]; exact (Nat.zero_add _).symm)
    exact ⟨fun delta hdlt hsome => htext delta hdlt (by simpa using hsome),hfresh.1⟩
  · rintro ⟨htext,hndp⟩
    refine ⟨fun delta hdlt hsome => htext delta hdlt (by simpa using hsome),?_⟩
    rw [content_foldl_feedTool (r := .empty) _ ⟨hndp,fun _ _ => not_mem_nil⟩]
    simp [Reading.empty]

def pairJson : Json String := ⟨fun s => if s.length=2 then some s else none,"",fun key value => key++":"++value,id⟩

def chunkWith (content : Option String) (toolCalls : Option (List ToolCall)) : OpenAIChunk :=
  ⟨[⟨0,⟨content,toolCalls⟩,none⟩],none⟩

/-- Arguments in two pieces are two calls with half of them each, and a text next to a tool call is gone. -/
theorem cutCall_textBesideCall_differ :
    gist (streamedParts pairJson 0
      [chunkWith none (some [⟨some 0,"id","f","a"⟩]),chunkWith none (some [⟨some 0,"","","b"⟩])] 0) =
      ("",[("f","arguments:a"),("","arguments:b")]) ∧
    ¬SameParts pairJson 0
      [chunkWith none (some [⟨some 0,"id","f","a"⟩]),chunkWith none (some [⟨some 0,"","","b"⟩])] 0 "tool_calls" ⟨0,0,0⟩ ∧
    gist (streamedParts pairJson 0 [chunkWith (some "hi") (some [⟨some 0,"id","f","ab"⟩])] 0)=("",[("f","ab")]) ∧
    ¬SameParts pairJson 0 [chunkWith (some "hi") (some [⟨some 0,"id","f","ab"⟩])] 0 "tool_calls" ⟨0,0,0⟩ ∧
    ¬SameParts pairJson 0 [chunkWith (some "hi") (some [])] 0 "stop" ⟨0,0,0⟩ := by
  unfold SameParts
  decide +kernel
end AronaApi.Gemini
