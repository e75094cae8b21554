import AronaApi.Gemini.Thoughts

/-! How a Gemini stream of one candidate ends for an OpenAI client (`GeminiChatStreamHandler`). A chunk that calls a
function ends the choice by itself; that is taken back for the first chunk only, and the stop chunk ends it in any case. -/
namespace AronaApi.Gemini
open List FunctionCallResponse

variable {J : Type}
/-- A tool call as a chunk has it; `hasId` is false once `ClearToolCalls` has taken its id, type and name. -/
structure ToolDelta where
  index : ℕ
  hasId : Bool
  name : String
  arguments : String
  deriving DecidableEq

structure Delta where
  content : Option String
  reasoningContent : Option String
  toolCalls : List ToolDelta
  finishReason : Option FinishReason
  deriving DecidableEq

/-- The handler between two chunks; `sent` says that `SendResponseCount` is not 0. -/
structure Handler where
  finishReason : FinishReason := .stop
  nextToolCallIndex : ℕ := 0
  sent : Bool := false

open Handler

/-- The ids of tool calls are fresh, so none is found among the earlier ones and each call takes the next index. -/
def opened (n : ℕ) (calls : List FunctionCallResponse) : List ToolDelta :=
  (calls.zipIdx n).map fun p => ⟨p.2,true,p.1.name,p.1.arguments⟩

def generateStartEmptyResponse (toolCalls : List ToolDelta) : Delta := ⟨some "",none,toolCalls,none⟩

def generateStopResponse (finishReason : FinishReason) : Delta := ⟨none,none,[],some finishReason⟩

def Delta.clearToolCalls (d : Delta) : Delta :=
  { d with toolCalls := d.toolCalls.map fun call => { call with hasId := false,name := "" } }

/-- The first response goes out in two: the names of its calls ahead of their arguments. -/
def firstResponses (d : Delta) : List Delta :=
  if d.toolCalls=[] then [generateStartEmptyResponse [],d]
  else [generateStartEmptyResponse (d.toolCalls.map fun call => { call with arguments := "" }),
    { d.clearToolCalls with finishReason := none }]

variable (marshal : J → Option String)
def responseOf (n : ℕ) (c : GeminiChatCandidate J) : Delta :=
  let choice := streamChoiceOf marshal c
  ⟨choice.content,choice.reasoningContent,opened n choice.toolCalls,choice.finishReason⟩

/-- The handler's callback, with what it sends. -/
def Handler.feed (h : Handler) (c : GeminiChatCandidate J) : Handler × List Delta :=
  let response := responseOf marshal h.nextToolCallIndex c
  let finishReason := if response.toolCalls=[] then h.finishReason else .toolCalls
  (⟨finishReason,h.nextToolCallIndex+response.toolCalls.length,true⟩,(if h.sent then [response] else firstResponses response) ++
    if c.finishReason=some .stop then [generateStopResponse finishReason] else [])

def Handler.run (h : Handler) : List (GeminiChatCandidate J) → List Delta
  | [] => []
  | c::cs => (h.feed marshal c).2++run (h.feed marshal c).1 cs

/-- The chunks of the candidate, which stops with the last. -/
def chunksOf (first : List (GeminiPart J)) : List (List (GeminiPart J)) → List (GeminiChatCandidate J)
  | [] => [⟨0,first,some .stop⟩]
  | next::rest => ⟨0,first,none⟩::chunksOf next rest

def finishes (sent : List Delta) : List FinishReason := sent.filterMap Delta.finishReason

/-- One chunk ends the choice; it is the last, has nothing else, and says whether a function was called. -/
def EndsOnce (called : Bool) (sent : List Delta) : Prop :=
  ∃ reason, finishes sent=[reason] ∧ sent.getLast? = some (generateStopResponse reason) ∧
    (reason=.toolCalls ↔ called=true)

/-- The calls are opened under 0, 1, 2, …, and the pieces under an index are the arguments of its call. -/
structure Numbered (deltas : List ToolDelta) (calls : List FunctionCallResponse) : Prop where
  opened : (deltas.filter ToolDelta.hasId).map (fun d => (d.index,d.name))=calls.zipIdx.map fun p => (p.2,p.1.name)
  arguments : ∀ k, String.join ((deltas.filter (·.index=k)).map ToolDelta.arguments) = (calls[k]?.map arguments).getD ""

def sharedCalls (m : J → String) : List (GeminiPart J) → List FunctionCallResponse := toolCallsOf fun j => some (m j)

variable {m : J → String} {h : Handler} {first : List (GeminiPart J)} {rest : List (List (GeminiPart J))}
  {calls more : List FunctionCallResponse} {n : ℕ}

lemma sharedCalls_eq_nil_iff : sharedCalls m first=[] ↔ callsFunction first=false := by
  rw [sharedCalls,toolCallsOf,filterMap_eq_nil_iff,callsFunction,any_eq_false]
  refine forall₂_congr fun p _ => ?_
  cases hdata : p.inlineData <;> cases hcall : p.functionCall <;>
    simp [GeminiPart.isFunctionCall,getResponseToolCall,hdata,hcall]

lemma opened_append : opened n (calls++more)=opened n calls++opened (n+calls.length) more := by simp [opened,zipIdx_append]

/-- The reason of the stop chunk. -/
def final (r : FinishReason) (shares : List (List (GeminiPart J))) : FinishReason :=
  if shares.any callsFunction then .toolCalls else r

lemma final_cons (r : FinishReason) (first : List (GeminiPart J)) (rest : List (List (GeminiPart J))) :
    final r (first::rest)=final (final r [first]) rest := by
  cases hcall : callsFunction first <;> simp [final,hcall]

/-- A chunk as a response that is not the first. -/
def share (m : J → String) (n : ℕ) (parts : List (GeminiPart J)) :
    Delta := responseOf (fun j => some (m j)) n ⟨0,parts,none⟩

lemma finishReason_share : (share m n first).finishReason=if callsFunction first then some .toolCalls else none := rfl

lemma toolCalls_share_eq_nil_iff : (share m n first).toolCalls=[] ↔ callsFunction first=false :=
  (map_eq_nil_iff.trans zipIdx_eq_nil_iff).trans (sharedCalls_eq_nil_iff (m := m))

lemma finishReason_feed : (if (share m n first).toolCalls=[] then h.finishReason else .toolCalls) =
    final h.finishReason [first] := by
  cases hcall : callsFunction first <;> simp [final,toolCalls_share_eq_nil_iff,hcall]

/-- Everything after the first chunk's own response. -/
def after (m : J → String) (h : Handler) (first : List (GeminiPart J)) : List (List (GeminiPart J)) → List Delta
  | [] => [generateStopResponse (final h.finishReason [first])]
  | next::rest => run (fun j => some (m j))
    ⟨final h.finishReason [first],h.nextToolCallIndex+(sharedCalls m first).length,true⟩ (chunksOf next rest)

lemma run_eq : h.run (fun j => some (m j)) (chunksOf first rest) =
    (if h.sent then [share m h.nextToolCallIndex first] else firstResponses (share m h.nextToolCallIndex first)) ++
      after m h first rest := by
  cases rest with
  | nil =>
    have hshare : responseOf (fun j => some (m j)) h.nextToolCallIndex ⟨0,first,some .stop⟩ =
        share m h.nextToolCallIndex first := rfl
    simp only [chunksOf,run,feed,hshare,finishReason_feed,if_true,append_nil,after]
  | cons next rest =>
    have hshare : responseOf (fun j => some (m j)) h.nextToolCallIndex ⟨0,first,
      none⟩=share m h.nextToolCallIndex first :=
      rfl
    have hcalls : (share m h.nextToolCallIndex first).toolCalls.length=(sharedCalls m first).length := by
      simp [share,responseOf,streamChoiceOf,opened,sharedCalls]
    simp only [chunksOf,run,feed,hshare,finishReason_feed,hcalls,reduceCtorEq,if_false,append_nil,after]

/-- What follows the first chunk: each call ends the choice, and so does the stop chunk. -/
structure Closes (m : J → String) (h : Handler) (first : List (GeminiPart J)) (rest : List (List (GeminiPart J)))
    (sent : List Delta) : Prop where
  finishes : finishes sent = (rest.filter callsFunction).map (fun _ => .toolCalls)++[final h.finishReason (first::rest)]
  last : sent.getLast? = some (generateStopResponse (final h.finishReason (first::rest)))
  calls : sent.flatMap Delta.toolCalls=opened (h.nextToolCallIndex+(sharedCalls m first).length) (rest.flatMap (sharedCalls m))

lemma closes_after (h : Handler) (first : List (GeminiPart J)) (rest : List (List (GeminiPart J))) :
    Closes m h first rest (after m h first rest) := by
  induction rest generalizing h first with
  | nil => exact ⟨rfl,rfl,rfl⟩
  | cons next rest ih =>
    obtain ⟨hfin,hlast,hcalls⟩ := ih ⟨final h.finishReason [first],h.nextToolCallIndex+(sharedCalls m first).length,
      true⟩ next
    rw [after,run_eq,if_pos rfl]
    refine ⟨?_,?_,?_⟩
    · have hnext : finishes [share m (h.nextToolCallIndex+(sharedCalls m first).length) next] =
          ([next].filter callsFunction).map fun _ => .toolCalls := by
        cases hcall : callsFunction next <;> simp [finishes,finishReason_share,hcall]
      rw [finishes,filterMap_append,final_cons _ first (next::rest)]
      refine (congrArg₂ (· ++ ·) hnext hfin).trans ?_
      rw [← append_assoc,← map_append,← filter_append]
      rfl
    · rw [List.getLast?_append,hlast,← final_cons]
      rfl
    · have hcons : (next::rest).flatMap (sharedCalls m)=sharedCalls m next++rest.flatMap (sharedCalls m) := rfl
      rw [flatMap_append,hcalls,hcons,opened_append]
      simp [share,responseOf,streamChoiceOf,sharedCalls]

lemma finishes_firstResponses : finishes (firstResponses (share m n first))=[] := by
  unfold firstResponses
  split
  next hnil => simp [finishes,finishReason_share,toolCalls_share_eq_nil_iff.mp hnil,generateStartEmptyResponse]
  · rfl

/-- The calls of the first chunk are opened ahead of their arguments. -/
def openedAhead (calls : List FunctionCallResponse) : List ToolDelta :=
  (opened 0 calls).map (fun call => { call with arguments := "" }) ++
    (opened 0 calls).map fun call => { call with hasId := false,name := "" }

lemma toolCalls_firstResponses :
    (firstResponses (share m 0 first)).flatMap Delta.toolCalls=openedAhead (sharedCalls m first) := by
  unfold firstResponses
  split
  next hnil =>
    have hnone : sharedCalls m first=[] := sharedCalls_eq_nil_iff.mpr (toolCalls_share_eq_nil_iff.mp hnil)
    simp [hnil,hnone,generateStartEmptyResponse,openedAhead,opened]
  · simp [generateStartEmptyResponse,Delta.clearToolCalls]
    rfl

lemma joined_opened (calls : List FunctionCallResponse) (n k : ℕ) :
    String.join (((opened n calls).filter (·.index=k)).map ToolDelta.arguments) =
    if n≤k then (calls[k-n]?.map arguments).getD "" else "" := by
  induction calls generalizing n with
  | nil => simp [opened]
  | cons call calls ih =>
    have hcons : opened n (call::calls)=⟨n,true,call.name,call.arguments⟩::opened (n+1) calls := rfl
    rw [hcons]
    rcases lt_trichotomy n k with hlt | rfl | hgt
    · have hsub : k-n=k-(n+1)+1 := by omega
      rw [filter_cons_of_neg (by simpa using hlt.ne),ih,if_pos (Nat.succ_le_of_lt hlt),if_pos hlt.le,hsub]
      rfl
    · rw [filter_cons_of_pos (by simp),map_cons,String.join_cons,ih,if_neg (by omega)]
      simp
    · rw [filter_cons_of_neg (by simpa using hgt.ne'),ih,if_neg (by omega),if_neg (by omega)]

lemma numbered_opened : Numbered (openedAhead calls++opened calls.length more) (calls++more) := by
  constructor
  · simp [openedAhead,opened,filter_map,zipIdx_append,Function.comp_def]
  · intro k
    have hahead : String.join (((openedAhead calls).filter (·.index=k)).map ToolDelta.arguments) =
        (calls[k]?.map arguments).getD "" := by
      have hblank : ∀ n, String.join (List.replicate n "") = "" := by
        intro n
        induction n <;> simp_all [replicate_succ]
      have hbodies := joined_opened calls 0 k
      simpa [openedAhead,filter_map,Function.comp_def,hblank] using hbodies
    rw [filter_append,map_append,String.join_append,hahead,joined_opened]
    rcases lt_or_ge k calls.length with hlt | hge
    · rw [if_neg (by omega),List.getElem?_append_left hlt,String.append_empty]
    rw [if_pos hge,List.getElem?_append_right hge,List.getElem?_eq_none hge]
    simp

/-- A stream of one candidate ends once, with its calls numbered, exactly if no chunk but the first calls a function. -/
theorem ends_once_iff (m : J → String) (first : List (GeminiPart J)) (rest : List (List (GeminiPart J))) :
    let sent := run (fun j => some (m j)) {} (chunksOf first rest)
    (EndsOnce ((first::rest).any callsFunction) sent ∧
      Numbered (sent.flatMap Delta.toolCalls) ((first::rest).flatMap (sharedCalls m))) ↔
      ∀ parts∈rest, callsFunction parts=false := by
  intro sent
  have hrun : sent=firstResponses (share m 0 first)++after m {} first rest := run_eq
  obtain ⟨hafter,hstop,hcalls⟩ := closes_after (m := m) {} first rest
  have hfin : finishes sent=(rest.filter callsFunction).map (fun _ => .toolCalls)++[final .stop (first::rest)] := by
    rw [hrun,finishes,filterMap_append]
    exact (congrArg₂ (· ++ ·) finishes_firstResponses hafter).trans (nil_append _)
  have hlast : sent.getLast? = some (generateStopResponse (final .stop (first::rest))) := by
    rw [hrun,List.getLast?_append,hstop]
    rfl
  have hnumbered : Numbered (sent.flatMap Delta.toolCalls) ((first::rest).flatMap (sharedCalls m)) := by
    rw [hrun,flatMap_append,toolCalls_firstResponses,hcalls,Nat.zero_add]
    exact numbered_opened
  have hreason : final .stop (first::rest)=.toolCalls ↔ (first::rest).any callsFunction=true := by
    unfold final
    split <;> simp_all
  constructor
  · rintro ⟨⟨reason,honce,-⟩,-⟩ parts hparts
    have hlen := congrArg List.length (hfin.symm.trans honce)
    simp only [length_append,length_map,length_singleton,Nat.add_eq_right,length_eq_zero_iff,filter_eq_nil_iff] at hlen
    exact Bool.eq_false_iff.mpr (hlen parts hparts)
  · intro hnone
    have hfilter : rest.filter callsFunction=[] := filter_eq_nil_iff.mpr fun parts hparts => by
      simp [hnone parts hparts]
    rw [hfilter] at hfin
    exact ⟨⟨_,hfin,hlast,hreason⟩,hnumbered⟩

/-- A text, then a call, then the stop: the choice ends twice. -/
theorem called_later :
    ¬EndsOnce true (run some {} (chunksOf [{ text := "a" }] [[{ functionCall := some ("f","x") }],[]])) := by
  have htwice : finishes (run some {} (chunksOf [{ text := "a" }] [[{ functionCall := some ("f","x") }],[]])) =
      [.toolCalls,.toolCalls] := by decide +kernel
  rintro ⟨reason,honce,-⟩
  rw [htwice] at honce
  cases honce
end AronaApi.Gemini
