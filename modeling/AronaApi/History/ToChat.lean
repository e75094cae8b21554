import Mathlib

/-! The history of a conversation for a chat upstream (`service/convert.go`): the messages of a Claude request and
the contents of a Gemini request. Both collect the texts and the calls of one message in lists of their own, and
keep the texts only if there is no call. -/
namespace AronaApi.History
open List

inductive Role
  | user
  | assistant
  | function
  | tool
  deriving DecidableEq

structure ToolCall (I : Type) where
  id : I
  name : String
  arguments : String
  deriving DecidableEq

inductive MediaContent
  | text (text : String)
  | imageUrl (url : String)
  deriving DecidableEq

inductive Content
  | none
  | string (text : String)
  | media (parts : List MediaContent)
  deriving DecidableEq

def Content.parseContent : Content → List MediaContent
  | none => []
  | string text => [.text text]
  | media parts => parts

def MediaContent.text? : MediaContent → Option String
  | .text t => some t
  | .imageUrl _ => none

/-- A chat message with ids `I`. -/
structure Message (I : Type) where
  role : Role
  content : Content := .none
  toolCalls : List (ToolCall I) := []
  toolCallId : Option I := none
  deriving DecidableEq

def Message.texts {I : Type} (m : Message I) : List String := m.content.parseContent.filterMap MediaContent.text?

/-- The end of both loops: the content is set if there are no calls, and the message is appended if it has either. -/
def place {I : Type} (role : Role) (content : Content) (toolCalls : List (ToolCall I)) : List (Message I) :=
  if toolCalls≠[] then [⟨role,.none,toolCalls,none⟩]
  else if content.parseContent=[] then [] else [⟨role,content,[],none⟩]

/-! Claude requests. -/

variable {J : Type}
inductive Block (J : Type)
  | text (text : String)
  | image (mediaType data : String)
  | toolUse (id name : String) (input : J)
  | toolResult (toolUseId : String) (content : J)
  | other

inductive ClaudeContent (J : Type)
  | string (text : String)
  | blocks (blocks : List (Block J))

structure ClaudeMessage (J : Type) where
  fromUser : Bool
  content : ClaudeContent J

open ClaudeMessage

def ClaudeMessage.role (m : ClaudeMessage J) : Role := if m.fromUser then .user else .assistant

/-- What is asked of the JSON library: `toJSONString`, and the text of a tool result, which is a string as it is or
the encoding of its parts. -/
structure Json (J : Type) where
  toJSONString : J → String
  resultText : J → String

variable (json : Json J)
def Block.media? : Block J → Option MediaContent
  | .text t => some (.text t)
  | .image mediaType data => some (.imageUrl ("data:"++mediaType++";base64,"++data))
  | _ => none

def Block.toolCall? : Block J → Option (ToolCall String)
  | .toolUse id name input => some ⟨id,name,json.toJSONString input⟩
  | _ => none

def Block.toolMessage? : Block J → Option (Message String)
  | .toolResult toolUseId content => some ⟨.tool,.string (json.resultText content),[],some toolUseId⟩
  | _ => none

def ClaudeMessage.convert (m : ClaudeMessage J) : List (Message String) :=
  match m.content with
  | .string text => [⟨m.role,.string text,[],none⟩]
  | .blocks blocks => blocks.filterMap (Block.toolMessage? json) ++
    place m.role (.media (blocks.filterMap Block.media?)) (blocks.filterMap (Block.toolCall? json))

/-- The messages of `ClaudeToOpenAIRequest` after the system message. -/
def claudeToOpenAIRequest (messages : List (ClaudeMessage J)) : List (Message String) :=
  messages.flatMap (convert json)

/-! What a message has to become. -/

/-- What one message of the source has: its texts and calls, and the results of calls. -/
structure Source (I A : Type) where
  role : Role
  texts : List String
  calls : List (ToolCall I)
  results : List A

variable {I A : Type}
def own (out : List (Message I)) : List (Message I) := out.filter (·.role≠.tool)

/-- A tool message for every result, and at most one message with all texts and calls. -/
structure Carries (answers : A → Message I → Prop) (src : Source I A) (out : List (Message I)) : Prop where
  tools : List.Forall₂ answers src.results (out.filter (·.role=.tool))
  once : (own out).length≤1
  role : ∀ m∈own out, m.role=src.role
  texts : (own out).flatMap Message.texts=src.texts
  calls : (own out).flatMap Message.toolCalls=src.calls

lemma toolCalls_place {role : Role} {content : Content} {calls : List (ToolCall I)} :
    (place role content calls).flatMap Message.toolCalls=calls := by
  unfold place
  split_ifs <;> simp_all

lemma carries_place_iff {answers : A → Message I → Prop} (src : Source I A) (tools : List (Message I))
    (content : Content) (hrole : src.role≠.tool) (htools : ∀ t∈tools, t.role=.tool)
    (htexts : content.parseContent.filterMap MediaContent.text?=src.texts) :
    Carries answers src (tools++place src.role content src.calls) ↔
      List.Forall₂ answers src.results tools ∧ (src.calls=[] ∨ src.texts=[]) := by
  have hplace : ∀ m∈place src.role content src.calls, m.role=src.role := by
    unfold place
    split_ifs <;> simp
  have hfilter : (tools++place src.role content src.calls).filter (·.role=.tool)=tools := by
    rw [filter_append,filter_eq_self.mpr (by simpa using htools),filter_eq_nil_iff.mpr,append_nil]
    intro m hm
    simpa [hplace m hm] using hrole
  have hown : own (tools++place src.role content src.calls)=place src.role content src.calls := by
    rw [own,filter_append,filter_eq_nil_iff.mpr (by simpa using htools),filter_eq_self.mpr,nil_append]
    intro m hm
    simpa [hplace m hm] using hrole
  have hkept : (place src.role content src.calls).flatMap Message.texts=src.texts ↔ src.calls=[] ∨ src.texts=[] := by
    unfold place
    split_ifs with hnone hempty
    · simp [Message.texts,Content.parseContent,hnone,eq_comm]
    · simp_all
    · simp_all [Message.texts]
  constructor
  · intro h
    exact ⟨hfilter ▸ h.tools,hkept.mp (hown ▸ h.texts)⟩
  · rintro ⟨hres,hone⟩
    refine ⟨hfilter.symm ▸ hres,?_,hown.symm ▸ hplace,hown.symm ▸ hkept.mpr hone,hown.symm ▸ toolCalls_place⟩
    rw [hown]
    unfold place
    split_ifs <;> simp

def Block.result? : Block J → Option String
  | .toolResult toolUseId _ => some toolUseId
  | _ => none

def ClaudeMessage.source (m : ClaudeMessage J) : Source String String :=
  match m.content with
  | .string text => ⟨m.role,[text],[],[]⟩
  | .blocks blocks => ⟨m.role,(blocks.filterMap Block.media?).filterMap MediaContent.text?,
    blocks.filterMap (Block.toolCall? json),blocks.filterMap Block.result?⟩

lemma claude_carries_iff {m : ClaudeMessage J} :
    Carries (fun id t => t.toolCallId=some id) (m.source json) (m.convert json) ↔
      (m.source json).calls=[] ∨ (m.source json).texts=[] := by
  have hrole : m.role≠.tool := by
    unfold role
    split <;> simp
  cases hcontent : m.content with
  | string text =>
    simp only [source,convert,hcontent]
    refine iff_of_true ?_ (.inl trivial)
    exact (carries_place_iff ⟨m.role,[text],[],[]⟩ [] (.string text) hrole (by simp) rfl).mpr ⟨.nil,.inl rfl⟩
  | blocks blocks =>
    have hres : List.Forall₂ (fun id t => t.toolCallId=some id) (blocks.filterMap Block.result?)
        (blocks.filterMap (Block.toolMessage? json)) := by
      clear hcontent
      induction blocks with
      | nil => exact .nil
      | cons b blocks ih =>
        cases b with
        | toolResult => exact .cons rfl ih
        | text | image | toolUse | other => exact ih
    have htools : ∀ t∈blocks.filterMap (Block.toolMessage? json), t.role=.tool := by
      intro t ht
      obtain ⟨b,-,hb⟩ := mem_filterMap.mp ht
      cases b with
      | toolResult =>
        cases hb
        rfl
      | text | image | toolUse | other => cases hb
    simp only [source,convert,hcontent]
    exact (carries_place_iff ⟨m.role,_,_,_⟩ _ (.media _) hrole htools rfl).trans (and_iff_right hres)

/-- A Claude history is kept exactly if no message has a text beside a `tool_use`. -/
theorem claude_history_kept_iff (messages : List (ClaudeMessage J)) :
    (claudeToOpenAIRequest json messages=(messages.map (convert json)).flatten ∧
      ∀ m∈messages, Carries (fun id t => t.toolCallId=some id) (m.source json) (m.convert json)) ↔
      ∀ m∈messages, (m.source json).calls=[] ∨ (m.source json).texts=[] :=
  (and_iff_right flatMap_def).trans (forall₂_congr fun _ _ => claude_carries_iff json)

/-- The text that comes with a call is lost. -/
theorem text_beside_call_lost :
    claudeToOpenAIRequest ⟨id,id⟩ [⟨false,.blocks [.text "a",.toolUse "1" "f" "x"]⟩]=
      [⟨.assistant,.none,[⟨"1","f","x"⟩],none⟩] := by decide

/-! Gemini requests. -/

/-- A part by the first of its fields that the loop finds set. -/
inductive Part (J : Type)
  | text (text : String)
  | inlineData (mimeType data : String)
  | fileData (uri : String)
  | functionCall (name : String) (arguments : J)
  | functionResponse (name : String) (response : J)
  | other

inductive GeminiRole
  | user
  | model
  | function
  | other (name : String)

def convertGeminiRoleToOpenAI : GeminiRole → Role
  | .user | .other _ => .user
  | .model => .assistant
  | .function => .function

structure GeminiContent (J : Type) where
  role : GeminiRole
  parts : List (Part J)

def Part.media? : Part J → Option MediaContent
  | .text t => if t="" then none else some (.text t)
  | .inlineData mimeType data => some (.imageUrl ("data:"++mimeType++";base64,"++data))
  | .fileData uri => some (.imageUrl uri)
  | _ => none

/-- The calls of a content, numbered from `n` on; the id `call_%d` is its number. -/
def callsFrom : ℕ → List (Part J) → List (ToolCall ℕ)
  | _,[] => []
  | n,.functionCall name arguments::parts => ⟨n,name,json.toJSONString arguments⟩::callsFrom (n+1) parts
  | n,_::parts => callsFrom n parts

/-- The tool messages of a content of which `n` calls have been seen. -/
def toolsFrom : ℕ → List (Part J) → List (Message ℕ)
  | _,[] => []
  | n,.functionCall _ _::parts => toolsFrom (n+1) parts
  | n,.functionResponse _ response::parts =>
    ⟨.tool,.string (json.toJSONString response),[],some n⟩::toolsFrom n parts
  | n,_::parts => toolsFrom n parts

def contentOf : List MediaContent → Content
  | [.text t] => .string t
  | parts => .media parts

def GeminiContent.convert (c : GeminiContent J) : List (Message ℕ) :=
  toolsFrom json 0 c.parts ++
    place (convertGeminiRoleToOpenAI c.role) (contentOf (c.parts.filterMap Part.media?)) (callsFrom json 1 c.parts)

/-- A slice has its elements and what its array has room for behind them. -/
structure Slice where
  elems : List String
  spare : List String

/-- `s[:4]`, which panics beyond the capacity. -/
def Slice.first4 (s : Slice) : Option (List String) :=
  if s.elems.length+s.spare.length<4 then none else some ((s.elems++s.spare).take 4)

/-- The messages before the system message is put in front of them, and the stop sequences; `none` is a panic. -/
def geminiToOpenAIRequest (contents : List (GeminiContent J)) (stop : Slice) :
    Option (List (Message ℕ) × List String) :=
  (if stop.elems=[] then some [] else stop.first4).map (contents.flatMap (GeminiContent.convert json),·)

def Part.response? : Part J → Option String
  | .functionResponse name _ => some name
  | _ => none

/-- Texts that are not empty, calls, and the functions whose responses a content has. -/
def GeminiContent.source (c : GeminiContent J) : Source ℕ String :=
  ⟨convertGeminiRoleToOpenAI c.role,(c.parts.filterMap Part.media?).filterMap MediaContent.text?,callsFrom json 1 c.parts,
    c.parts.filterMap Part.response?⟩

/-- A tool message answers a call of the same function that was emitted before. -/
def Answers (earlier : List (Message ℕ)) (name : String) (t : Message ℕ) : Prop :=
  ∃ call∈earlier.flatMap Message.toolCalls, t.toolCallId=some call.id ∧ call.name=name

/-- Every content is carried, with the contents before it emitted first. -/
def Follows (contents : List (GeminiContent J)) : Prop :=
  ∀ pre c post, contents=pre++c::post →
    Carries (Answers (pre.flatMap (GeminiContent.convert json))) (c.source json) (c.convert json)

variable {contents : List (GeminiContent J)} {c : GeminiContent J} {parts : List (Part J)} {n : ℕ}
lemma stop_iff {s : Slice} : (if s.elems=[] then some [] else s.first4)=some (s.elems.take 4) ↔
    s.elems=[] ∨ 4 ≤ s.elems.length := by
  by_cases hnone : s.elems=[]
  · simp [hnone]
  rw [if_neg hnone,or_iff_right hnone,Slice.first4]
  split_ifs with hroom
  · simp only [false_iff]
    omega
  rw [Option.some.injEq]
  constructor
  · intro h
    have hlen := congrArg List.length h
    simp only [length_take,length_append] at hlen
    omega
  · exact take_append_of_le_length

lemma map_id_callsFrom : (callsFrom json n parts).map ToolCall.id=List.range' n (callsFrom json n parts).length := by
  fun_induction callsFrom json n parts <;> simp_all [List.range'_succ]

lemma mem_toolsFrom {t : Message ℕ} {k : ℕ} (h : t∈toolsFrom json n parts) :
    t.role=.tool ∧ t.toolCalls=[] ∧ ∃ i≤n+(callsFrom json k parts).length, t.toolCallId=some i := by
  induction parts generalizing n k with
  | nil => cases h
  | cons p parts ih =>
    cases p with
    | functionCall name arguments =>
      obtain ⟨hrole,hcalls,i,hi,hid⟩ := ih (n := n+1) (k := k+1) h
      refine ⟨hrole,hcalls,i,?_,hid⟩
      simp only [callsFrom,length_cons]
      omega
    | functionResponse name response =>
      rcases mem_cons.mp h with rfl | hmem
      · exact ⟨rfl,rfl,n,by omega,rfl⟩
      · exact ih hmem
    | text | inlineData | fileData | other => exact ih h

lemma toolsFrom_eq_nil_iff : toolsFrom json n parts=[] ↔ parts.filterMap Part.response?=[] := by
  induction parts generalizing n with
  | nil => simp [toolsFrom]
  | cons p parts ih =>
    cases p with
    | functionResponse name response => simp [toolsFrom,Part.response?]
    | functionCall | text | inlineData | fileData | other => exact ih

lemma toolCalls_convert : (c.convert json).flatMap Message.toolCalls=(c.source json).calls := by
  have htools : (toolsFrom json 0 c.parts).flatMap Message.toolCalls=[] :=
    flatMap_eq_nil_iff.mpr fun t ht => (mem_toolsFrom json (k := 1) ht).2.1
  rw [GeminiContent.convert,flatMap_append,htools,toolCalls_place]
  rfl

lemma carries_convert_iff {earlier : List (Message ℕ)} : Carries (Answers earlier) (c.source json) (c.convert json) ↔
    List.Forall₂ (Answers earlier) (c.source json).results (toolsFrom json 0 c.parts) ∧
      ((c.source json).calls=[] ∨ (c.source json).texts=[]) := by
  have hrole : (c.source json).role≠.tool := by
    unfold GeminiContent.source
    cases c.role <;> simp [convertGeminiRoleToOpenAI]
  refine carries_place_iff (c.source json) _ _ hrole (fun t ht => (mem_toolsFrom json (k := 1) ht).1) ?_
  unfold contentOf
  split
  next t hone => simp [GeminiContent.source,hone,Content.parseContent]
  · rfl

lemma nodup_ids_iff :
    (((contents.flatMap (GeminiContent.convert json)).flatMap Message.toolCalls).map ToolCall.id).Nodup ↔
      contents.Pairwise fun a b => (a.source json).calls=[] ∨ (b.source json).calls=[] := by
  have hids : ((contents.flatMap (GeminiContent.convert json)).flatMap Message.toolCalls).map ToolCall.id=
      contents.flatMap fun c => List.range' 1 (c.source json).calls.length := by
    rw [flatMap_assoc,map_flatMap]
    refine flatMap_congr fun c _ => ?_
    rw [toolCalls_convert]
    exact map_id_callsFrom json
  rw [hids,nodup_flatMap,and_iff_right fun _ _ => nodup_range']
  refine List.Pairwise.iff fun a b => ?_
  simp only [Function.onFun,← length_eq_zero_iff]
  constructor
  · intro h
    by_contra hne
    exact h (a := 1) (by simp only [mem_range'_1]; omega) (by simp only [mem_range'_1]; omega)
  · rintro (h | h) <;> simp [h]

/-- A response is given the number of a call of its own content, or 0, so it answers no earlier call. -/
lemma results_eq_nil {pre post : List (GeminiContent J)}
    (hpair : (pre++c::post).Pairwise fun a b => (a.source json).calls=[] ∨ (b.source json).calls=[])
    (h : List.Forall₂ (Answers (pre.flatMap (GeminiContent.convert json))) (c.source json).results
      (toolsFrom json 0 c.parts)) : (c.source json).results=[] := by
  cases hres : (c.source json).results with
  | nil => rfl
  | cons name rest =>
    rw [hres] at h
    cases htools : toolsFrom json 0 c.parts with
    | nil => simp [htools] at h
    | cons t ts =>
      rw [htools] at h
      obtain ⟨⟨call,hcall,hid,-⟩,-⟩ := List.forall₂_cons.mp h
      obtain ⟨-,-,i,hi,hti⟩ := mem_toolsFrom json (k := 1) (htools ▸ mem_cons_self : t∈toolsFrom json 0 c.parts)
      obtain ⟨m,hm,hmc⟩ := mem_flatMap.mp hcall
      obtain ⟨a,ha,hma⟩ := mem_flatMap.mp hm
      have hmem : call∈(a.source json).calls := toolCalls_convert json ▸ mem_flatMap.mpr ⟨m,hma,hmc⟩
      have hpos : 1 ≤ call.id := by
        have := mem_map_of_mem (f := ToolCall.id) hmem
        rw [GeminiContent.source,map_id_callsFrom,mem_range'_1] at this
        exact this.1
      have hlen : 1≤(c.source json).calls.length := by
        rw [hti,Option.some.injEq] at hid
        have : (c.source json).calls.length=(callsFrom json 1 c.parts).length := rfl
        omega
      rcases (pairwise_append.mp hpair).2.2 a ha c mem_cons_self with hnil | hnil
      · simp [hnil] at hmem
      · simp [hnil] at hlen

/-- A Gemini history is kept exactly if the stop sequences are none or at least four, no content has a text beside a
call, no two contents have calls, and there is no function response. -/
theorem gemini_history_kept_iff (contents : List (GeminiContent J)) (stop : Slice) :
    (∃ messages, geminiToOpenAIRequest json contents stop=some (messages,stop.elems.take 4) ∧ Follows json contents ∧
      ((messages.flatMap Message.toolCalls).map ToolCall.id).Nodup) ↔
      (stop.elems=[] ∨ 4 ≤ stop.elems.length) ∧
      (∀ c∈contents, (c.source json).calls=[] ∨ (c.source json).texts=[]) ∧
      contents.Pairwise (fun a b => (a.source json).calls=[] ∨ (b.source json).calls=[]) ∧
      ∀ c∈contents, (c.source json).results=[] := by
  constructor
  · rintro ⟨messages,hreq,hfollows,hnodup⟩
    obtain ⟨s,hs,heq⟩ := Option.map_eq_some_iff.mp hreq
    obtain ⟨rfl,rfl⟩ := Prod.mk.inj heq
    have hpair := (nodup_ids_iff json).mp hnodup
    refine ⟨stop_iff.mp hs,fun c hc => ?_,hpair,fun c hc => ?_⟩
    · obtain ⟨pre,post,hsplit⟩ := append_of_mem hc
      exact ((carries_convert_iff json).mp (hfollows pre c post hsplit)).2
    · obtain ⟨pre,post,rfl⟩ := append_of_mem hc
      exact results_eq_nil json hpair ((carries_convert_iff json).mp (hfollows pre c post rfl)).1
  · rintro ⟨hstop,hkept,hpair,hnone⟩
    refine ⟨_,by rw [geminiToOpenAIRequest,stop_iff.mpr hstop]; rfl,?_,(nodup_ids_iff json).mpr hpair⟩
    rintro pre c post rfl
    have hmem : c∈pre++c::post := by simp
    refine (carries_convert_iff json).mpr ⟨?_,hkept c hmem⟩
    rw [hnone c hmem,(toolsFrom_eq_nil_iff json).mpr (hnone c hmem)]
    exact .nil

/-- One stop sequence in an array of one is a panic; a text goes with the call beside it, the calls of two contents
share an id, and a response answers no call. -/
theorem gemini_history_lost :
    geminiToOpenAIRequest ⟨id,id⟩ [] ⟨["x"],[]⟩=none ∧
    (geminiToOpenAIRequest ⟨id,id⟩ [⟨.model,[.text "a",.functionCall "f" "1"]⟩,⟨.function,[.functionResponse "f" "2"]⟩,
      ⟨.model,[.functionCall "g" "3"]⟩] ⟨[],[]⟩).map (fun r => r.1.map fun m => (m.content,m.toolCalls.map ToolCall.id,
        m.toolCallId))=some [(.none,[1],none),(.string "2",[],some 0),(.none,[1],none)] := by decide
end AronaApi.History
