import AronaApi.Claude.Content

/-! A Claude answer as an OpenAI one: `ResponseClaude2OpenAI` for a whole message, and
`StreamResponseClaude2OpenAI` for one event of a stream.

Whether a Claude answer reads the same whole and streamed. The stream passes on every block; the whole
message keeps the last text, and the last thinking or else that of the first block. -/
namespace AronaApi.ClaudeChannel
open Claude

section
variable {J : Type}
/-- A content block, with JSON values `J`. -/
inductive Block (J : Type)
  | text (text : String)
  | thinking (thinking signature : String)
  | toolUse (id name : String) (input : J)

def Block.getText : Block J → String
  | .text t => t
  | _ => ""

def Block.thinking? : Block J → Option String
  | .thinking t _ => some t
  | _ => none

structure Env (J : Type) where
  marshal : J → String
  toLower : String → String

variable (env : Env J)
def claudeStopReasonToOpenAIFinishReason (stopReason : String) : String :=
  match env.toLower stopReason with
  | "stop_sequence" => "stop"
  | "end_turn" => "stop"
  | "max_tokens" => "length"
  | "tool_use" => "tool_calls"
  | "refusal" => "content_filter"
  | _ => stopReason

structure Scan where
  responseText : String
  thinkingContent : String
  tools : List ToolCall

def Scan.block (s : Scan) : Block J → Scan
  | .toolUse id name input => {s with tools := s.tools++[⟨none,id,name,env.marshal input⟩]}
  | .thinking thinking _ => {s with thinkingContent := thinking}
  | .text text => {s with responseText := text}

structure ChatMessage where
  content : String
  reasoningContent : Option String
  toolCalls : List ToolCall
  finishReason : String

def responseClaude2OpenAI (content : List (Block J)) (stopReason : String) : ChatMessage :=
  let responseText := (content.head?.map Block.getText).getD ""
  let responseThinking := (content.head?.bind Block.thinking?).getD ""
  let s := content.foldl (Scan.block env) ⟨responseText,"",[]⟩
  { content := s.responseText
    reasoningContent :=
      if s.thinkingContent ≠ "" then some s.thinkingContent
      else if responseThinking ≠ "" then some responseThinking
      else none
    toolCalls := s.tools
    finishReason := claudeStopReasonToOpenAIFinishReason env stopReason }

inductive BlockDelta
  | textDelta (text : String)
  | thinkingDelta (thinking : String)
  | signatureDelta (signature : String)
  | inputJsonDelta (partialJson : String)

/-- `dto.ClaudeResponse` by its type, as the upstream sends it. -/
inductive Event (J : Type)
  | messageStart (message : Option (String × String))
  | contentBlockStart (index : Option ℕ) (block : Option (Block J))
  | contentBlockDelta (index : Option ℕ) (delta : Option BlockDelta)
  | contentBlockStop (index : Option ℕ)
  | messageDelta (stopReason : Option String)
  | messageStop
  | ping

def chunkOf (message : String × String) (delta : Delta) (finishReason : Option String) : Chunk :=
  ⟨message.1,message.2,[⟨delta,finishReason⟩],none⟩

def toolDelta (tool : ToolCall) : Delta := ⟨none,none,none,[tool]⟩

def blockDelta (fcIdx : ℕ) : Option BlockDelta → Delta
  | none => ⟨none,none,none,[]⟩
  | some (.textDelta text) => ⟨some text,none,none,[]⟩
  | some (.inputJsonDelta partialJson) => toolDelta ⟨some fcIdx,"","",partialJson⟩
  -- what is encrypted is not passed on, but a newline stands for it
  | some (.signatureDelta _) => ⟨none,some "\n",none,[]⟩
  | some (.thinkingDelta thinking) => ⟨none,some thinking,none,[]⟩

def streamResponseClaude2OpenAI : Event J → Option Chunk
  | .messageStart message => some (chunkOf (message.getD ("","")) ⟨some "",none,none,[]⟩ none)
  | .contentBlockStart _ none => none
  | .contentBlockStart _ (some (.text text)) => some (chunkOf ("","") ⟨some text,none,none,[]⟩ none)
  | .contentBlockStart index (some (.toolUse id name _)) =>
    some (chunkOf ("","") (toolDelta ⟨some (index.getD 0),id,name,""⟩) none)
  | .contentBlockStart _ (some (.thinking _ _)) => some (chunkOf ("","") ⟨none,none,none,[]⟩ none)
  | .contentBlockDelta index delta => some (chunkOf ("","") (blockDelta (index.getD 0) delta) none)
  | .messageDelta stopReason =>
    some (chunkOf ("","") ⟨none,none,none,[]⟩
      ((stopReason.map (claudeStopReasonToOpenAIFinishReason env)).filter fun reason => reason ≠ "null"))
  | .contentBlockStop _ => none
  | .messageStop => none
  | .ping => none
end

open List Reading Block Delta Scan
variable {J : Type} (env : Env J)
/-- The events of one block: its start, deltas that spell it, and its stop. The start of a text may bring a
first piece; a signature comes after the thinking. -/
inductive BlockEvents (i : ℕ) : Block J → List (Event J) → Prop
  | text (first : String) (pieces : List String) :
    BlockEvents i (.text (first++spell id pieces))
      (.contentBlockStart (some i) (some (.text first))::
        (pieces.map fun p => .contentBlockDelta (some i) (some (.textDelta p)))++[.contentBlockStop (some i)])
  | thinking (pieces : List String) (signature : String) :
    BlockEvents i (.thinking (spell id pieces) signature)
      (.contentBlockStart (some i) (some (.thinking "" ""))::
        (pieces.map fun p => .contentBlockDelta (some i) (some (.thinkingDelta p)))++
        (if signature = "" then [] else [.contentBlockDelta (some i) (some (.signatureDelta signature))])++
        [.contentBlockStop (some i)])
  | toolUse (id name : String) (input start : J) (pieces : List String) :
    spell (fun p => p) pieces=env.marshal input →
    BlockEvents i (.toolUse id name input)
      (.contentBlockStart (some i) (some (.toolUse id name start))::
        (pieces.map fun p => .contentBlockDelta (some i) (some (.inputJsonDelta p)))++[.contentBlockStop (some i)])

/-- The events of the blocks, numbered from `i`. -/
inductive BlocksEvents : ℕ → List (Block J) → List (Event J) → Prop
  | nil (i : ℕ) : BlocksEvents i [] []
  | cons {i : ℕ} {b : Block J} {bs : List (Block J)} {events rest : List (Event J)} :
    BlockEvents env i b events → BlocksEvents (i+1) bs rest → BlocksEvents i (b::bs) (events++rest)

def Event.isPing : Event J → Bool
  | .ping => true
  | _ => false

def StreamOf (content : List (Block J)) (events : List (Event J)) : Prop :=
  ∃ message stopReason body, BlocksEvents env 0 content body ∧
    (events.filter fun e => !e.isPing)=.messageStart message::body++[.messageDelta stopReason,.messageStop]

def streamed (events : List (Event J)) : Reading :=
  (events.filterMap (streamResponseClaude2OpenAI env)).foldl feed .empty

structure Agrees (message : ChatMessage) (r : Reading) : Prop where
  content : message.content=r.text
  reasoning : message.reasoningContent.getD "" = r.thinking
  toolCalls : (message.toolCalls.map fun call => ((call.id,call.name),call.arguments))=r.tools.map Span.content

def Block.text? : Block J → Option String
  | .text t => some t
  | _ => none

def Block.thought : Block J → Option (String × String)
  | .thinking t signature => some (t,signature)
  | _ => none

def Block.call : Block J → Option ((String × String) × String)
  | .toolUse id name input => some ((id,name),env.marshal input)
  | _ => none

def texts (content : List (Block J)) : List String := content.filterMap text?

def thoughts (content : List (Block J)) : List (String × String) := content.filterMap thought

/-- At most one block of each kind is not empty, the one the whole message keeps, and no thinking is signed. -/
structure OneOfEach (content : List (Block J)) : Prop where
  texts : ∀ t∈(texts content).dropLast, t = ""
  unsigned : ∀ thought∈thoughts content, thought.2 = ""
  thoughts : (∀ thought∈(thoughts content).dropLast, thought.1 = "") ∨
    (content.head?.bind thought).isSome ∧ ∀ thought∈(thoughts content).tail, thought.1 = ""

section
variable {env} {r : Reading}
def sealed (thought : String × String) : String := thought.1++if thought.2 = "" then "" else "\n"

lemma feed_chunkOf (message : String × String) (delta : Delta) (finishReason : Option String) :
    r.feed (chunkOf message delta finishReason) = { (number 0 delta.toolCalls).foldl feedTool r with
        text := r.text++delta.getContentString
        thinking := r.thinking++delta.getReasoningContent } := rfl

lemma feed_texts (i : ℕ) (pieces : List String) :
    ((pieces.map fun p => Event.contentBlockDelta (some i) (some (.textDelta p))).filterMap
      (streamResponseClaude2OpenAI env)).foldl feed r={r with text := r.text++spell id pieces} := by
  induction pieces generalizing r with
  | nil => simp
  | cons p pieces ih =>
    rw [map_cons,filterMap_cons_some (rfl : streamResponseClaude2OpenAI env _=some _),foldl_cons,ih]
    simp [feed_chunkOf,blockDelta,number,getContentString,getReasoningContent,String.append_assoc]

lemma feed_thinkings (i : ℕ) (pieces : List String) :
    ((pieces.map fun p => Event.contentBlockDelta (some i) (some (.thinkingDelta p))).filterMap
      (streamResponseClaude2OpenAI env)).foldl feed r={r with thinking := r.thinking++spell id pieces} := by
  induction pieces generalizing r with
  | nil => simp
  | cons p pieces ih =>
    rw [map_cons,filterMap_cons_some (rfl : streamResponseClaude2OpenAI env _=some _),foldl_cons,ih]
    simp [feed_chunkOf,blockDelta,number,getContentString,getReasoningContent,String.append_assoc]

lemma feed_tool (message : String × String) (tool : ToolCall) (finishReason : Option String) :
    r.feed (chunkOf message (toolDelta tool) finishReason)=r.feedTool (tool.index.getD 0,tool) := by
  have htext : (r.feedTool (tool.index.getD 0,tool)).text=r.text := by
    unfold feedTool
    split <;> rfl
  have hthin : (r.feedTool (tool.index.getD 0,tool)).thinking=r.thinking := by
    unfold feedTool
    split <;> rfl
  rw [feed_chunkOf]
  simp only [toolDelta,number,foldl_cons,foldl_nil,getContentString,getReasoningContent,
    Option.getD_none,Option.or_none,String.append_empty]
  rw [← htext,← hthin]

lemma feed_json (i : ℕ) (pieces : List String) (ts : List (Span (String × String))) (header : String × String)
    (body : String) (hr : r.tools=ts++[⟨i,header,body⟩]) :
    ((pieces.map fun p => Event.contentBlockDelta (some i) (some (.inputJsonDelta p))).filterMap
      (streamResponseClaude2OpenAI env)).foldl feed r =
      {r with tools := ts++[⟨i,header,body++spell (fun p => p) pieces⟩]} := by
  induction pieces generalizing r body with
  | nil => simp [← hr]
  | cons p pieces ih =>
    have hmem : i∈Span.keys r.tools := by simp [hr,Span.keys]
    have hkey : (⟨i,header,body⟩ : Span (String × String)).key=i := rfl
    have hext : Span.extend i p (ts++[⟨i,header,body⟩])=ts++[⟨i,header,body++p⟩] :=
      Span.extend_append_cons hkey not_mem_nil p
    have hnext : r.feedTool (i,⟨some i,"","",p⟩)={r with tools := ts++[⟨i,header,body++p⟩]} := by
      unfold feedTool
      rw [if_pos hmem,extend,hr,hext]
    rw [map_cons,filterMap_cons_some (rfl : streamResponseClaude2OpenAI env _=some _),foldl_cons]
    show List.foldl feed (r.feed (chunkOf _ (toolDelta ⟨some i,"","",p⟩) none)) _=_
    rw [feed_tool]
    show List.foldl feed (r.feedTool (i,⟨some i,"","",p⟩)) _=_
    rw [hnext,ih (r := {r with tools := ts++[⟨i,header,body++p⟩]}) (body++p) rfl,spell_cons,String.append_assoc]

lemma filterMap_stop (i : Option ℕ) : [Event.contentBlockStop i].filterMap (streamResponseClaude2OpenAI env)=[] := rfl

variable (env) in
def addBlock (r : Reading) (i : ℕ) : Block J → Reading
  | .text t => {r with text := r.text++t}
  | .thinking t signature => {r with thinking := r.thinking++sealed (t,signature)}
  | .toolUse id name input => {r with tools := r.tools++[⟨i,(id,name),env.marshal input⟩]}

variable {events : List (Event J)} {i : ℕ}
lemma BlockEvents.feed {b : Block J} (h : BlockEvents env i b events) (hkeys : i∉Span.keys r.tools) :
    (events.filterMap (streamResponseClaude2OpenAI env)).foldl feed r=addBlock env r i b := by
  cases h with
  | text first pieces =>
    rw [cons_append,filterMap_cons_some (rfl : streamResponseClaude2OpenAI env _=some _),foldl_cons,
      filterMap_append,foldl_append,feed_texts,filterMap_stop]
    simp [feed_chunkOf,number,getContentString,getReasoningContent,addBlock,String.append_assoc]
  | thinking pieces signature =>
    rw [cons_append,cons_append,filterMap_cons_some (rfl : streamResponseClaude2OpenAI env _=some _),
      foldl_cons,filterMap_append,filterMap_append,foldl_append,foldl_append,feed_thinkings,
      filterMap_stop]
    by_cases hsign : signature = ""
    · simp [hsign,feed_chunkOf,number,getContentString,getReasoningContent,streamResponseClaude2OpenAI,addBlock,sealed]
    · simp [hsign,feed_chunkOf,number,getContentString,getReasoningContent,streamResponseClaude2OpenAI,
        addBlock,sealed,blockDelta,String.append_assoc]
  | toolUse id name input start pieces hspl =>
    have hstr : r.feedTool (i,⟨some i,id,name,""⟩)={r with tools := r.tools++[⟨i,(id,name),""⟩]} := by
      unfold feedTool
      rw [if_neg hkeys,extend,Span.extend_empty]
      rfl
    rw [cons_append,filterMap_cons_some (rfl : streamResponseClaude2OpenAI env _=some _),foldl_cons,
      filterMap_append,foldl_append,filterMap_stop,foldl_nil]
    show List.foldl feed (r.feed (chunkOf _ (toolDelta ⟨some i,id,name,""⟩) none)) _=_
    rw [feed_tool]
    show List.foldl feed (r.feedTool (i,⟨some i,id,name,""⟩)) _=_
    rw [hstr,feed_json i pieces r.tools (id,name) "" rfl,hspl,String.empty_append]
    rfl

lemma keys_addBlock_lt (h : ∀ k∈Span.keys r.tools, k < i) (b : Block J) :
    ∀ k∈Span.keys (addBlock env r i b).tools, k < i+1 := by
  intro k hk
  cases b with
  | text t | thinking t signature => exact Nat.lt_succ_of_lt (h k hk)
  | toolUse id name input =>
    rw [addBlock,Span.keys_append,mem_append] at hk
    obtain hk | hk := hk
    · exact Nat.lt_succ_of_lt (h k hk)
    rw [mem_singleton.mp hk]
    exact Nat.lt_succ_self i

section
variable (b : Block J) (bs : List (Block J))
lemma texts_cons : texts (b::bs)=b.text?.toList++texts bs := by
  cases b with
  | _ => rfl

lemma thoughts_cons : thoughts (b::bs)=b.thought.toList++thoughts bs := by
  cases b with
  | _ => rfl

lemma calls_cons : (b::bs).filterMap (call env)=(b.call env).toList++bs.filterMap (call env) := by
  cases b with
  | _ => rfl

lemma text_addBlock (i : ℕ) : (addBlock env r i b).text=r.text++spell id b.text?.toList := by
  cases b with
  | _ => simp [addBlock,text?]

lemma thinking_addBlock (i : ℕ) : (addBlock env r i b).thinking=r.thinking++spell sealed b.thought.toList := by
  cases b with
  | _ => simp [addBlock,thought]

lemma tools_addBlock (i : ℕ) :
    (addBlock env r i b).tools.map Span.content=r.tools.map Span.content++(b.call env).toList := by
  cases b with
  | _ => simp [addBlock,call,Span.content]
end

variable {content : List (Block J)}
lemma BlocksEvents.feed (h : BlocksEvents env i content events) (hkeys : ∀ k∈Span.keys r.tools, k < i) :
    let r' := (events.filterMap (streamResponseClaude2OpenAI env)).foldl feed r
    r'.text=r.text++spell id (texts content) ∧
    r'.thinking=r.thinking++spell sealed (thoughts content) ∧
    r'.tools.map Span.content=r.tools.map Span.content++content.filterMap (call env) := by
  induction h generalizing r with
  | nil i => simp [texts,thoughts]
  | @cons i b bs events rest hb _ ih =>
    have hfresh : i∉Span.keys r.tools := fun hi => Nat.lt_irrefl i (hkeys i hi)
    obtain ⟨htext,hthin,htls⟩ := ih (keys_addBlock_lt hkeys b)
    rw [filterMap_append,foldl_append,hb.feed hfresh]
    refine ⟨htext.trans ?_,hthin.trans ?_,htls.trans ?_⟩
    · rw [text_addBlock,texts_cons,spell_append,String.append_assoc]
    · rw [thinking_addBlock,thoughts_cons,spell_append,String.append_assoc]
    · rw [tools_addBlock,calls_cons,append_assoc]

lemma streamed_eq (h : StreamOf env content events) : (streamed env events).text=spell id (texts content) ∧
    (streamed env events).thinking=spell sealed (thoughts content) ∧
    (streamed env events).tools.map Span.content=content.filterMap (call env) := by
  obtain ⟨message,stopReason,body,hbody,heven⟩ := h
  have hpng : events.filterMap (streamResponseClaude2OpenAI env) =
      (events.filter fun e => !e.isPing).filterMap (streamResponseClaude2OpenAI env) := by
    rw [filterMap_filter]
    apply filterMap_congr
    intro e _
    cases e with
    | ping => rfl
    | _ => rfl
  -- the first and the last chunk carry nothing
  have hends : (streamed env events) = (body.filterMap (streamResponseClaude2OpenAI env)).foldl feed .empty := by
    have hlast (r : Reading) (reason : Option String) : r.feed (chunkOf ("","") ⟨none,none,none,[]⟩ reason)=r := by
      simp [feed_chunkOf,number,getContentString,getReasoningContent]
    rw [streamed,hpng,heven,cons_append,
      filterMap_cons_some (rfl : streamResponseClaude2OpenAI env _=some _),foldl_cons,
      filterMap_append,foldl_append]
    exact hlast _ _
  obtain ⟨htext,hthin,htls⟩ := hbody.feed (r := .empty) (fun _ hk => (not_mem_nil hk).elim)
  rw [hends,htext,hthin,htls]
  exact ⟨String.empty_append,String.empty_append,rfl⟩
end

section
variable {env}
variable (env) in
lemma foldl_block (content : List (Block J)) (s : Scan) :
    let s' := content.foldl (block env) s
    s'.responseText=(texts content).getLast?.getD s.responseText ∧
    s'.thinkingContent=((thoughts content).getLast?.map Prod.fst).getD s.thinkingContent ∧
    (s'.tools.map fun call => ((call.id,call.name),call.arguments)) =
      (s.tools.map fun call => ((call.id,call.name),call.arguments))++content.filterMap (call env) := by
  induction content generalizing s with
  | nil => simp [texts,thoughts]
  | cons b bs ih =>
    obtain ⟨htext,hthin,htls⟩ := ih (s.block env b)
    rw [texts_cons,thoughts_cons,calls_cons]
    refine ⟨htext.trans ?_,hthin.trans ?_,htls.trans ?_⟩
    · cases b with
      | _ => simp [block,text?,List.getLast?_cons]
    · cases b with
      | text t | toolUse id name input => rfl
      | thinking t signature =>
        rw [thought,Option.toList_some,cons_append,nil_append,List.getLast?_cons]
        cases (thoughts bs).getLast? with
        | none | some last => rfl
    · cases b with
      | _ => simp [block,call]

variable (content : List (Block J)) (stopReason : String)
lemma content_responseClaude2OpenAI :
    (responseClaude2OpenAI env content stopReason).content=(texts content).getLast?.getD "" := by
  have hscan := (foldl_block env content ⟨(content.head?.map getText).getD "","",[]⟩).1
  refine hscan.trans ?_
  cases content with
  | nil => rfl
  | cons b bs =>
    cases b with
    | text t => simp [texts_cons,text?,List.getLast?_cons]
    | thinking t signature | toolUse id name input => rfl

def firstThought (content : List (Block J)) : String := (content.head?.bind thinking?).getD ""

def lastThought (content : List (Block J)) : String := ((thoughts content).getLast?.map Prod.fst).getD ""

lemma reasoning_responseClaude2OpenAI :
    (responseClaude2OpenAI env content stopReason).reasoningContent.getD "" =
      if lastThought content ≠ "" then lastThought content else firstThought content := by
  have hscan : (content.foldl (block env) ⟨(content.head?.map getText).getD "","",[]⟩).thinkingContent =
      lastThought content := (foldl_block env content _).2.1
  have hfrs : (content.head?.bind thinking?).getD "" = firstThought content := rfl
  simp only [responseClaude2OpenAI,hscan,hfrs]
  split
  · rfl
  by_cases hemp : firstThought content = ""
  · simp [hemp]
  · simp [hemp]

lemma toolCalls_responseClaude2OpenAI :
    ((responseClaude2OpenAI env content stopReason).toolCalls.map fun call => ((call.id,call.name),call.arguments)) =
      content.filterMap (call env) :=
  (foldl_block env content _).2.2
end

variable {content : List (Block J)}
lemma sealed_eq_empty_iff (thought : String × String) : sealed thought = "" ↔ thought.1 = "" ∧ thought.2 = "" := by
  unfold sealed
  by_cases hsign : thought.2 = ""
  · simp [hsign]
  · simp [hsign,String.append_eq_empty_iff]

lemma append_eq_middle_iff {a b c : String} : a++(b++c)=b ↔ a = "" ∧ c = "" := by
  constructor
  · intro h
    have hlen := congrArg String.length h
    rw [String.length_append,String.length_append] at hlen
    exact ⟨String.length_eq_zero_iff.mp (by omega),String.length_eq_zero_iff.mp (by omega)⟩
  · rintro ⟨rfl,rfl⟩
    simp

lemma spell_sealed_eq_iff (before after : List (String × String)) (thought : String × String) :
    spell sealed (before++thought::after)=thought.1 ↔
      (∀ other∈before++thought::after, other.2 = "") ∧ ∀ other∈before++after, other.1 = "" := by
  have hsplit : spell sealed (before++thought::after) =
      spell sealed before++(thought.1++((if thought.2 = "" then "" else "\n")++spell sealed after)) := by
    rw [spell_append,spell_cons,sealed,String.append_assoc]
  have hemp : (if thought.2 = "" then "" else "\n")++spell sealed after = "" ↔
      thought.2 = "" ∧ spell sealed after = "" := by
    by_cases hsign : thought.2 = ""
    · simp [hsign]
    · simp [hsign,String.append_eq_empty_iff]
  rw [hsplit,append_eq_middle_iff,hemp,spell_eq_empty_iff,spell_eq_empty_iff]
  simp only [sealed_eq_empty_iff,forall_mem_append,forall_mem_cons,forall_and]
  tauto

lemma forall_of_dropLast (h : ∀ thought∈(thoughts content).dropLast, thought.1 = "")
    (hlast : lastThought content = "") : ∀ thought∈thoughts content, thought.1 = "" := by
  unfold lastThought at hlast
  obtain hnil | ⟨init,last,hinit⟩ := eq_nil_or_concat (thoughts content)
  · rw [hnil]
    exact nofun
  rw [concat_eq_append] at hinit
  rw [hinit,dropLast_concat] at h
  rw [hinit,List.getLast?_append] at hlast
  rw [hinit,forall_mem_append,forall_mem_singleton]
  exact ⟨h,hlast⟩

lemma spell_sealed_thoughts_iff (content : List (Block J)) :
    spell sealed (thoughts content) = (if lastThought content ≠ "" then lastThought content else firstThought content) ↔
    (∀ thought∈thoughts content, thought.2 = "") ∧
    ((∀ thought∈(thoughts content).dropLast, thought.1 = "") ∨
      (content.head?.bind thought).isSome ∧ ∀ thought∈(thoughts content).tail, thought.1 = "") := by
  by_cases hlast : lastThought content = ""
  · rw [if_neg (not_not.mpr hlast)]
    have hall (h : ∀ thought∈(thoughts content).dropLast, thought.1 = "") := forall_of_dropLast h hlast
    cases hfirst : content.head?.bind thought with
    | none =>
      have hkept : firstThought content = "" := by
        unfold firstThought
        cases content with
        | nil => rfl
        | cons b bs =>
          cases b with
          | text t | toolUse id name input => rfl
          | thinking t signature => cases hfirst
      rw [hkept,spell_eq_empty_iff]
      simp only [sealed_eq_empty_iff]
      constructor
      · intro h
        exact ⟨fun thought htho => (h thought htho).2,.inl fun thought htho => (h thought (dropLast_subset _ htho)).1⟩
      · rintro ⟨huns,h | ⟨hsome,-⟩⟩ thought htho
        · exact ⟨hall h thought htho,huns thought htho⟩
        · cases hsome
    | some first =>
      have hcons : thoughts content=first::(thoughts content).tail ∧ firstThought content=first.1 := by
        cases content with
        | nil => cases hfirst
        | cons b bs =>
          cases b with
          | text t | toolUse id name input => cases hfirst
          | thinking t signature =>
            cases hfirst
            exact ⟨rfl,rfl⟩
      have hiff := spell_sealed_eq_iff [] (thoughts content).tail first
      rw [nil_append,nil_append,← hcons.1] at hiff
      rw [hcons.2,hiff]
      constructor
      · rintro ⟨huns,h⟩
        exact ⟨huns,.inr ⟨rfl,h⟩⟩
      · rintro ⟨huns,h | ⟨-,h⟩⟩
        · exact ⟨huns,fun thought htho => hall h thought (mem_of_mem_tail htho)⟩
        · exact ⟨huns,h⟩
  · rw [if_pos hlast]
    obtain hnil | ⟨init,last,hinit⟩ := eq_nil_or_concat (thoughts content)
    · rw [lastThought,hnil] at hlast
      exact absurd rfl hlast
    rw [concat_eq_append] at hinit
    have hkept : lastThought content=last.1 := by
      rw [lastThought,hinit,List.getLast?_append]
      rfl
    rw [hkept] at hlast ⊢
    rw [hinit,spell_sealed_eq_iff,dropLast_concat,append_nil]
    constructor
    · rintro ⟨huns,h⟩
      exact ⟨huns,.inl h⟩
    · rintro ⟨huns,h | ⟨-,h⟩⟩
      · exact ⟨huns,h⟩
      · -- the last thinking is not empty, so there is no other
        cases init with
        | nil => exact ⟨huns,nofun⟩
        | cons first init => exact absurd (h last (by simp)) hlast

/-- A Claude message reads the same whole and streamed exactly if only the kept block of each kind has text
and no thinking is signed. -/
theorem agrees_iff_oneOfEach {content : List (Block J)} {events : List (Event J)} (h : StreamOf env content events)
    (stopReason : String) :
    Agrees (responseClaude2OpenAI env content stopReason) (streamed env events) ↔ OneOfEach content := by
  obtain ⟨htext,hthin,htls⟩ := streamed_eq h
  have htxt := spell_eq_getLast_iff id (texts content)
  rw [Option.map_id,id] at htxt
  have htho := spell_sealed_thoughts_iff content
  constructor
  · rintro ⟨hcont,hreas,-⟩
    rw [htext,content_responseClaude2OpenAI] at hcont
    rw [hthin,reasoning_responseClaude2OpenAI] at hreas
    obtain ⟨huns,hkept⟩ := htho.mp hreas.symm
    exact ⟨htxt.mp hcont.symm,huns,hkept⟩
  · intro hone
    refine ⟨?_,?_,?_⟩
    · rw [htext,content_responseClaude2OpenAI,htxt.mpr hone.texts]
    · rw [hthin,reasoning_responseClaude2OpenAI,htho.mpr ⟨hone.unsigned,hone.thoughts⟩]
    · rw [htls,toolCalls_responseClaude2OpenAI]

def plainEnv : Env String := ⟨id,id⟩

def textEvents (i : ℕ) (first second : String) : List (Event String) :=
  [.contentBlockStart (some i) (some (.text first)),.contentBlockDelta (some i) (some (.textDelta second)),
    .contentBlockStop (some i)]

def thinkingEvents (i : ℕ) (thinking signature : String) : List (Event String) :=
  .contentBlockStart (some i) (some (.thinking "" ""))::
    [.contentBlockDelta (some i) (some (.thinkingDelta thinking))]++
    (if signature = "" then [] else [.contentBlockDelta (some i) (some (.signatureDelta signature))])++
    [.contentBlockStop (some i)]

def toolEvents (i : ℕ) (id name first second : String) : List (Event String) :=
  [.contentBlockStart (some i) (some (.toolUse id name "")),.contentBlockDelta (some i) (some (.inputJsonDelta first)),
    .contentBlockDelta (some i) (some (.inputJsonDelta second)),.contentBlockStop (some i)]

def messageEvents (body : List (Event String)) : List (Event String) :=
  .messageStart (some ("msg","claude"))::body++[.messageDelta (some "end_turn"),.messageStop]

lemma blockEvents_text (i : ℕ) (first second : String) :
    BlockEvents plainEnv i (.text (first++second)) (textEvents i first second) := by
  have h : BlockEvents plainEnv i _ _ := .text first [second]
  rw [spell_cons,spell_nil,String.append_empty] at h
  exact h

lemma blockEvents_thinking (i : ℕ) (thinking signature : String) :
    BlockEvents plainEnv i (.thinking thinking signature) (thinkingEvents i thinking signature) := by
  have h : BlockEvents plainEnv i _ _ := .thinking [thinking] signature
  rw [spell_cons,spell_nil,String.append_empty] at h
  exact h

lemma blockEvents_tool (i : ℕ) (id name first second : String) :
    BlockEvents plainEnv i (.toolUse id name (first++second)) (toolEvents i id name first second) := by
  apply BlockEvents.toolUse id name (first++second) "" [first,second]
  simp [plainEnv]

lemma streamOf_messageEvents {content : List (Block String)} {body : List (Event String)}
    (h : BlocksEvents plainEnv 0 content body) (hpng : (body.any Event.isPing)=false) :
    StreamOf plainEnv content (messageEvents body) := by
  refine ⟨some ("msg","claude"),some "end_turn",body,h,?_⟩
  have hbody : (body.filter fun e => !e.isPing)=body := by
    rw [filter_eq_self]
    simpa using hpng
  rw [messageEvents,cons_append,filter_cons_of_pos rfl,filter_append,hbody]
  rfl

def mixedContent : List (Block String) :=
  [.text "",.thinking "hm" "",.toolUse "id" "f" ("["++"]"),.text ("a"++"b")]

def mixedBody : List (Event String) :=
  textEvents 0 "" ""++(thinkingEvents 1 "hm" ""++(toolEvents 2 "id" "f" "[" "]"++(textEvents 3 "a" "b"++[])))

theorem mixedContent_agrees :
    Agrees (responseClaude2OpenAI plainEnv mixedContent "end_turn") (streamed plainEnv (messageEvents mixedBody)) := by
  apply (agrees_iff_oneOfEach plainEnv _ "end_turn").mpr
  · exact ⟨by decide +kernel,by decide +kernel,.inl (by decide +kernel)⟩
  · apply streamOf_messageEvents
    · apply BlocksEvents.cons (blockEvents_text 0 "" "")
      apply BlocksEvents.cons (blockEvents_thinking 1 "hm" "")
      apply BlocksEvents.cons (blockEvents_tool 2 "id" "f" "[" "]")
      apply BlocksEvents.cons (blockEvents_text 3 "a" "b")
      exact .nil 4
    · decide +kernel

/-- Of two texts the whole message keeps the second; a signature is a newline in the stream only; and of two
thinkings the first is lost. -/
theorem twoTexts_signed_differ :
    StreamOf plainEnv [.text "a",.text "b"] (messageEvents (textEvents 0 "a" ""++(textEvents 1 "b" ""++[]))) ∧
    (responseClaude2OpenAI plainEnv [.text "a",.text "b"] "end_turn").content = "b" ∧
    (streamed plainEnv (messageEvents (textEvents 0 "a" ""++(textEvents 1 "b" ""++[])))).text = "ab" ∧
    StreamOf plainEnv [.thinking "hm" "sig",.text "a"]
      (messageEvents (thinkingEvents 0 "hm" "sig"++(textEvents 1 "a" ""++[]))) ∧
    (responseClaude2OpenAI plainEnv [.thinking "hm" "sig",.text "a"] "end_turn").reasoningContent=some "hm" ∧
    (streamed plainEnv (messageEvents (thinkingEvents 0 "hm" "sig"++(textEvents 1 "a" ""++[])))).thinking = "hm\n" := by
  refine ⟨?_,by decide +kernel,by decide +kernel,?_,by decide +kernel,by decide +kernel⟩
  · apply streamOf_messageEvents
    · apply BlocksEvents.cons (blockEvents_text 0 "a" "")
      apply BlocksEvents.cons (blockEvents_text 1 "b" "")
      exact .nil 2
    · decide +kernel
  · apply streamOf_messageEvents
    · apply BlocksEvents.cons (blockEvents_thinking 0 "hm" "sig")
      apply BlocksEvents.cons (blockEvents_text 1 "a" "")
      exact .nil 2
    · decide +kernel
end AronaApi.ClaudeChannel
