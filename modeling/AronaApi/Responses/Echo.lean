import AronaApi.Responses.Tools

/-! A Responses stream whose last event repeats the output items. The terminal response is converted item by item
without an output index, so its tools are not found under the keys of the streamed ones. -/
namespace AronaApi.Responses
open Claude GoStd List ResponsesOutput Reading ToolKey

def convertEvents (s : StreamState) : List ResponsesEvent → Except String (StreamState × List Chunk)
  | [] => .ok (s,[])
  | event::events => do
    let (s,chunks) ← responsesStreamEventToChatChunks s event
    let (s,more) ← convertEvents s events
    return (s,chunks++more)

/-- `response.completed`. -/
def completedEvent (resp : ResponsesResponse) : ResponsesEvent := ⟨.completed,some resp,"",none,none,""⟩

def ResponsesEvent.isTool (event : ResponsesEvent) : Bool :=
  event.isToolItem || event.type=.functionArgsDelta || event.type=.functionArgsDone ||
    event.type=.customToolInputDelta || event.type=.customToolInputDone

def ResponsesOutput.isTool (out : ResponsesOutput) : Bool := isResponsesToolOutputType out.type

def messageText (items : List ResponsesOutput) : String :=
  spell outputText (items.filter fun out => out.type=.message)

/-- The events stream these items: tool events carry the output index of a tool among them, each tool is added or
completed in an event of its own, and the text deltas make up the texts of the messages. -/
structure Echoes (items : List ResponsesOutput) (events : List ResponsesEvent) : Prop where
  running : ∀ event∈events, event.running=true
  tools : ∀ event∈events, event.isTool=true → ∃ i out, event.outputIndex=some i ∧ items[i]? = some out ∧ out.isTool=true
  announced : ∀ i out, items[i]? = some out → out.isTool=true →
    ∃ event∈events, event.isToolItem=true ∧ event.outputIndex=some i
  texts : spell ResponsesEvent.text events=messageText items

def Matches (resp : ResponsesResponse) (r : Reading) : Prop :=
  (r.tools.map Span.content).Perm ((resp.output.filter isTool).map toolCall) ∧
    r.text=(responsesResponseToChatCompletionsResponse resp).content

/-- The messages of the assistant hold all of the message text; if they hold none, no item has any text elsewhere. -/
def TextInMessages (items : List ResponsesOutput) : Prop :=
  if spell outputText (items.filter isAssistant) ≠ "" then
    ∀ out∈items, out.type=.message → out.isAssistant=false → out.outputText = ""
  else ∀ out∈items, ∀ c∈out.content, out.type=.message ∧ c.isOutputText=true ∨ c.text = ""

lemma messageText_eq_iff (resp : ResponsesResponse) :
    messageText resp.output=(responsesResponseToChatCompletionsResponse resp).content ↔ TextInMessages resp.output := by
  have hass : resp.output.filter isAssistant =
      (resp.output.filter fun out => out.type=.message).filter isAssistant := by
    rw [filter_filter]
    refine filter_congr fun out _ => ?_
    unfold isAssistant
    cases decide (out.type=.message) <;> simp
  unfold TextInMessages responsesResponseToChatCompletionsResponse extractOutputTextFromResponses
  simp only
  split
  · rw [hass,messageText,eq_comm,spell_filter_eq_iff]
    simp only [mem_filter,decide_eq_true_eq,and_imp]
  -- the texts of all items, each with the type of its item
  have hmess : messageText resp.output=spell (fun c : OutputType × OutputContent => c.2.text)
      ((resp.output.flatMap fun out => out.content.map fun c => (out.type,c)).filter
        fun c => c.1=.message && c.2.isOutputText) := by
    rw [filter_flatMap,spell_flatMap,messageText]
    induction resp.output with
    | nil => rfl
    | cons out items ih =>
      rw [spell_cons,← ih,filter_cons]
      have hone : (out.content.map fun c => (out.type,c)).filter (fun c => c.1=.message && c.2.isOutputText) =
          if out.type=.message then (out.content.filter OutputContent.isOutputText).map fun c => (out.type,c)
          else [] := by
        rw [filter_map]
        by_cases htype : out.type=.message <;> simp [htype,Function.comp_def]
      rw [hone]
      by_cases htype : out.type=.message
      · simp [htype,outputText,spell_map]
      · simp [htype]
  have hall : spell allText resp.output=spell (fun c : OutputType × OutputContent => c.2.text)
      (resp.output.flatMap fun out => out.content.map fun c => (out.type,c)) := by
    rw [spell_flatMap]
    simp only [spell_map]
    rfl
  rw [hmess,hall,spell_filter_eq_iff]
  constructor
  · intro h out hout c hc
    by_cases hkept : out.type=.message ∧ c.isOutputText=true
    · exact .inl hkept
    refine .inr (h (out.type,c) ?_ ?_)
    · exact mem_flatMap.mpr ⟨out,hout,mem_map_of_mem hc⟩
    · simpa using hkept
  · intro h c hc hdrop
    obtain ⟨out,hout,hmem⟩ := mem_flatMap.mp hc
    obtain ⟨piece,hpc,rfl⟩ := mem_map.mp hmem
    refine (h out hout piece hpc).resolve_left fun hkept => ?_
    simp [hkept] at hdrop

/-! What is read of the chunks. -/

lemma text_foldl_feed (chunks : List Chunk) (r : Reading) :
    (chunks.foldl feed r).text=r.text++spell Chunk.content chunks := by
  induction chunks generalizing r with
  | nil => simp
  | cons chunk chunks ih =>
    rw [foldl_cons,ih,spell_cons,← String.append_assoc]
    rfl

lemma keys_foldl_feedTool (calls : List (ℕ × ToolCall)) (r : Reading) (h : (Span.keys r.tools).Nodup) :
    (Span.keys (calls.foldl feedTool r).tools).Nodup ∧
      ∀ i, i∈Span.keys (calls.foldl feedTool r).tools ↔ i∈Span.keys r.tools ∨ i∈calls.map Prod.fst := by
  induction calls generalizing r with
  | nil => simp [h]
  | cons call calls ih =>
    have hone : (Span.keys (r.feedTool call).tools).Nodup := by
      rw [keys_feedTool]
      split
      · exact h
      next hnew => exact nodup_append.mpr ⟨h,nodup_singleton _,by
          rintro a ha b hb rfl
          exact hnew (mem_singleton.mp hb ▸ ha)⟩
    obtain ⟨hndp,hmem⟩ := ih (r.feedTool call) hone
    refine ⟨hndp,fun i => ?_⟩
    rw [foldl_cons,hmem,keys_feedTool,map_cons,mem_cons]
    split
    next hold =>
      constructor
      · rintro (hi | hi)
        · exact .inl hi
        · exact .inr (.inr hi)
      · rintro (hi | rfl | hi)
        · exact .inl hi
        · exact .inl hold
        · exact .inr hi
    · rw [mem_append,mem_singleton,or_assoc]

lemma keys_foldl_feed (chunks : List Chunk) (r : Reading) (h : (Span.keys r.tools).Nodup) :
    (Span.keys (chunks.foldl feed r).tools).Nodup ∧
      ∀ i, i∈Span.keys (chunks.foldl feed r).tools ↔ i∈Span.keys r.tools ∨ i∈toolIndices chunks := by
  induction chunks generalizing r with
  | nil => simp [h,toolIndices]
  | cons chunk chunks ih =>
    obtain ⟨hone,hmem⟩ := keys_foldl_feedTool (number 0 chunk.toolCalls) r h
    obtain ⟨hndp,hrest⟩ := ih (r.feed chunk) hone
    refine ⟨hndp,fun i => ?_⟩
    have hchn : i∈Span.keys (r.feed chunk).tools ↔ _ := hmem i
    have hind : toolIndices (chunk::chunks)=(number 0 chunk.toolCalls).map Prod.fst++toolIndices chunks := rfl
    rw [foldl_cons,hrest,hchn,hind,mem_append,or_assoc]

variable {chunks : List Chunk} {s : StreamState} {sofar : List Chunk} {out : ResponsesOutput}
  {resp : ResponsesResponse}

lemma identified_foldl_feed (h : Identified chunks) {r : Reading} (hr : ∀ part∈r.tools, part.header.1 ≠ "") :
    ∀ part∈(chunks.foldl feed r).tools, part.header.1 ≠ "" := by
  have hcall : ∀ (r : Reading) (call : ℕ × ToolCall), call.2.id ≠ "" → (∀ part∈r.tools, part.header.1 ≠ "") →
      ∀ part∈(r.feedTool call).tools, part.header.1 ≠ "" := by
    intro r call hid hr part hpart
    have hmem := mem_map_of_mem (f := Span.header) hpart
    rw [feedTool,extend,Span.map_header_extend] at hmem
    obtain ⟨old,hold,he⟩ := mem_map.mp hmem
    rw [← he]
    split at hold
    · exact hr old hold
    obtain hold | hnew := mem_append.mp hold
    · exact hr old hold
    rw [mem_singleton.mp hnew]
    exact hid
  have hcls : ∀ (calls : List (ℕ × ToolCall)) (r : Reading), (∀ call∈calls, call.2.id ≠ "") →
      (∀ part∈r.tools, part.header.1 ≠ "") → ∀ part∈(calls.foldl feedTool r).tools, part.header.1 ≠ "" := by
    intro calls
    induction calls with
    | nil => exact fun r _ hr => hr
    | cons call calls ih =>
      intro r hids hr
      obtain ⟨hid,hids⟩ := forall_mem_cons.mp hids
      exact ih _ hids (hcall r call hid hr)
  induction chunks generalizing r with
  | nil => exact hr
  | cons chunk chunks ih =>
    obtain ⟨hchn,hrest⟩ := forall_mem_cons.mp h
    exact ih hrest (hcls _ r ((forall_number 0 _).mpr hchn) hr)

/-! The streamed events, and then the terminal one. -/

lemma convertEvents_append (s : StreamState) (events more : List ResponsesEvent) :
    convertEvents s (events++more)=do
      let (s,chunks) ← convertEvents s events
      let (s,rest) ← convertEvents s more
      return (s,chunks++rest) := by
  induction events generalizing s with
  | nil =>
    cases h : convertEvents s more with
    | error e => simp [convertEvents,h,bind,Except.bind]
    | ok r => simp [convertEvents,h,bind,Except.bind,pure,Except.pure]
  | cons event events ih =>
    rw [cons_append,convertEvents,convertEvents]
    cases responsesStreamEventToChatChunks s event with
    | error e => rfl
    | ok r =>
      simp only [bind,Except.bind,pure,Except.pure,ih]
      cases convertEvents r.1 events with
      | error e => rfl
      | ok r' =>
        simp only
        cases convertEvents r'.1 more with
        | error e => rfl
        | ok r'' => simp

lemma Counted.events (h : Counted s sofar) {events : List ResponsesEvent}
    (hrunning : ∀ event∈events, event.running=true) :
    ∃ r, convertEvents s events=.ok r ∧ Advances s sofar r (spell ResponsesEvent.text events) ∧
      ∀ event∈events, event.isToolItem=true → ∀ i, event.outputIndex=some i → output i∈r.1.toolByKey := by
  induction events generalizing s sofar with
  | nil => exact ⟨(s,[]),rfl,.nil h rfl rfl rfl,fun _ he => (not_mem_nil he).elim⟩
  | cons event events ih =>
    obtain ⟨hone,hrest⟩ := forall_mem_cons.mp hrunning
    obtain ⟨r,hr,hadv,hkey⟩ := h.event hone
    obtain ⟨r',hr',hmore,hkeys⟩ := ih hadv.counted hrest
    refine ⟨(r'.1,r.2++r'.2),?_,?_,?_⟩
    · rw [convertEvents,hr]
      simp only [bind,Except.bind,hr']
      rfl
    · rw [spell_cons]
      exact hadv.append hmore
    · refine forall_mem_cons.mpr ⟨fun htool i hi => ?_,hkeys⟩
      exact hmore.keys _ (hkey htool i hi)

def ResponsesOutput.terminalKey (out : ResponsesOutput) : Option ToolKey :=
  keyForEvent ⟨.other,none,"",some out,none,""⟩

lemma terminalKey_ne_output {key : ToolKey} (h : out.terminalKey=some key) (i : ℕ) : key≠.output i := by
  rintro rfl
  simp only [terminalKey,keyForEvent,trimSpace_empty] at h
  split at h
  · cases h
  · split at h <;> cases h

lemma toolCall_of_terminalKey_none (h : out.terminalKey=none) : out.toolCall.1.1 = "" := by
  simp only [terminalKey,keyForEvent,trimSpace_empty] at h
  split at h
  · cases h
  next hid =>
  split at h
  · cases h
  next hcall => simp [toolCall,not_not.mp hcall,not_not.mp hid]

variable {items : List ResponsesOutput}
lemma Counted.terminalOutputs (h : Counted s sofar)
    (hqt : s.hasSentText=true ∨ ∀ out∈items, out.type=.message → out.outputText = "") :
    Advances s sofar (Responses.collect StreamState.terminalOutput s items) "" ∧
      ∀ out∈items, out.isTool=true → ∀ key, out.terminalKey=some key →
        key∈(Responses.collect StreamState.terminalOutput s items).1.toolByKey := by
  induction items generalizing s sofar with
  | nil => exact ⟨.nil h rfl rfl rfl,fun _ hout => (not_mem_nil hout).elim⟩
  | cons out items ih =>
    have hone := h.terminalOutput (hqt.imp_right fun hall => hall out mem_cons_self)
    have hsame : (s.terminalOutput out).1.hasSentText=s.hasSentText := by simp [hone.hasSentText]
    obtain ⟨hrest,hkeys⟩ := ih hone.counted (by
      rw [hsame]
      exact hqt.imp_right fun hall other hoth => hall other (mem_cons_of_mem _ hoth))
    have happ := hone.append hrest
    rw [String.empty_append] at happ
    refine ⟨happ,forall_mem_cons.mpr ⟨fun htool key hkey => ?_,hkeys⟩⟩
    refine hrest.keys key ?_
    have hitem : s.terminalOutput out=s.toolItem ⟨.other,none,"",some out,none,""⟩ out := by
      unfold isTool isResponsesToolOutputType at htool
      unfold StreamState.terminalOutput isResponsesToolOutputType
      cases htype : out.type <;> simp_all
    rw [hitem]
    exact (h.toolItem _ out).2 key hkey

lemma Counted.completed (h : Counted s sofar)
    (hqt : s.hasSentText=true ∨ ∀ out∈resp.output, out.type=.message → out.outputText = "") :
    ∃ r, responsesStreamEventToChatChunks s (completedEvent resp)=.ok r ∧ Advances s sofar r "" ∧
      ∀ out∈resp.output, out.isTool=true → ∀ key, out.terminalKey=some key → key∈r.1.toolByKey := by
  have hmeta := h.applyResponseMetadata (some resp)
  have hsame : (s.applyResponseMetadata (some resp)).hasSentText=s.hasSentText := rfl
  rw [← hsame] at hqt
  obtain ⟨houtp,hkeys⟩ := hmeta.counted.terminalOutputs hqt
  have hfnl := houtp.counted.finalize (some resp)
  have hall := hmeta.append (houtp.append hfnl)
  rw [String.empty_append,String.empty_append,nil_append] at hall
  exact ⟨_,rfl,hall,fun out hout htool key hkey => hfnl.keys key (hkeys out hout htool key hkey)⟩

lemma counted_new (id model : String) (includeUsage : Bool) :
    Counted (newResponsesToChatStreamState id model includeUsage) [] := by
  refine ⟨rfl,fun key tool h => ?_,fun i => ?_,fun _ h => (not_mem_nil h).elim⟩
  · cases h
  · simp [toolIndices,newResponsesToChatStreamState]

lemma Counted.tools_length (h : Counted s chunks) :
    (chunks.foldl feed .empty).tools.length=s.toolByKey.keys.length := by
  obtain ⟨hndp,hmem⟩ := keys_foldl_feed chunks .empty nodup_nil
  have hperm : (Span.keys (chunks.foldl feed .empty).tools).Perm (List.range s.nextToolIndex) := by
    rw [perm_ext_iff_of_nodup hndp nodup_range]
    intro i
    rw [hmem,h.indices,mem_range]
    exact or_iff_right not_mem_nil
  have hleng := hperm.length_eq
  rw [length_range,Span.keys,length_map] at hleng
  rw [hleng,h.size]

def outputKeys (items : List ResponsesOutput) : List ToolKey :=
  ((items.zipIdx.filter fun p => p.1.isTool).map Prod.snd).map output

lemma nodup_outputKeys (items : List ResponsesOutput) : (outputKeys items).Nodup := by
  have hind : ((items.zipIdx.filter fun p => p.1.isTool).map Prod.snd).Nodup := by
    refine List.Nodup.sublist (List.Sublist.map _ filter_sublist) ?_
    rw [zipIdx_map_snd]
    exact nodup_range'
  exact hind.map fun a b hab => output.inj hab

lemma length_outputKeys (items : List ResponsesOutput) : (outputKeys items).length=(items.filter isTool).length := by
  have hfst : (items.zipIdx.filter fun p => p.1.isTool).map Prod.fst=items.filter isTool := by
    conv_rhs => rw [← zipIdx_map_fst 0 items,filter_map]
    rfl
  rw [outputKeys,length_map,length_map,← hfst,length_map]

lemma not_matches_of_tool (h : Counted s chunks) (hstr : ∀ key∈outputKeys resp.output, key∈s.toolByKey)
    (hrep : ∀ out∈resp.output, out.isTool=true → ∀ key, out.terminalKey=some key → key∈s.toolByKey)
    (hout : out∈resp.output) (htool : out.isTool=true) : ¬Matches resp (chunks.foldl feed .empty) := by
  rintro ⟨hperm,-⟩
  cases hkey : out.terminalKey with
  | some key =>
    have hnot : key∉outputKeys resp.output := by
      intro hmem
      obtain ⟨i,-,rfl⟩ := mem_map.mp hmem
      exact terminalKey_ne_output hkey i rfl
    have hsubs : key::outputKeys resp.output⊆s.toolByKey.keys := by
      refine cons_subset.mpr ⟨AList.mem_keys.mp (hrep out hout htool key hkey),fun other hoth => ?_⟩
      exact AList.mem_keys.mp (hstr other hoth)
    have hle := (subperm_of_subset (nodup_cons.mpr ⟨hnot,nodup_outputKeys resp.output⟩) hsubs).length_le
    have hleng := hperm.length_eq
    rw [length_map,length_map,h.tools_length] at hleng
    rw [length_cons,length_outputKeys] at hle
    omega
  | none =>
    -- the item has no id to be called by, but every tool call that is sent has one
    have hmem : out.toolCall∈(resp.output.filter isTool).map toolCall :=
      mem_map_of_mem (mem_filter.mpr ⟨hout,htool⟩)
    obtain ⟨part,hpart,he⟩ := mem_map.mp (hperm.mem_iff.mpr hmem)
    refine identified_foldl_feed h.identified (fun _ hp => (not_mem_nil hp).elim) part hpart ?_
    rw [← toolCall_of_terminalKey_none hkey,← he]
    rfl

/-! A stream without tools. -/

def Toolless (s : StreamState) : Prop :=
  s.toolByKey = ∅ ∧ s.pendingArgsByOutputIndex = ∅ ∧ s.pendingArgsByItemId = ∅

section
variable (h : Toolless s)
include h
lemma Toolless.ensureStart : Toolless s.ensureStart.1 := by
  obtain ⟨-,htls,-,-,houtp,hitem⟩ := ensureStart_spec s
  unfold Toolless
  rw [htls,houtp,hitem]
  exact h

lemma Toolless.textDelta (delta : String) : Toolless (s.textDelta delta).1 := by
  unfold StreamState.textDelta
  split
  · exact h
  have hntd : Toolless (s.noteText delta) := h
  exact hntd.ensureStart

lemma Toolless.reasoningDelta (delta : String) : Toolless (s.reasoningDelta delta).1 := by
  unfold StreamState.reasoningDelta
  split
  · exact h
  have hntd : Toolless (s.noteReasoning (s.breakSummary delta)) := h
  exact hntd.ensureStart

lemma Toolless.applyResponseMetadata (response : Option ResponsesResponse) :
    Toolless (s.applyResponseMetadata response) := by
  unfold StreamState.applyResponseMetadata
  cases response with
  | none | some resp => exact h

lemma Toolless.event {event : ResponsesEvent} (hrunning : event.running=true)
    (hnot : event.isTool=false) {r : StreamState × List Chunk}
    (hr : responsesStreamEventToChatChunks s event=.ok r) : Toolless r.1 := by
  unfold ResponsesEvent.isTool ResponsesEvent.isToolItem at hnot
  unfold ResponsesEvent.running at hrunning
  unfold responsesStreamEventToChatChunks at hr
  cases htype : event.type
  case completed | done | incomplete | failed | error => simp [htype] at hrunning
  case functionArgsDelta | functionArgsDone | customToolInputDelta | customToolInputDone => simp [htype] at hnot
  all_goals simp only [htype,Except.ok.injEq] at hr
  case outputItemAdded | outputItemDone =>
    cases hitem : event.item with
    | none =>
      simp only [hitem,Except.ok.injEq] at hr
      rw [← hr]
      exact h
    | some item =>
      simp only [hitem,Except.ok.injEq] at hr
      simp only [htype,hitem] at hnot
      rw [if_neg (by simpa using hnot)] at hr
      rw [← hr]
      exact h
  all_goals rw [← hr]
  case created => exact (h.applyResponseMetadata event.response).ensureStart
  case outputTextDelta => exact h.textDelta event.delta
  case reasoningSummaryDelta | reasoningTextDelta => exact h.reasoningDelta event.delta
  case reasoningSummaryDone | reasoningTextDone | other => exact h

lemma Toolless.terminalOutputs {items : List ResponsesOutput}
    (hnone : ∀ out∈items, out.isTool=false) : Toolless (collect StreamState.terminalOutput s items).1 := by
  induction items generalizing s with
  | nil => exact h
  | cons out items ih =>
    obtain ⟨hout,hrest⟩ := forall_mem_cons.mp hnone
    have hone : Toolless (s.terminalOutput out).1 := by
      unfold StreamState.terminalOutput
      split
      · exact h.textDelta _
      split
      · exact h.reasoningDelta _
      split
      next htool => exact absurd (htool.symm.trans hout) Bool.noConfusion
      · exact h
    exact ih hone hrest

lemma Toolless.finalize (response : Option ResponsesResponse) : Toolless (s.finalize response).1 := by
  unfold StreamState.finalize
  split
  · exact h
  have hflus : s.markFinalized.flushAllPendingTools=(s.markFinalized,[]) := by
    obtain ⟨htls,houtp,hitem⟩ := h
    unfold StreamState.flushAllPendingTools StreamState.markFinalized
    rw [htls,houtp,hitem]
    rfl
  rw [hflus]
  have hmark : Toolless s.markFinalized := h
  exact hmark.ensureStart
end

lemma Toolless.events {events : List ResponsesEvent} (h : Toolless s)
    (hrunning : ∀ event∈events, event.running=true) (hnot : ∀ event∈events, event.isTool=false)
    {r : StreamState × List Chunk} (hr : convertEvents s events=.ok r) : Toolless r.1 := by
  induction events generalizing s r with
  | nil =>
    obtain rfl := Except.ok.inj hr
    exact h
  | cons event events ih =>
    obtain ⟨hone,hrest⟩ := forall_mem_cons.mp hrunning
    obtain ⟨hntn,hnotr⟩ := forall_mem_cons.mp hnot
    rw [convertEvents] at hr
    cases hstep : responsesStreamEventToChatChunks s event with
    | error e =>
      rw [hstep] at hr
      cases hr
    | ok r₁ =>
      cases hmore : convertEvents r₁.1 events with
      | error e =>
        simp only [hstep,bind,Except.bind,hmore] at hr
        cases hr
      | ok r₂ =>
        simp only [hstep,bind,Except.bind,hmore,pure,Except.pure,Except.ok.injEq] at hr
        have haft : Toolless r₂.1 := ih (h.event hone hntn hstep) hrest hnotr hmore
        rw [← hr]
        exact haft

lemma Echoes.quiet {events : List ResponsesEvent} (h : Echoes items events)
    (hsent : s.hasSentText=decide (spell ResponsesEvent.text events ≠ "")) :
    s.hasSentText=true ∨ ∀ out∈items, out.type=.message → out.outputText = "" := by
  rw [h.texts] at hsent
  by_cases hemp : messageText items = ""
  · refine .inr fun out hout htype => ?_
    have hnone : spell outputText ((items.filter fun out => out.type=.message).filter fun _ => false) =
        messageText items := by rw [filter_eq_nil_iff.mpr (by simp),spell_nil,hemp]
    exact (spell_filter_eq_iff _ _ _).mp hnone out (mem_filter.mpr ⟨hout,decide_eq_true htype⟩) rfl
  · refine .inl ?_
    rw [hsent,decide_eq_true hemp]

/-- The chunks match the terminal response that repeats the streamed items exactly if it has no tools, and no text
that is not the text of its messages. -/
theorem matches_iff_toolless (id model : String) (includeUsage : Bool) {resp : ResponsesResponse}
    {events : List ResponsesEvent} (h : Echoes resp.output events) :
    ∃ s chunks, convertEvents (newResponsesToChatStreamState id model includeUsage) (events++[completedEvent resp]) =
        .ok (s,chunks) ∧
      (Matches resp (chunks.foldl feed .empty) ↔
        (∀ out∈resp.output, out.isTool=false) ∧ TextInMessages resp.output) := by
  obtain ⟨r,hr,hadv,hstr⟩ := (counted_new id model includeUsage).events h.running
  obtain ⟨r',hr',hend,hrep⟩ := hadv.counted.completed (h.quiet hadv.hasSentText)
  have hrun : convertEvents (newResponsesToChatStreamState id model includeUsage) (events++[completedEvent resp]) =
      .ok (r'.1,r.2++r'.2) := by
    rw [convertEvents_append,hr]
    simp [convertEvents,hr',bind,Except.bind,pure,Except.pure]
  have hcoun := hend.counted
  rw [nil_append] at hcoun
  have htext : ((r.2++r'.2).foldl feed .empty).text=messageText resp.output := by
    rw [text_foldl_feed,spell_append,hadv.carries,hend.carries,String.append_empty,h.texts]
    exact String.empty_append
  refine ⟨_,_,hrun,?_⟩
  constructor
  · intro hmatc
    refine ⟨fun out hout => ?_,(messageText_eq_iff resp).mp (htext.symm.trans hmatc.2)⟩
    rw [← Bool.not_eq_true]
    intro htool
    refine not_matches_of_tool hcoun (fun key hkey => ?_) hrep hout htool hmatc
    obtain ⟨i,hi,rfl⟩ := mem_map.mp hkey
    obtain ⟨p,hp,rfl⟩ := mem_map.mp hi
    obtain ⟨hmem,hptl⟩ := mem_filter.mp hp
    obtain ⟨event,hevn,hitem,hind⟩ := h.announced p.2 p.1 (mem_zipIdx_iff_getElem?.mp hmem) hptl
    exact hend.keys _ (hstr event hevn hitem p.2 hind)
  · rintro ⟨hnone,hmess⟩
    refine ⟨?_,htext.trans ((messageText_eq_iff resp).mpr hmess)⟩
    have hnot : ∀ event∈events, event.isTool=false := by
      intro event hevn
      rw [← Bool.not_eq_true]
      intro htool
      obtain ⟨i,out,-,hout,hisT⟩ := h.tools event hevn htool
      rw [hnone out (mem_of_getElem? hout)] at hisT
      cases hisT
    have htl : Toolless r'.1 := by
      have hnew : Toolless (newResponsesToChatStreamState id model includeUsage) := ⟨rfl,rfl,rfl⟩
      have hbef := (hnew.events h.running hnot hr).applyResponseMetadata (some resp)
      rw [← Except.ok.inj hr']
      exact (hbef.terminalOutputs hnone).finalize (some resp)
    have hleng := hcoun.tools_length
    rw [htl.1,AList.keys_empty,length_nil] at hleng
    rw [length_eq_zero_iff.mp hleng,filter_eq_nil_iff.mpr (by simpa using hnone)]
    exact .nil

instance (resp : ResponsesResponse) (r : Reading) : Decidable (Matches resp r) := inferInstanceAs (Decidable (_ ∧ _))

def eventOf (type : EventType) (delta : String) : ResponsesEvent := ⟨type,none,delta,none,none,""⟩

def toolEvent (type : EventType) (delta : String) (item : Option ResponsesOutput) : ResponsesEvent :=
  ⟨type,none,delta,item,some 0,"fc"⟩

def messageOf (text : String) : ResponsesOutput := ⟨.message,"msg","assistant",[⟨true,text⟩],"","",""⟩

def functionCallOf (arguments : String) : ResponsesOutput := ⟨.functionCall,"fc","",[],"call","tool",arguments⟩

def responseOf (output : List ResponsesOutput) : ResponsesResponse := ⟨"resp",some "completed",none,"model",output,none⟩

def spokenEvents : List ResponsesEvent :=
  [eventOf .created "",eventOf .outputTextDelta "to ",eventOf .outputTextDelta "be"]

lemma echoes_spoken : Echoes [messageOf "to be"] spokenEvents := by
  refine ⟨by decide,fun event hevn htool => ?_,fun i out hout htool => ?_,by decide +kernel⟩
  · have hnone : ∀ event∈spokenEvents, event.isTool=false := by decide
    exact absurd (htool.symm.trans (hnone event hevn)) Bool.noConfusion
  · rw [mem_singleton.mp (mem_of_getElem? hout)] at htool
    cases htool

theorem spoken_matches :
    ∃ s chunks, convertEvents (newResponsesToChatStreamState "" "" false)
        (spokenEvents++[completedEvent (responseOf [messageOf "to be"])])=.ok (s,chunks) ∧
      Matches (responseOf [messageOf "to be"]) (chunks.foldl feed .empty) := by
  have hecho : Echoes (responseOf [messageOf "to be"]).output spokenEvents := echoes_spoken
  obtain ⟨s,chunks,hrun,hiff⟩ := matches_iff_toolless "" "" false hecho
  refine ⟨s,chunks,hrun,hiff.mpr ⟨?_,?_⟩⟩
  · decide
  · unfold TextInMessages
    decide +kernel

def calledEvents : List ResponsesEvent :=
  [eventOf .created "",toolEvent .outputItemAdded "" (some (functionCallOf "")),toolEvent .functionArgsDelta "[" none,
    toolEvent .functionArgsDelta "]" none,toolEvent .functionArgsDone "" none,
    toolEvent .outputItemDone "" (some (functionCallOf "[]"))]

/-- The terminal response repeats the call under the key of its item's id: it is sent again, with index 1. -/
theorem called_twice :
    Echoes [functionCallOf "[]"] calledEvents ∧ ∃ s chunks, convertEvents (newResponsesToChatStreamState "" "" false)
          (calledEvents++[completedEvent (responseOf [functionCallOf "[]"])])=.ok (s,chunks) ∧
        (chunks.foldl feed .empty).tools=[⟨0,("call","tool"),"[]"⟩,⟨1,("call","tool"),"[]"⟩] ∧
        ¬Matches (responseOf [functionCallOf "[]"]) (chunks.foldl feed .empty) := by
  constructor
  · refine ⟨by decide,fun event hevn htool => ⟨0,functionCallOf "[]",?_,rfl,rfl⟩,fun i out hout htool => ?_,by decide +kernel⟩
    · revert event
      decide
    · refine ⟨toolEvent .outputItemAdded "" (some (functionCallOf "")),by simp [calledEvents],rfl,?_⟩
      have hlt := (List.getElem?_eq_some_iff.mp hout).1
      obtain rfl : i=0 := by simpa using hlt
      rfl
  · obtain ⟨⟨s,chunks⟩,hrun,hend⟩ := exists_of_ok (x := convertEvents (newResponsesToChatStreamState "" "" false)
      (calledEvents++[completedEvent (responseOf [functionCallOf "[]"])])) (P := fun r =>
        (r.2.foldl feed .empty).tools=[⟨0,("call","tool"),"[]"⟩,⟨1,("call","tool"),"[]"⟩] ∧
          ¬Matches (responseOf [functionCallOf "[]"]) (r.2.foldl feed .empty)) (by decide +kernel)
    exact ⟨s,chunks,hrun,hend⟩
end AronaApi.Responses
