import AronaApi.Claude.Framing

/-! A Claude client of a Responses upstream is never told the end of the message: the chunk with the finish reason
carries no usage, and the converter waits for a chunk that does. -/
namespace AronaApi.Claude
open Pricing Responses List StreamState

/-! The chat chunks of a Responses stream. -/

/-- The chunks have a choice and no usage, and the first chunk of the stream has no finish reason. -/
structure Unclosing (s : StreamState) (r : StreamState × List Chunk) : Prop where
  plain : ∀ chunk∈r.2, chunk.usage=none ∧ chunk.choices≠[]
  headed : s.sentStart=false → ∀ chunk∈r.2.head?, chunk.finish=none
  sent : r.1.sentStart=(s.sentStart || !r.2.isEmpty)
  usage : r.1.includeUsage=s.includeUsage

variable {s : StreamState}
variable {t : StreamState} {r : StreamState × List Chunk}
lemma Unclosing.nil (hsent : t.sentStart=s.sentStart) (husg : t.includeUsage=s.includeUsage) : Unclosing s (t,[]) :=
  ⟨fun _ h => (not_mem_nil h).elim,fun _ _ h => (nomatch h),by simp [hsent],husg⟩

lemma Unclosing.append {r' : StreamState × List Chunk} (h : Unclosing s r) (h' : Unclosing r.1 r') :
    Unclosing s (r'.1,r.2++r'.2) := by
  refine ⟨forall_mem_append.mpr ⟨h.plain,h'.plain⟩,fun hsent chunk hchn => ?_,?_,h'.usage.trans h.usage⟩
  · cases hfrs : r.2 with
    | nil =>
      rw [hfrs,nil_append] at hchn
      refine h'.headed ?_ chunk hchn
      rw [h.sent,hsent,hfrs]
      rfl
    | cons first rest =>
      rw [hfrs,cons_append,List.head?_cons] at hchn
      refine h.headed hsent chunk ?_
      rw [hfrs]
      exact hchn
  · rw [h'.sent,h.sent,Bool.or_assoc]
    cases r.2 <;> simp

lemma Unclosing.more (h : Unclosing s r) {chunk : Chunk} (hstr : r.1.sentStart=true)
    (hsent : t.sentStart=true) (husg : t.includeUsage=r.1.includeUsage)
    (hpln : chunk.usage=none ∧ chunk.choices≠[]) : Unclosing s (t,r.2++[chunk]) := by
  have hone : Unclosing r.1 (t,[chunk]) := by
    refine ⟨fun other hoth => ?_,fun hnot => ?_,?_,husg⟩
    · rw [mem_singleton.mp hoth]
      exact hpln
    · rw [hstr] at hnot
      cases hnot
    · simp [hsent]
  exact h.append hone

lemma unclosing_ensureStart (s : StreamState) : Unclosing s s.ensureStart ∧ s.ensureStart.1.sentStart=true := by
  unfold ensureStart
  split
  next hsent => exact ⟨.nil rfl rfl,hsent⟩
  · refine ⟨⟨fun chunk h => ?_,fun _ chunk h => ?_,by simp,rfl⟩,rfl⟩
    · rw [mem_singleton.mp h]
      exact ⟨rfl,cons_ne_nil _ _⟩
    · obtain rfl := Option.some.inj h
      rfl

lemma Unclosing.of_same (h : Unclosing t r) (hsent : t.sentStart=s.sentStart)
    (husg : t.includeUsage=s.includeUsage) : Unclosing s r :=
  ⟨h.plain,fun hnot => h.headed (hsent.trans hnot),by rw [h.sent,hsent],h.usage.trans husg⟩

lemma unclosing_textDelta (s : StreamState) (delta : String) : Unclosing s (s.textDelta delta) := by
  unfold textDelta
  split
  · exact .nil rfl rfl
  obtain ⟨hstr,hsent⟩ := unclosing_ensureStart (s.noteText delta)
  have hfrom : Unclosing s (s.noteText delta).ensureStart := hstr.of_same rfl rfl
  exact hfrom.more hsent hsent rfl ⟨rfl,cons_ne_nil _ _⟩

lemma unclosing_reasoningDelta (s : StreamState) (delta : String) : Unclosing s (s.reasoningDelta delta) := by
  unfold reasoningDelta
  split
  · exact .nil rfl rfl
  obtain ⟨hstr,hsent⟩ := unclosing_ensureStart (s.noteReasoning (s.breakSummary delta))
  have hfrom : Unclosing s (s.noteReasoning (s.breakSummary delta)).ensureStart := hstr.of_same rfl rfl
  exact hfrom.more hsent hsent rfl ⟨rfl,cons_ne_nil _ _⟩

lemma unclosing_toolDelta (s : StreamState) (tool : StreamTool) (explicitDelta : String) :
    Unclosing s (s.toolDelta tool explicitDelta) := by
  unfold toolDelta
  simp only
  generalize (if explicitDelta = "" then _ else explicitDelta)=argsDelta
  split
  · exact .nil rfl rfl
  obtain ⟨hstr,hsent⟩ := unclosing_ensureStart s
  exact hstr.more hsent hsent rfl ⟨rfl,cons_ne_nil _ _⟩

def SameStart (s t : StreamState) : Prop := t.sentStart=s.sentStart ∧ t.includeUsage=s.includeUsage

lemma sameStart_toolAt (s : StreamState) (key : ToolKey) (callId : String) : SameStart s (s.toolAt key callId).1 := by
  unfold toolAt
  cases s.toolByKey.lookup key with
  | some tool | none => exact ⟨rfl,rfl⟩

lemma sameStart_claim (s : StreamState) (event : ResponsesEvent) (tool : StreamTool) :
    SameStart s (s.claim event tool).1 := by
  unfold claim
  cases event.outputIndex with
  | none | some index =>
    simp only
    split <;> exact ⟨rfl,rfl⟩

lemma SameStart.trans {u : StreamState} (h : SameStart s t) (h' : SameStart t u) : SameStart s u :=
  ⟨h'.1.trans h.1,h'.2.trans h.2⟩

lemma SameStart.toolDelta (h : SameStart s t) (tool : StreamTool) (explicitDelta : String) :
    Unclosing s (t.toolDelta tool explicitDelta) :=
  (unclosing_toolDelta t tool explicitDelta).of_same h.1 h.2

lemma unclosing_toolItem (s : StreamState) (event : ResponsesEvent) (item : ResponsesOutput) :
    Unclosing s (s.toolItem event item) := by
  unfold toolItem ensureToolForEvent
  cases keyForEvent event with
  | none => exact .nil rfl rfl
  | some key =>
    have hsame := (sameStart_toolAt s key "").trans (sameStart_claim (s.toolAt key "").1 event (s.toolAt key "").2)
    exact hsame.toolDelta _ _

lemma unclosing_toolArgumentsDelta (s : StreamState) (event : ResponsesEvent) :
    Unclosing s (s.toolArgumentsDelta event) := by
  unfold toolArgumentsDelta
  split
  · exact .nil rfl rfl
  split
  · exact unclosing_toolDelta _ _ _
  split
  · exact .nil rfl rfl
  simp only
  split <;> exact .nil rfl rfl

lemma unclosing_flushPendingTool (s : StreamState) (event : ResponsesEvent) :
    Unclosing s (s.flushPendingTool event) := by
  unfold flushPendingTool
  split
  · exact unclosing_toolDelta _ _ _
  unfold ensureFallbackToolForEvent
  split
  next t tool hsome =>
    obtain ⟨key,-,he⟩ := Option.map_eq_some_iff.mp hsome
    have hsame := (sameStart_toolAt s key (fallbackCallId event)).trans
      (sameStart_claim _ event (s.toolAt key (fallbackCallId event)).2)
    have hcla : (s.toolAt key (fallbackCallId event)).1.claim event (s.toolAt key (fallbackCallId event)).2 =
      (t,tool) := he
    rw [hcla] at hsame
    exact hsame.toolDelta _ _
  · exact .nil rfl rfl

lemma unclosing_flushKey (s : StreamState) (key : ToolKey) : Unclosing s (s.flushKey key) := by
  have htake : ∀ (t : StreamState) (tool : StreamTool), SameStart t (t.takePending key tool).1 := by
    intro t tool
    cases key <;> exact ⟨rfl,rfl⟩
  have hsame := (sameStart_toolAt s key key.waitingCallId).trans (htake _ (s.toolAt key key.waitingCallId).2)
  exact hsame.toolDelta _ _

lemma unclosing_terminalOutput (s : StreamState) (out : ResponsesOutput) : Unclosing s (s.terminalOutput out) := by
  unfold terminalOutput
  split
  · exact unclosing_textDelta _ _
  split
  · exact unclosing_reasoningDelta _ _
  split
  · exact unclosing_toolItem _ _ _
  · exact .nil rfl rfl

lemma unclosing_collect {α : Type} {f : StreamState → α → StreamState × List Chunk}
    (hf : ∀ t a, Unclosing t (f t a)) (s : StreamState) (as : List α) : Unclosing s (collect f s as) := by
  induction as generalizing s with
  | nil => exact .nil rfl rfl
  | cons a as ih => exact (hf s a).append (ih (f s a).1)

lemma unclosing_finalize (hno : s.includeUsage=false) (response : Option ResponsesResponse) :
    Unclosing s (s.finalize response) := by
  unfold finalize
  split
  · exact .nil rfl rfl
  have hflus : Unclosing s s.markFinalized.flushAllPendingTools :=
    (unclosing_collect unclosing_flushKey s.markFinalized _).of_same rfl rfl
  simp only
  generalize s.markFinalized.flushAllPendingTools=flushed at hflus ⊢
  obtain ⟨hstr,hsent⟩ := unclosing_ensureStart flushed.1
  have hboth := hflus.append hstr
  generalize flushed.1.ensureStart=start at hboth hsent ⊢
  have hno' : start.1.includeUsage=false := hboth.usage.trans hno
  rw [hno',if_neg Bool.false_ne_true,append_nil]
  exact hboth.more hsent hsent rfl ⟨rfl,cons_ne_nil _ _⟩

lemma sameStart_applyResponseMetadata (s : StreamState) (response : Option ResponsesResponse) :
    SameStart s (s.applyResponseMetadata response) := by
  unfold applyResponseMetadata
  cases response with
  | none | some resp => exact ⟨rfl,rfl⟩

lemma unclosing_terminal (hno : s.includeUsage=false) (response : Option ResponsesResponse) :
    Unclosing s ((((s.applyResponseMetadata response).terminalOutputChunks response).1.finalize response).1,
      ((s.applyResponseMetadata response).terminalOutputChunks response).2 ++
        (((s.applyResponseMetadata response).terminalOutputChunks response).1.finalize response).2) := by
  have hmeta := sameStart_applyResponseMetadata s response
  have houtp : Unclosing s ((s.applyResponseMetadata response).terminalOutputChunks response) := by
    unfold terminalOutputChunks
    cases response with
    | none => exact .nil hmeta.1 hmeta.2
    | some resp => exact (unclosing_collect unclosing_terminalOutput _ _).of_same hmeta.1 hmeta.2
  exact houtp.append (unclosing_finalize (houtp.usage.trans hno) response)

lemma unclosing_event (hno : s.includeUsage=false) {event : ResponsesEvent}
    (hr : responsesStreamEventToChatChunks s event=.ok r) : Unclosing s r := by
  unfold responsesStreamEventToChatChunks at hr
  cases htype : event.type
  all_goals rw [htype] at hr
  case failed | error => cases hr
  case outputItemAdded | outputItemDone =>
    cases hitem : event.item with
    | none =>
      simp only [hitem] at hr
      rw [← Except.ok.inj hr]
      exact .nil rfl rfl
    | some item =>
      simp only [hitem] at hr
      rw [← Except.ok.inj hr]
      split
      · exact unclosing_toolItem _ _ _
      · exact .nil rfl rfl
  all_goals rw [← Except.ok.inj hr]
  case completed | done => exact unclosing_terminal hno event.response
  case incomplete => exact unclosing_terminal hno (some (ensureIncompleteResponse event.response))
  case created =>
    have hmeta := sameStart_applyResponseMetadata s event.response
    exact (unclosing_ensureStart _).1.of_same hmeta.1 hmeta.2
  case outputTextDelta => exact unclosing_textDelta _ _
  case reasoningSummaryDelta | reasoningTextDelta => exact unclosing_reasoningDelta _ _
  case functionArgsDelta | customToolInputDelta => exact unclosing_toolArgumentsDelta _ _
  case functionArgsDone | customToolInputDone => exact unclosing_flushPendingTool _ _
  case reasoningSummaryDone | reasoningTextDone | other => exact .nil rfl rfl

/-! Sending them. -/

def Unended (state : StreamState) (s : Conversion) : Prop :=
  (s.count=0 ∧ s.info.done=false ∧ s.output=[] ∧ state.sentStart=false) ∨ ∃ known, Opened s known

variable {state : StreamState} {s : Conversion} {events : List ResponsesEvent} {env : ConvertEnv}
lemma Unended.not_framed (h : Unended state s) : ¬Framed s.output := by
  obtain ⟨-,-,houtp,-⟩ | ⟨known,hopen⟩ := h
  · rintro ⟨n,hn⟩
    rw [houtp] at hn
    cases hn
  · exact hopen.not_framed

lemma not_closesIn {chunks : List Chunk} (h : ∀ chunk∈chunks, chunk.usage=none ∧ chunk.choices≠[])
    (known : Bool) : closesIn known chunks=false := by
  induction chunks generalizing known with
  | nil => rfl
  | cons chunk chunks ih =>
    obtain ⟨⟨husg,hcho⟩,hrest⟩ := forall_mem_cons.mp h
    rw [closesIn,ih hrest,Chunk.closes,if_neg hcho,husg]
    simp

lemma Unended.send (h : Unended state s) (hr : Unclosing state r) : Unended r.1 (sendChatChunks env s r.2) := by
  have hall : sendChatChunks env s r.2=r.2.foldl (handleStreamFormat env) s := by
    unfold sendChatChunks
    rw [filter_eq_self.mpr fun chunk hchn => decide_eq_true (.inl (hr.plain chunk hchn).2)]
  rw [hall]
  obtain ⟨hcnt,hdone,houtp,hsent⟩ | ⟨known,hopen⟩ := h
  · cases hchun : r.2 with
    | nil =>
      refine .inl ⟨hcnt,hdone,houtp,?_⟩
      rw [hr.sent,hsent,hchun]
      rfl
    | cons first rest =>
      have hfin : first.finish=none := hr.headed hsent first (by rw [hchun]; rfl)
      have hrest : ∀ chunk∈rest, chunk.usage=none ∧ chunk.choices≠[] :=
        fun chunk hchn => hr.plain chunk (by rw [hchun]; exact mem_cons_of_mem _ hchn)
      have hopen := (handle_first env hcnt hdone houtp first).1 hfin
      exact .inr ((hopen.run rest).1 (not_closesIn hrest _)).1
  · exact .inr ((hopen.run r.2).1 (not_closesIn hr.plain _)).1

lemma Unended.sendResponses (h : Unended state s)
    (hno : state.includeUsage=false) {r : StreamState × Conversion} (hr : sendResponses env state s events=.ok r) :
    Unended r.1 r.2 ∧ r.1.includeUsage=false := by
  induction events generalizing state s with
  | nil =>
    obtain rfl := Except.ok.inj hr
    exact ⟨h,hno⟩
  | cons event events ih =>
    rw [Claude.sendResponses] at hr
    cases hstep : responsesStreamEventToChatChunks state event with
    | error e =>
      rw [hstep] at hr
      cases hr
    | ok next =>
      rw [hstep] at hr
      have huncl := unclosing_event hno hstep
      exact ih (h.send huncl) (huncl.usage.trans hno) hr

lemma not_framed_responses (env : HandlerEnv) {responseId model : String}
    (h : oaiResponsesToChatStreamHandler env responseId model events=.ok s) : ¬Framed s.output := by
  unfold oaiResponsesToChatStreamHandler at h
  cases hsent : sendResponses env.convert (newResponsesToChatStreamState responseId model false) .start events with
  | error e =>
    rw [hsent] at h
    cases h
  | ok r =>
    rw [hsent] at h
    have hfresh : Unended (newResponsesToChatStreamState responseId model false) .start := .inl ⟨rfl,rfl,rfl,rfl⟩
    obtain ⟨hunen,hno⟩ := hfresh.sendResponses rfl hsent
    obtain ⟨state,conversion⟩ := r
    have hknw : ∀ usage, Unended { state with usage } { conversion with info := { conversion.info with usage := some usage } } := by
      intro usage
      obtain hnoth | ⟨known,hopen⟩ := hunen
      · exact .inl hnoth
      · exact .inr ⟨true,hopen.count,hopen.done,rfl,hopen.begun⟩
    rw [← Except.ok.inj h]
    refine ((hknw _).send (unclosing_finalize ?_ none)).not_framed
    exact hno

def Upstream.Closes : Upstream → Prop
  | .chat chunks => ChatCloses chunks
  | .responses _ _ _ => False

theorem framed_iff_closes (env : HandlerEnv) (upstream : Upstream) {output : List ClaudeResponse}
    (h : upstream.relay env=.ok output) : Framed output ↔ upstream.Closes := by
  cases upstream with
  | chat chunks =>
    obtain rfl := Except.ok.inj h
    exact framed_chat_iff env chunks
  | responses responseId model events =>
    obtain ⟨s,hs,rfl⟩ := GoStd.map_eq_ok h
    exact ⟨fun hfram => not_framed_responses env hs hfram,False.elim⟩

def plainHandler : HandlerEnv := ⟨⟨fun reason => reason,0⟩,⟨0,fun _ => 0⟩,true,false,fun usage _ => usage⟩

def textChunk (text : String) (finishReason : Option String) : Chunk :=
  ⟨"chat","model",[⟨⟨some text,none,none,[]⟩,finishReason⟩],none⟩

def usageLast : List Chunk := [textChunk "to be" none,textChunk "" (some "stop"),⟨"chat","model",[],some Usage.zero⟩]

theorem usageLast_framed : ∃ output, (Upstream.chat usageLast).relay plainHandler=.ok output ∧ Framed output := by
  refine ⟨_,rfl,(framed_iff_closes plainHandler (.chat usageLast) rfl).mpr ?_⟩
  exact ⟨_,_,rfl,cons_ne_nil _ _,Nat.le_refl 2,[textChunk "" (some "stop")],_,[],rfl,rfl⟩

/-- One chunk with everything; a stream without a usage; and a Responses stream. -/
def unframed : List Upstream :=
  [.chat [textChunk "to be" (some "stop")],.chat [textChunk "to" none,textChunk " be" none,textChunk "" (some "stop")],
    .responses "resp" "model" [⟨.created,none,"",none,none,""⟩,⟨.outputTextDelta,none,"to be",none,none,""⟩,
      ⟨.completed,some ⟨"resp",none,none,"model",[],some Usage.zero⟩,"",none,none,""⟩]]

/-- No `message_start`, or no end. -/
theorem unframed_frames :
    unframed.map (fun upstream => (upstream.relay plainHandler).toOption.map frames) =
        [some [],some [.start,.inner,.inner,.inner],some [.start,.inner,.inner]] ∧
      ∀ upstream∈unframed, ∀ output, upstream.relay plainHandler=.ok output → ¬Framed output := by
  have hfram : unframed.map (fun upstream => (upstream.relay plainHandler).toOption.map frames) =
      [some [],some [.start,.inner,.inner,.inner],some [.start,.inner,.inner]] := by decide +kernel
  refine ⟨hfram,fun upstream hupst output houtp => ?_⟩
  rintro ⟨n,hn⟩
  have hmem := mem_map_of_mem (f := fun upstream : Upstream => (upstream.relay plainHandler).toOption.map frames) hupst
  rw [hfram,houtp] at hmem
  have hstop : Frame.stop∈frames output := by
    unfold frames
    rw [hn]
    simp
  simp only [Except.toOption,Option.map_some,mem_cons,Option.some.injEq,not_mem_nil,or_false] at hmem
  obtain he | he | he := hmem
  all_goals
    rw [he] at hstop
    simp at hstop
end AronaApi.Claude
