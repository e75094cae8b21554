import AronaApi.Claude.Losses
import AronaApi.Responses.ToChat

/-! What the converter of a Responses stream sends: the text it is given, and one tool-call index for each key it
has seen. -/
namespace AronaApi.Responses
open Claude GoStd List ResponsesEvent

def toolIndices (chunks : List Chunk) : List ℕ := chunks.flatMap fun chunk => (number 0 chunk.toolCalls).map Prod.fst

@[simp] lemma toolIndices_append (chunks more : List Chunk) :
    toolIndices (chunks++more)=toolIndices chunks++toolIndices more :=
  flatMap_append

def Identified (chunks : List Chunk) : Prop := ∀ chunk∈chunks, ∀ call∈chunk.toolCalls, call.id ≠ ""

variable {chunks more : List Chunk}
lemma Identified.append (h : Identified chunks) (hmore : Identified more) : Identified (chunks++more) :=
  forall_mem_append.mpr ⟨h,hmore⟩

/-- The tools are numbered in the order they were seen in, and the indices sent are theirs. -/
structure Counted (s : StreamState) (sofar : List Chunk) : Prop where
  size : s.toolByKey.keys.length=s.nextToolIndex
  stored : ∀ key tool, s.toolByKey.lookup key=some tool → tool.key=key ∧ tool.sent=true ∧ tool.index<s.nextToolIndex
  indices : ∀ i, i∈toolIndices sofar ↔ i<s.nextToolIndex
  identified : Identified sofar

structure Holding (s : StreamState) (sofar : List Chunk) (tool : StreamTool) : Prop where
  size : s.toolByKey.keys.length=s.nextToolIndex
  held : tool.key∈s.toolByKey
  index : tool.index<s.nextToolIndex
  stored : ∀ key other, key≠tool.key → s.toolByKey.lookup key=some other →
    other.key=key ∧ other.sent=true ∧ other.index<s.nextToolIndex
  indices : ∀ i∈toolIndices sofar, i<s.nextToolIndex
  sent : ∀ i<s.nextToolIndex, i∈toolIndices sofar ∨ (tool.sent=false ∧ i=tool.index)
  identified : Identified sofar

variable {s : StreamState} {sofar : List Chunk} {tool : StreamTool} {t : StreamState}
lemma Counted.congr (h : Counted s sofar) (htls : t.toolByKey=s.toolByKey)
    (hnext : t.nextToolIndex=s.nextToolIndex) : Counted t sofar := by
  constructor
  · rw [htls,hnext]
    exact h.size
  · rw [htls,hnext]
    exact h.stored
  · rw [hnext]
    exact h.indices
  · exact h.identified

lemma Counted.toolless (h : Counted s sofar) (hmore : ∀ chunk∈more, chunk.toolCalls=[]) : Counted s (sofar++more) := by
  have hnone : toolIndices more=[] := by
    apply flatMap_eq_nil_iff.mpr
    intro chunk hchn
    rw [hmore chunk hchn]
    rfl
  refine ⟨h.size,h.stored,fun i => ?_,h.identified.append fun chunk hchn => ?_⟩
  · rw [toolIndices_append,hnone,append_nil]
    exact h.indices i
  · rw [hmore chunk hchn]
    exact fun _ hcall => (not_mem_nil hcall).elim

lemma ensureStart_spec (s : StreamState) : (∀ chunk∈s.ensureStart.2, chunk.toolCalls=[] ∧ chunk.content = "") ∧
      s.ensureStart.1.toolByKey=s.toolByKey ∧ s.ensureStart.1.nextToolIndex=s.nextToolIndex ∧
      s.ensureStart.1.hasSentText=s.hasSentText ∧ s.ensureStart.1.pendingArgsByOutputIndex=s.pendingArgsByOutputIndex ∧
      s.ensureStart.1.pendingArgsByItemId=s.pendingArgsByItemId := by
  unfold StreamState.ensureStart
  split
  · exact ⟨fun _ h => (not_mem_nil h).elim,rfl,rfl,rfl,rfl,rfl⟩
  refine ⟨fun chunk h => ?_,rfl,rfl,rfl,rfl,rfl⟩
  rw [mem_singleton.mp h]
  exact ⟨rfl,rfl⟩

lemma Counted.ensureStart (h : Counted s sofar) : Counted s.ensureStart.1 (sofar++s.ensureStart.2) := by
  obtain ⟨hchun,htls,hnext,-⟩ := ensureStart_spec s
  exact (h.toolless fun chunk hchn => (hchun chunk hchn).1).congr htls hnext

lemma Counted.holding {key : ToolKey} (h : Counted s sofar) (hfnd : s.toolByKey.lookup key=some tool) :
    Holding s sofar tool := by
  obtain ⟨hkey,hsent,hind⟩ := h.stored key tool hfnd
  refine ⟨h.size,?_,hind,fun key' other _ => h.stored key' other,fun i hi => (h.indices i).mp hi,
    fun i hi => .inl ((h.indices i).mpr hi),h.identified⟩
  rw [hkey]
  exact AList.lookup_isSome.mp (by rw [hfnd]; rfl)

lemma Holding.congr {other : StreamTool} (h : Holding s sofar tool)
    (htls : t.toolByKey=s.toolByKey) (hnext : t.nextToolIndex=s.nextToolIndex) (hkey : other.key=tool.key)
    (hind : other.index=tool.index) (hsent : other.sent=tool.sent) : Holding t sofar other := by
  constructor
  · rw [htls,hnext]
    exact h.size
  · rw [htls,hkey]
    exact h.held
  · rw [hnext,hind]
    exact h.index
  · rw [htls,hnext,hkey]
    exact h.stored
  · rw [hnext]
    exact h.indices
  · rw [hnext,hind,hsent]
    exact h.sent
  · exact h.identified

lemma Counted.toolAt (h : Counted s sofar) (key : ToolKey) (callId : String) :
    Holding (s.toolAt key callId).1 sofar (s.toolAt key callId).2 ∧ (s.toolAt key callId).2.key=key ∧
      (s.toolAt key callId).1.hasSentText=s.hasSentText ∧
      ∀ other∈s.toolByKey, other∈(s.toolAt key callId).1.toolByKey := by
  unfold StreamState.toolAt
  cases hfound : s.toolByKey.lookup key with
  | some tool =>
    exact ⟨h.holding hfound,(h.stored key tool hfound).1,rfl,fun _ hk => hk⟩
  | none =>
    have hnew : key∉s.toolByKey := AList.lookup_eq_none.mp hfound
    refine ⟨⟨?_,?_,Nat.lt_succ_self _,?_,?_,?_,h.identified⟩,rfl,rfl,?_⟩
    · simp [StreamState.store,AList.keys_insert,erase_of_not_mem (mt AList.mem_keys.mpr hnew),h.size]
    · simp [StreamState.store]
    · intro key' other hne hoth
      simp only [StreamState.store,AList.lookup_insert_ne hne] at hoth
      obtain ⟨hkey,hsent,hind⟩ := h.stored key' other hoth
      exact ⟨hkey,hsent,Nat.lt_succ_of_lt hind⟩
    · exact fun i hi => Nat.lt_succ_of_lt ((h.indices i).mp hi)
    · intro i hi
      obtain hlt | rfl := Nat.lt_succ_iff_lt_or_eq.mp hi
      · exact .inl ((h.indices i).mpr hlt)
      · exact .inr ⟨rfl,rfl⟩
    · exact fun other hoth => (AList.mem_insert _).mpr (.inr hoth)

lemma Holding.keys_store (h : Holding s sofar tool) (value : StreamTool) :
    (s.toolByKey.insert tool.key value).keys.length=s.nextToolIndex ∧
      ∀ key, key∈s.toolByKey.insert tool.key value ↔ key∈s.toolByKey := by
  have hmem := AList.mem_keys.mp h.held
  have hpos := length_pos_of_mem hmem
  constructor
  · rw [AList.keys_insert,length_cons,length_erase_of_mem hmem,Nat.sub_add_cancel hpos]
    exact h.size
  · intro key
    rw [AList.mem_insert]
    constructor
    · rintro (rfl | hkey)
      · exact h.held
      · exact hkey
    · exact .inr

lemma Holding.stored_insert (h : Holding s sofar tool) {value : StreamTool} (hkey : value.key=tool.key)
    (hind : value.index=tool.index) (hsent : value.sent=true) (key : ToolKey) (other : StreamTool)
    (hoth : (s.toolByKey.insert tool.key value).lookup key=some other) :
    other.key=key ∧ other.sent=true ∧ other.index<s.nextToolIndex := by
  by_cases he : key=tool.key
  · rw [he,AList.lookup_insert,Option.some.injEq] at hoth
    subst hoth
    rw [he,hind]
    exact ⟨hkey,hsent,h.index⟩
  · rw [AList.lookup_insert_ne he] at hoth
    exact h.stored key other he hoth

lemma text_ne_empty (key : ToolKey) : key.text ≠ "" := by
  intro hemp
  have hlen := congrArg String.length hemp
  cases key with
  | output index | item id | call id =>
    rw [ToolKey.text,String.length_append] at hlen
    exact absurd hlen (by simp)

lemma Holding.ensureStart (h : Holding s sofar tool) : Holding s.ensureStart.1 (sofar++s.ensureStart.2) tool := by
  obtain ⟨hchun,htls,hnext,-⟩ := ensureStart_spec s
  have hnone : toolIndices s.ensureStart.2=[] := by
    apply flatMap_eq_nil_iff.mpr
    intro chunk hchn
    rw [(hchun chunk hchn).1]
    rfl
  constructor
  · rw [htls,hnext]
    exact h.size
  · rw [htls]
    exact h.held
  · rw [hnext]
    exact h.index
  · rw [htls,hnext]
    exact h.stored
  · rw [toolIndices_append,hnone,append_nil,hnext]
    exact h.indices
  · rw [toolIndices_append,hnone,append_nil,hnext]
    exact h.sent
  · refine h.identified.append fun chunk hchn => ?_
    rw [(hchun chunk hchn).1]
    exact fun _ hcall => (not_mem_nil hcall).elim

lemma Holding.toolDelta (h : Holding s sofar tool) (explicitDelta : String) :
    Counted (s.toolDelta tool explicitDelta).1 (sofar++(s.toolDelta tool explicitDelta).2) ∧
      (∀ key, key∈(s.toolDelta tool explicitDelta).1.toolByKey ↔ key∈s.toolByKey) ∧
      (∀ chunk∈(s.toolDelta tool explicitDelta).2, chunk.content = "") ∧
      (s.toolDelta tool explicitDelta).1.hasSentText=s.hasSentText := by
  unfold StreamState.toolDelta
  simp only
  generalize (if explicitDelta = "" then _ else explicitDelta)=argsDelta
  split
  next hsil =>
    obtain ⟨hsent,-,-⟩ := hsil
    obtain ⟨hsize,hkeys⟩ := h.keys_store tool
    refine ⟨⟨hsize,h.stored_insert rfl rfl hsent,fun i => ?_,?_⟩,hkeys,fun _ hc => (not_mem_nil hc).elim,rfl⟩
    · rw [append_nil]
      refine ⟨h.indices i,fun hi => (h.sent i hi).resolve_right fun hnot => ?_⟩
      rw [hsent] at hnot
      cases hnot.1
    · rw [append_nil]
      exact h.identified
  · obtain ⟨hstr,htls,hnext,htext,-⟩ := ensureStart_spec s
    have h' := h.ensureStart
    generalize s.ensureStart=start at hstr htls hnext htext h'
    rw [← append_assoc]
    refine ⟨⟨(h'.keys_store _).1,h'.stored_insert rfl rfl rfl,fun i => ?_,h'.identified.append ?_⟩,fun key => ?_,?_,
      htext⟩
    · rw [toolIndices_append,mem_append]
      constructor
      · rintro (hi | hi)
        · exact h'.indices i hi
        · obtain rfl := mem_singleton.mp hi
          exact h'.index
      · intro hi
        obtain hold | ⟨-,rfl⟩ := h'.sent i hi
        · exact .inl hold
        · exact .inr (mem_singleton_self _)
    · intro chunk hchn call hcall
      rw [mem_singleton.mp hchn] at hcall
      rw [mem_singleton.mp hcall]
      simp only
      split
      · exact text_ne_empty _
      next hid => exact hid
    · rw [← htls]
      exact (h'.keys_store _).2 key
    · exact forall_mem_append.mpr ⟨fun chunk h => (hstr chunk h).2,forall_mem_singleton.mpr rfl⟩

/-! What each function sends. -/

structure Advances (s : StreamState) (sofar : List Chunk) (r : StreamState × List Chunk) (text : String) : Prop where
  counted : Counted r.1 (sofar++r.2)
  keys : ∀ key∈s.toolByKey, key∈r.1.toolByKey
  carries : spell Chunk.content r.2=text
  hasSentText : r.1.hasSentText=(s.hasSentText || decide (text ≠ ""))

section
variable {s : StreamState} {sofar : List Chunk} {t : StreamState}
lemma Advances.nil (h : Counted s sofar) (htls : t.toolByKey=s.toolByKey)
    (hnext : t.nextToolIndex=s.nextToolIndex) (htext : t.hasSentText=s.hasSentText) : Advances s sofar (t,[]) "" := by
  refine ⟨?_,fun key hkey => ?_,rfl,by simp [htext]⟩
  · rw [append_nil]
    exact h.congr htls hnext
  · rw [htls]
    exact hkey

lemma Advances.append {r r' : StreamState × List Chunk} {text more : String} (h : Advances s sofar r text)
    (hmore : Advances r.1 (sofar++r.2) r' more) : Advances s sofar (r'.1,r.2++r'.2) (text++more) := by
  refine ⟨?_,fun key hkey => hmore.keys key (h.keys key hkey),?_,?_⟩
  · rw [← append_assoc]
    exact hmore.counted
  · rw [spell_append,h.carries,hmore.carries]
  · rw [hmore.hasSentText,h.hasSentText,Bool.or_assoc]
    congr 1
    rw [← Bool.decide_or]
    simp only [ne_eq,String.append_eq_empty_iff,not_and_or]

lemma Counted.advances_ensureStart (h : Counted s sofar) : Advances s sofar s.ensureStart "" := by
  obtain ⟨hchun,htls,-,htext,-⟩ := ensureStart_spec s
  refine ⟨h.ensureStart,fun key hkey => ?_,(spell_eq_empty_iff _ _).mpr fun chunk hchn => (hchun chunk hchn).2,
    by simp [htext]⟩
  rw [htls]
  exact hkey

variable {text : String}
lemma Advances.silent {r : StreamState × List Chunk} (h : Advances s sofar r text)
    (hmore : ∀ chunk∈more, chunk.toolCalls=[] ∧ chunk.content = "") : Advances s sofar (r.1,r.2++more) text := by
  refine ⟨?_,h.keys,?_,h.hasSentText⟩
  · rw [← append_assoc]
    exact h.counted.toolless fun chunk hchn => (hmore chunk hchn).1
  · rw [spell_append,h.carries,(spell_eq_empty_iff _ _).mpr fun chunk hchn => (hmore chunk hchn).2,String.append_empty]

lemma Counted.advances_chunk {u : StreamState} (h : Counted t (sofar++chunks))
    (hkeys : t.toolByKey=s.toolByKey) (hchun : ∀ chunk∈chunks, chunk.toolCalls=[] ∧ chunk.content = "")
    (htls : u.toolByKey=t.toolByKey) (hnext : u.nextToolIndex=t.nextToolIndex) {chunk : Chunk}
    (hcls : chunk.toolCalls=[]) (hcont : chunk.content=text)
    (htext : u.hasSentText=(s.hasSentText || decide (text ≠ ""))) : Advances s sofar (u,chunks++[chunk]) text := by
  refine ⟨?_,fun key hkey => ?_,?_,htext⟩
  · rw [← append_assoc]
    refine (h.toolless fun other hoth => ?_).congr htls hnext
    rw [mem_singleton.mp hoth]
    exact hcls
  · rw [htls,hkeys]
    exact hkey
  · rw [spell_append,(spell_eq_empty_iff _ _).mpr fun other hoth => (hchun other hoth).2,spell_cons,spell_nil,hcont,
      String.empty_append,String.append_empty]

lemma Counted.textDelta (h : Counted s sofar) (delta : String) : Advances s sofar (s.textDelta delta) delta := by
  unfold StreamState.textDelta
  split
  next hemp =>
    rw [hemp]
    exact .nil h rfl rfl rfl
  next hdlt =>
  have hntd : Counted (s.noteText delta) sofar := h.congr rfl rfl
  obtain ⟨hchun,htls,-,htext,-⟩ := ensureStart_spec (s.noteText delta)
  have hstr := hntd.ensureStart
  have hkeys : (s.noteText delta).ensureStart.1.toolByKey=s.toolByKey := htls
  generalize (s.noteText delta).ensureStart=start at hchun htext hstr hkeys
  apply hstr.advances_chunk hkeys hchun
  · rfl
  · rfl
  · rfl
  · rfl
  · rw [htext]
    simp [StreamState.noteText,hdlt]

lemma Counted.reasoningDelta (h : Counted s sofar) (delta : String) : Advances s sofar (s.reasoningDelta delta) "" := by
  unfold StreamState.reasoningDelta
  split
  · exact .nil h rfl rfl rfl
  have hntd : Counted (s.noteReasoning (s.breakSummary delta)) sofar := h.congr rfl rfl
  obtain ⟨hchun,htls,-,htext,-⟩ := ensureStart_spec (s.noteReasoning (s.breakSummary delta))
  have hstr := hntd.ensureStart
  have hkeys : (s.noteReasoning (s.breakSummary delta)).ensureStart.1.toolByKey=s.toolByKey := htls
  simp only
  generalize (s.noteReasoning (s.breakSummary delta)).ensureStart=start at hchun htext hstr hkeys
  apply hstr.advances_chunk hkeys hchun
  · rfl
  · rfl
  · rfl
  · rfl
  · simp [htext,StreamState.noteReasoning]

lemma Holding.advances (h : Holding t sofar tool)
    (hkeys : ∀ key∈s.toolByKey, key∈t.toolByKey) (htext : t.hasSentText=s.hasSentText) (explicitDelta : String) :
    Advances s sofar (t.toolDelta tool explicitDelta) "" := by
  obtain ⟨hcoun,hsame,hchun,hsent⟩ := h.toolDelta explicitDelta
  exact ⟨hcoun,fun key hkey => (hsame key).mpr (hkeys key hkey),(spell_eq_empty_iff _ _).mpr hchun,by simp [hsent,
    htext]⟩

lemma Counted.claim (h : Counted s sofar) (event : ResponsesEvent) (key : ToolKey) (callId : String) :
    let claimed := (s.toolAt key callId).1.claim event (s.toolAt key callId).2
    Holding claimed.1 sofar claimed.2 ∧ key∈claimed.1.toolByKey ∧ claimed.1.hasSentText=s.hasSentText ∧
      ∀ other∈s.toolByKey, other∈claimed.1.toolByKey := by
  have hclm : ∀ (t : StreamState) (tool : StreamTool), ((t.claim event tool).1.toolByKey=t.toolByKey ∧
      (t.claim event tool).1.nextToolIndex=t.nextToolIndex ∧ (t.claim event tool).1.hasSentText=t.hasSentText) ∧
      (t.claim event tool).2.key=tool.key ∧ (t.claim event tool).2.index=tool.index ∧
      (t.claim event tool).2.sent=tool.sent := by
    intro t tool
    unfold StreamState.claim
    cases event.outputIndex with
    | none | some index =>
      simp only
      split <;> exact ⟨⟨rfl,rfl,rfl⟩,rfl,rfl,rfl⟩
  obtain ⟨hhold,hat,htext,hkeys⟩ := h.toolAt key callId
  obtain ⟨⟨htls,hnext,hcla⟩,hk,hi,hs⟩ := hclm (s.toolAt key callId).1 (s.toolAt key callId).2
  have hheld := hhold.held
  rw [hat] at hheld
  refine ⟨hhold.congr htls hnext hk hi hs,?_,hcla.trans htext,?_⟩
  · rw [htls]
    exact hheld
  · rw [htls]
    exact hkeys

lemma Counted.toolItem (h : Counted s sofar) (event : ResponsesEvent) (item : ResponsesOutput) :
    Advances s sofar (s.toolItem event item) "" ∧
      ∀ key, keyForEvent event=some key → key∈(s.toolItem event item).1.toolByKey := by
  unfold StreamState.toolItem StreamState.ensureToolForEvent
  cases hkey : keyForEvent event with
  | none => exact ⟨.nil h rfl rfl rfl,fun _ hk => by cases hk⟩
  | some key =>
    obtain ⟨hhold,hheld,htext,hkeys⟩ := h.claim event key ""
    simp only [Option.map_some]
    generalize (s.toolAt key "").1.claim event (s.toolAt key "").2=claimed at hhold hheld htext hkeys
    have hrdy : ∀ tool : StreamTool, tool.key=claimed.2.key → tool.index=claimed.2.index →
        tool.sent=claimed.2.sent → Holding claimed.1 sofar tool :=
      fun tool hk hi hs => hhold.congr rfl rfl hk hi hs
    constructor
    · apply Holding.advances _ hkeys htext
      exact hrdy _ rfl rfl rfl
    · intro other hoth
      obtain rfl := Option.some.inj hoth
      apply ((Holding.toolDelta _ "").2.1 key).mpr hheld
      · exact sofar
      · exact hrdy _ rfl rfl rfl

lemma findToolForEvent_stored {event : ResponsesEvent} (h : s.findToolForEvent event=some tool) :
    ∃ key, s.toolByKey.lookup key=some tool := by
  unfold StreamState.findToolForEvent at h
  split at h
  next key _ => exact ⟨key,h⟩
  · split at h
    next key _ => exact ⟨key,h⟩
    · split at h
      · obtain ⟨key,-,hkey⟩ := Option.bind_eq_some_iff.mp h
        exact ⟨key,hkey⟩
      · cases h

section
variable (h : Counted s sofar)
include h
lemma Counted.toolArgumentsDelta (event : ResponsesEvent) : Advances s sofar (s.toolArgumentsDelta event) "" := by
  unfold StreamState.toolArgumentsDelta
  split
  · exact .nil h rfl rfl rfl
  split
  next tool hfnd =>
    obtain ⟨key,hkey⟩ := findToolForEvent_stored hfnd
    apply Holding.advances _ (fun _ hk => hk) rfl
    exact (h.holding hkey).congr rfl rfl rfl rfl rfl
  · split
    · exact .nil h rfl rfl rfl
    simp only
    split <;> exact .nil h rfl rfl rfl

lemma Counted.flushPendingTool (event : ResponsesEvent) : Advances s sofar (s.flushPendingTool event) "" := by
  unfold StreamState.flushPendingTool
  split
  next tool hfnd =>
    obtain ⟨key,hkey⟩ := findToolForEvent_stored hfnd
    exact (h.holding hkey).advances (fun _ hk => hk) rfl ""
  · unfold StreamState.ensureFallbackToolForEvent
    split
    next t tool hsome =>
      obtain ⟨key,-,he⟩ := Option.map_eq_some_iff.mp hsome
      obtain ⟨hhold,-,htext,hkeys⟩ := h.claim event key (fallbackCallId event)
      have hcla : (s.toolAt key (fallbackCallId event)).1.claim event (s.toolAt key (fallbackCallId event)).2 =
        (t,tool) := he
      rw [hcla] at hhold htext hkeys
      exact hhold.advances hkeys htext ""
    · exact .nil h rfl rfl rfl

lemma Counted.flushKey (key : ToolKey) : Advances s sofar (s.flushKey key) "" := by
  have htake : ∀ (t : StreamState) (tool : StreamTool), ((t.takePending key tool).1.toolByKey=t.toolByKey ∧
      (t.takePending key tool).1.nextToolIndex=t.nextToolIndex ∧
      (t.takePending key tool).1.hasSentText=t.hasSentText) ∧ (t.takePending key tool).2.key=tool.key ∧
      (t.takePending key tool).2.index=tool.index ∧ (t.takePending key tool).2.sent=tool.sent := by
    intro t tool
    cases key <;> exact ⟨⟨rfl,rfl,rfl⟩,rfl,rfl,rfl⟩
  unfold StreamState.flushKey
  obtain ⟨hhold,-,htext,hkeys⟩ := h.toolAt key key.waitingCallId
  generalize s.toolAt key key.waitingCallId=found at hhold htext hkeys
  obtain ⟨⟨htls,hnext,htkn⟩,hk,hi,hs⟩ := htake found.1 found.2
  have hrdy := hhold.congr htls hnext hk hi hs
  rw [← htls] at hkeys
  exact hrdy.advances hkeys (htkn.trans htext) ""

lemma Counted.collect {α : Type} {f : StreamState → α → StreamState × List Chunk} {as : List α}
    (hf : ∀ a∈as, ∀ t more, Counted t more → t.hasSentText=s.hasSentText → Advances t more (f t a) "") :
    Advances s sofar (Responses.collect f s as) "" := by
  induction as generalizing s sofar with
  | nil => exact .nil h rfl rfl rfl
  | cons a as ih =>
    have hone := hf a mem_cons_self s sofar h rfl
    have hsame : (f s a).1.hasSentText=s.hasSentText := by simp [hone.hasSentText]
    have hrest := ih hone.counted fun b hb t more ht htext =>
      hf b (mem_cons_of_mem _ hb) t more ht (htext.trans hsame)
    have happ := hone.append hrest
    rw [String.empty_append] at happ
    exact happ

lemma Counted.finalize (response : Option ResponsesResponse) : Advances s sofar (s.finalize response) "" := by
  unfold StreamState.finalize
  split
  · exact .nil h rfl rfl rfl
  have hfls : Advances s sofar s.markFinalized.flushAllPendingTools "" := by
    have hfnl : Counted s.markFinalized sofar := h.congr rfl rfl
    obtain ⟨hcoun,hkeys,hcarr,htext⟩ := hfnl.collect fun key _ t more ht _ => ht.flushKey key
    exact ⟨hcoun,hkeys,hcarr,htext⟩
  generalize s.markFinalized.flushAllPendingTools=flushed at hfls
  have hstr := hfls.append hfls.counted.advances_ensureStart
  rw [String.empty_append] at hstr
  simp only
  generalize flushed.1.ensureStart=start at hstr
  rw [append_assoc]
  refine hstr.silent fun chunk hchn => ?_
  obtain hfin | husg := mem_append.mp hchn
  · rw [mem_singleton.mp hfin]
    exact ⟨rfl,rfl⟩
  split at husg
  · rw [mem_singleton.mp husg]
    exact ⟨rfl,rfl⟩
  · exact (not_mem_nil husg).elim

lemma Counted.applyResponseMetadata (response : Option ResponsesResponse) :
    Advances s sofar (s.applyResponseMetadata response,[]) "" := by
  unfold StreamState.applyResponseMetadata
  cases response with
  | none | some resp => exact .nil h rfl rfl rfl

lemma Counted.terminalOutput {out : ResponsesOutput}
    (hqt : s.hasSentText=true ∨ (out.type=.message → out.outputText = "")) :
    Advances s sofar (s.terminalOutput out) "" := by
  unfold StreamState.terminalOutput
  split
  next hmess =>
    have hnone : out.outputText = "" := by
      refine hqt.resolve_left ?_ hmess.1
      rw [hmess.2]
      exact Bool.false_ne_true
    rw [← hnone]
    exact h.textDelta out.outputText
  · split
    · exact h.reasoningDelta out.allText
    split
    · exact (h.toolItem _ out).1
    · exact .nil h rfl rfl rfl
end
end

/-! One event before the end of the response. -/

def ResponsesEvent.text (event : ResponsesEvent) : String := if event.type=.outputTextDelta then event.delta else ""

def ResponsesEvent.running (event : ResponsesEvent) : Bool :=
  match event.type with
  | .completed | .done | .incomplete | .failed | .error => false
  | _ => true

def ResponsesEvent.isToolItem (event : ResponsesEvent) : Bool :=
  (event.type=.outputItemAdded || event.type=.outputItemDone) &&
    (event.item.map fun item => isResponsesToolOutputType item.type).getD false

lemma Counted.event (h : Counted s sofar) {event : ResponsesEvent} (hrunning : event.running=true) :
    ∃ r, responsesStreamEventToChatChunks s event=.ok r ∧ Advances s sofar r event.text ∧
      (event.isToolItem=true → ∀ i, event.outputIndex=some i → ToolKey.output i∈r.1.toolByKey) := by
  have hnot : event.type≠.outputItemAdded → event.type≠.outputItemDone → event.isToolItem=false := by
    intro hadded hdone
    simp [isToolItem,hadded,hdone]
  unfold responsesStreamEventToChatChunks
  unfold running at hrunning
  unfold text
  cases htype : event.type with
  | outputItemAdded | outputItemDone =>
    unfold isToolItem
    cases event.item with
    | none => exact ⟨_,rfl,.nil h rfl rfl rfl,by simp⟩
    | some item =>
      obtain ⟨hadv,hkeys⟩ := h.toolItem event item
      simp only
      split
      · refine ⟨_,rfl,hadv,fun _ i hi => hkeys _ ?_⟩
        rw [keyForEvent,hi]
      next hnot => exact ⟨_,rfl,.nil h rfl rfl rfl,by simp [hnot]⟩
  | completed | done | incomplete | failed | error =>
    rw [htype] at hrunning
    exact absurd hrunning Bool.false_ne_true
  | created =>
    have hmeta := h.applyResponseMetadata event.response
    have hcoun := hmeta.counted
    rw [append_nil] at hcoun
    have hstr := hcoun.advances_ensureStart
    refine ⟨_,rfl,⟨hstr.counted,fun key hkey => hstr.keys key (hmeta.keys key hkey),hstr.carries,?_⟩,
      by simp [hnot,htype]⟩
    rw [hstr.hasSentText,hmeta.hasSentText]
    simp
  | outputTextDelta => exact ⟨_,rfl,h.textDelta event.delta,by simp [hnot,htype]⟩
  | reasoningSummaryDelta | reasoningTextDelta => exact ⟨_,rfl,h.reasoningDelta event.delta,by simp [hnot,htype]⟩
  | functionArgsDelta | customToolInputDelta => exact ⟨_,rfl,h.toolArgumentsDelta event,by simp [hnot,htype]⟩
  | functionArgsDone | customToolInputDone => exact ⟨_,rfl,h.flushPendingTool event,by simp [hnot,htype]⟩
  | reasoningSummaryDone | reasoningTextDone | other => exact ⟨_,rfl,.nil h rfl rfl rfl,by simp [hnot,htype]⟩
end AronaApi.Responses
