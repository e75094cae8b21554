import AronaApi.Gemini.Response

/-! Where the thoughts and the texts of a Gemini answer go. A whole response keeps the last thought of a
candidate only, and its flag for tool calls stays set for the candidates that follow; a chunk of a stream
that has a thought gives all it writes as reasoning. -/
namespace AronaApi.Gemini
open List GeminiPart GeminiChatCandidate

open Lines

variable {J : Type} {marshal : J → Option String}
def thoughts (parts : List (GeminiPart J)) : List String := (parts.filter isThought).map text

def answers (parts : List (GeminiPart J)) : List String := (parts.filter isText).map text

def extras (parts : List (GeminiPart J)) : List String :=
  (parts.filter fun p => !p.isThought).filterMap chunkPiece

def callsFunction (parts : List (GeminiPart J)) : Bool := parts.any isFunctionCall

/-- What a client reads for a candidate: the thoughts and nothing else as reasoning, all texts in the
content, and the end for tool calls only if there is one. -/
structure Faithful (parts : List (GeminiPart J)) (content reasoning : String) (endsForTools : Prop) : Prop where
  reasoning : Spelled (thoughts parts) reasoning
  content : InOrder (answers parts) content
  finish : endsForTools → callsFunction parts=true

def Choice.FaithfulTo (choice : Choice) (c : GeminiChatCandidate J) : Prop :=
  Faithful c.parts choice.content (choice.reasoningContent.getD "") (choice.finishReason=.toolCalls)

def deltasFaithfulTo (deltas : List StreamChoice) (shares : List (GeminiChatCandidate J)) : Prop :=
  Faithful (shares.flatMap parts) (spell (fun d => d.content.getD "") deltas)
    (spell (fun d => d.reasoningContent.getD "") deltas) (∃ d∈deltas, d.finishReason=some .toolCalls)

inductive Answer (J : Type)
  | whole (candidates : List (GeminiChatCandidate J))
  | streamed (chunks : List (List (GeminiChatCandidate J)))

variable (marshal) in
/-- Every candidate is read faithfully. The candidates of a stream are put together by their index, and so
are the choices of its chunks. -/
def Answer.Faithful : Answer J → Prop
  | .whole candidates =>
    List.Forall₂ (fun c choice => choice.FaithfulTo c) candidates (responseGeminiChat2OpenAI marshal candidates)
  | .streamed chunks => ∀ i : ℤ,
    deltasFaithfulTo
      ((chunks.flatMap fun chunk => (streamResponseGeminiChat2OpenAI marshal chunk).1).filter fun d => d.index=i)
      (chunks.flatten.filter fun c => c.index=i)

def GeminiChatCandidate.Unmixed (c : GeminiChatCandidate J) : Prop :=
  c.parts.any isThought=true → ∀ x∈extras c.parts, blank x=true

variable (marshal) in
/-- At most one thought with ink, the last of its candidate; no candidate without a call after one with
tool calls; and no chunk in which something else is written beside a thought. -/
def Answer.Unmixed : Answer J → Prop
  | .whole candidates =>
    (∀ c∈candidates, ∀ t∈(thoughts c.parts).dropLast, blank t=true) ∧
    candidates.Pairwise fun a b => toolCallsOf marshal a.parts≠[] → callsFunction b.parts=true
  | .streamed chunks => ∀ chunk∈chunks, ∀ c∈chunk, c.Unmixed

variable {p : GeminiPart J}
lemma answerPiece_of_isText (h : p.isText=true) (close : String) :
    answerPiece close p=if p.text = "\n" then none else some p.text := by
  simp only [isText,Bool.and_eq_true,Option.isNone_iff_eq_none] at h
  rw [answerPiece,h.1.2,h.2]

lemma wholePiece_of_isText (h : p.isText=true) : wholePiece p=if p.text = "\n" then none else some p.text := by
  rw [← answerPiece_of_isText h "\n```"]
  simp only [isText,Bool.and_eq_true,Option.isNone_iff_eq_none,Bool.not_eq_true'] at h
  simp [wholePiece,h.1.1.1.1,h.1.1.1.2,h.1.1.2]

lemma chunkPiece_of_isText (h : p.isText=true) : chunkPiece p=if p.text = "\n" then none else some p.text := by
  rw [← answerPiece_of_isText h "\n```\n"]
  simp only [isText,Bool.and_eq_true,Option.isNone_iff_eq_none,Bool.not_eq_true'] at h
  simp [chunkPiece,h.1.1.1.1,h.1.1.1.2,h.1.1.2]

lemma chunkPiece_of_isThought (h : p.isThought=true) : chunkPiece p=some p.text := by
  simp only [isThought,Bool.and_eq_true,Option.isNone_iff_eq_none] at h
  simp [chunkPiece,h.1.1,h.1.2,h.2]

lemma isThought_of_isText (h : p.isText=true) : p.isThought=false := by
  simp only [isText,Bool.and_eq_true,Bool.not_eq_true'] at h
  simp [isThought,h.1.1.2]

lemma inOrder_join {piece : GeminiPart J → Option String}
    (hpc : ∀ p, p.isText=true → piece p=if p.text = "\n" then none else some p.text)
    (parts : List (GeminiPart J)) : InOrder (answers parts) (join (parts.filterMap piece)) := by
  induction parts with
  | nil => exact .nil
  | cons p ps ih =>
    by_cases htext : p.isText=true
    · have hansw : answers (p::ps)=p.text::answers ps := by
        rw [answers,filter_cons_of_pos htext]
        rfl
      rw [hansw]
      by_cases hnewl : p.text = "\n"
      · have hnone : piece p=none := by rw [hpc p htext,if_pos hnewl]
        rw [filterMap_cons_none hnone,hnewl]
        exact .ignored (by decide) ih
      have hsome : piece p=some p.text := by rw [hpc p htext,if_neg hnewl]
      rw [filterMap_cons_some hsome,join]
      exact .text _ ih.after
    · have hansw : answers (p::ps)=answers ps := by
        rw [answers,filter_cons_of_neg htext]
        rfl
      rw [hansw]
      cases hp : piece p with
      | none =>
        rw [filterMap_cons_none hp]
        exact ih
      | some x =>
        rw [filterMap_cons_some hp,join]
        exact .other x ih.after

lemma thoughts_cons_of_isThought (h : p.isThought=true) (ps : List (GeminiPart J)) :
    thoughts (p::ps)=p.text::thoughts ps := by
  rw [thoughts,filter_cons_of_pos h]
  rfl

lemma thoughts_cons_of_not (h : ¬p.isThought=true) (ps : List (GeminiPart J)) : thoughts (p::ps)=thoughts ps := by
  rw [thoughts,filter_cons_of_neg h]
  rfl

lemma extras_cons_of_isThought (h : p.isThought=true) (ps : List (GeminiPart J)) :
    extras (p::ps)=extras ps := by simp [extras,h]

lemma extras_cons_of_not (h : ¬p.isThought=true) (ps : List (GeminiPart J)) :
    extras (p::ps)=(chunkPiece p).toList++extras ps := by
  cases hp : chunkPiece p with
  | none | some x => simp [extras,h,hp]

lemma spelled_join {parts : List (GeminiPart J)} (h : ∀ x∈extras parts, blank x=true) :
    Spelled (thoughts parts) (join (parts.filterMap chunkPiece)) := by
  induction parts with
  | nil => exact .nil
  | cons p ps ih =>
    by_cases htho : p.isThought=true
    · rw [extras_cons_of_isThought htho] at h
      rw [thoughts_cons_of_isThought htho,filterMap_cons_some (chunkPiece_of_isThought htho),join]
      exact .text _ (ih h).after
    rw [extras_cons_of_not htho] at h
    rw [thoughts_cons_of_not htho]
    cases hp : chunkPiece p with
    | none =>
      rw [hp] at h
      rw [filterMap_cons_none hp]
      exact ih h
    | some x =>
      rw [hp] at h
      obtain ⟨hx,hrest⟩ := forall_mem_cons.mp h
      rw [filterMap_cons_some hp,join]
      exact .blank_append hx (ih hrest).after

lemma weight_pieces (parts : List (GeminiPart J)) :
    weight (parts.filterMap chunkPiece)=weight (thoughts parts)+weight (extras parts) := by
  induction parts with
  | nil => rfl
  | cons p ps ih =>
    by_cases htho : p.isThought=true
    · rw [thoughts_cons_of_isThought htho,filterMap_cons_some (chunkPiece_of_isThought htho),
        extras_cons_of_isThought htho,weight_cons,weight_cons,ih]
      omega
    rw [thoughts_cons_of_not htho,extras_cons_of_not htho]
    cases hp : chunkPiece p with
    | none =>
      rw [filterMap_cons_none hp,ih]
      rfl
    | some x =>
      rw [filterMap_cons_some hp,Option.toList_some,weight_append,weight_cons,weight_cons,ih,weight_nil]
      omega

section
lemma reasoningContent_choiceOf (isToolCall : Bool) (c : GeminiChatCandidate J) :
    (choiceOf marshal isToolCall c).reasoningContent.getD "" = (thoughts c.parts).getLast?.getD "" := by
  rw [thoughts,List.getLast?_map]
  rfl

lemma callsFunction_of_toolCalls {parts : List (GeminiPart J)} (h : toolCallsOf marshal parts≠[]) :
    callsFunction parts=true := by
  obtain ⟨call,hcall⟩ := exists_mem_of_ne_nil _ h
  obtain ⟨p,hp,heq⟩ := mem_filterMap.mp hcall
  apply any_eq_true.mpr
  refine ⟨p,hp,?_⟩
  cases hinl : p.inlineData with
  | some data =>
    rw [hinl] at heq
    cases heq
  | none =>
    rw [hinl] at heq
    obtain ⟨f,hf,-⟩ := Option.bind_eq_some_iff.mp heq
    simp [isFunctionCall,hinl,hf]

lemma finishReasonOf_ne (reason : GeminiFinishReason) : finishReasonOf reason≠.toolCalls := by
  cases reason with
  | _ => exact nofun

variable (marshal) in
lemma finishReason_choiceOf_iff (isToolCall : Bool) (c : GeminiChatCandidate J) :
    ((choiceOf marshal (isToolCall || toolCallsOf marshal c.parts≠[]) c).finishReason=.toolCalls →
      callsFunction c.parts=true) ↔ (isToolCall=true → callsFunction c.parts=true) := by
  by_cases hcls : callsFunction c.parts=true
  · simp [hcls]
  have hnone : toolCallsOf marshal c.parts=[] := by
    by_contra hne
    exact hcls (callsFunction_of_toolCalls hne)
  cases isToolCall with
  | true => simp [choiceOf,hcls]
  | false =>
    have hfin : (choiceOf marshal (false || toolCallsOf marshal c.parts≠[]) c).finishReason≠.toolCalls := by
      rw [callsFunction] at hcls
      simp only [choiceOf,hnone,hcls]
      cases hreason : c.finishReason with
      | none => exact nofun
      | some reason => exact finishReasonOf_ne reason
    exact ⟨fun _ hset => (nomatch hset),fun _ hends => absurd hends hfin⟩

variable (marshal) in
lemma faithful_choiceOf_iff (isToolCall : Bool) (c : GeminiChatCandidate J) :
    (choiceOf marshal (isToolCall || toolCallsOf marshal c.parts≠[]) c).FaithfulTo c ↔
    (∀ t∈(thoughts c.parts).dropLast, blank t=true) ∧ (isToolCall=true → callsFunction c.parts=true) := by
  rw [← finishReason_choiceOf_iff marshal,← Spelled.getLast_iff]
  constructor
  · intro h
    have hreas := h.reasoning
    rw [reasoningContent_choiceOf] at hreas
    exact ⟨hreas,h.finish⟩
  · rintro ⟨hreas,hfin⟩
    refine ⟨?_,inOrder_join (fun p hp => wholePiece_of_isText hp) c.parts,hfin⟩
    rw [reasoningContent_choiceOf]
    exact hreas

lemma faithful_choicesFrom_iff (isToolCall : Bool) (candidates : List (GeminiChatCandidate J)) :
    List.Forall₂ (fun c choice => choice.FaithfulTo c) candidates (choicesFrom marshal isToolCall candidates) ↔
    (∀ c∈candidates, ∀ t∈(thoughts c.parts).dropLast, blank t=true) ∧
    (isToolCall=true → ∀ c∈candidates, callsFunction c.parts=true) ∧
    candidates.Pairwise fun a b => toolCallsOf marshal a.parts≠[] → callsFunction b.parts=true := by
  induction candidates generalizing isToolCall with
  | nil => simp [choicesFrom]
  | cons c cs ih =>
    rw [choicesFrom,List.forall₂_cons,faithful_choiceOf_iff,ih,forall_mem_cons,pairwise_cons,forall_mem_cons]
    simp only [Bool.or_eq_true,decide_eq_true_eq]
    constructor
    · rintro ⟨⟨htho,hcall⟩,hrest,hflag,hpairs⟩
      exact ⟨⟨htho,hrest⟩,fun hset => ⟨hcall hset,hflag (.inl hset)⟩,fun d hd hne => hflag (.inr hne) d hd,hpairs⟩
    · rintro ⟨⟨htho,hrest⟩,hset,hfrs,hpairs⟩
      refine ⟨⟨htho,fun h => (hset h).1⟩,hrest,?_,hpairs⟩
      rintro (h | hne)
      · exact (hset h).2
      · exact fun d hd => hfrs d hd hne
end

section
lemma parts_any_isThought_eq_false_iff {parts : List (GeminiPart J)} :
    parts.any isThought=false ↔ thoughts parts=[] := by simp [thoughts]

lemma ink_reasoning_streamChoiceOf (c : GeminiChatCandidate J) :
    (ink ((streamChoiceOf marshal c).reasoningContent.getD "")).length =
      weight (thoughts c.parts)+if c.parts.any isThought then weight (extras c.parts) else 0 := by
  cases htho : c.parts.any isThought with
  | false =>
    rw [parts_any_isThought_eq_false_iff.mp htho]
    simp [streamChoiceOf,htho]
  | true =>
    simp only [streamChoiceOf,htho,if_true,Option.getD_some,ink_join]
    exact weight_pieces c.parts

lemma GeminiChatCandidate.unmixed_iff (c : GeminiChatCandidate J) :
    c.Unmixed ↔ (if c.parts.any isThought then weight (extras c.parts) else 0)=0 := by
  unfold GeminiChatCandidate.Unmixed
  cases c.parts.any isThought with
  | false => simp
  | true => simp [weight_eq_zero_iff]

variable (marshal) in
lemma unmixed_of_ink {shares : List (GeminiChatCandidate J)}
    (h : (ink (spell (fun c => (streamChoiceOf marshal c).reasoningContent.getD "") shares)).length ≤
      weight (thoughts (shares.flatMap parts))) : ∀ c∈shares, c.Unmixed := by
  have hsum : (ink (spell (fun c => (streamChoiceOf marshal c).reasoningContent.getD "") shares)).length =
      weight (thoughts (shares.flatMap parts))+
        (shares.map fun c => if c.parts.any isThought then weight (extras c.parts) else 0).sum := by
    clear h
    induction shares with
    | nil => rfl
    | cons c cs ih =>
      have htho : thoughts ((c::cs).flatMap parts) = thoughts c.parts++thoughts (cs.flatMap parts) := by simp [thoughts]
      rw [spell_cons,ink_append,length_append,ih,ink_reasoning_streamChoiceOf,htho,weight_append,map_cons,sum_cons]
      omega
  have hzero : (shares.map fun c =>
      if c.parts.any isThought then weight (extras c.parts) else 0).sum=0 := by omega
  intro c hc
  rw [c.unmixed_iff]
  exact List.sum_eq_zero_iff_forall_eq_nat.mp hzero _ (mem_map_of_mem hc)

variable (marshal) in
lemma GeminiChatCandidate.Unmixed.delta {c : GeminiChatCandidate J} (h : c.Unmixed) :
    Spelled (thoughts c.parts) ((streamChoiceOf marshal c).reasoningContent.getD "") ∧
    InOrder (answers c.parts) ((streamChoiceOf marshal c).content.getD "") := by
  cases htho : c.parts.any isThought with
  | false =>
    rw [parts_any_isThought_eq_false_iff.mp htho]
    simp only [streamChoiceOf,htho]
    exact ⟨.nil,inOrder_join (fun p hp => chunkPiece_of_isText hp) c.parts⟩
  | true =>
    have hbln := h htho
    simp only [streamChoiceOf,htho]
    refine ⟨spelled_join hbln,InOrder.of_blank ?_⟩
    intro t ht
    obtain ⟨p,hp,rfl⟩ := mem_map.mp ht
    obtain ⟨hmem,htext⟩ := mem_filter.mp hp
    by_cases hnewl : p.text = "\n"
    · rw [hnewl]
      decide
    apply hbln
    refine mem_filterMap.mpr ⟨p,mem_filter.mpr ⟨hmem,?_⟩,?_⟩
    · rw [isThought_of_isText htext]
      rfl
    · rw [chunkPiece_of_isText htext,if_neg hnewl]

variable (marshal) in
lemma deltas_of_unmixed {shares : List (GeminiChatCandidate J)} (h : ∀ c∈shares, c.Unmixed) :
    Spelled (thoughts (shares.flatMap parts))
      (spell (fun c => (streamChoiceOf marshal c).reasoningContent.getD "") shares) ∧
    InOrder (answers (shares.flatMap parts)) (spell (fun c => (streamChoiceOf marshal c).content.getD "") shares) := by
  induction shares with
  | nil => exact ⟨.nil,.nil⟩
  | cons c cs ih =>
    obtain ⟨hc,hcs⟩ := forall_mem_cons.mp h
    obtain ⟨hspel,hcont⟩ := hc.delta marshal
    obtain ⟨hspl',hcnt'⟩ := ih hcs
    have htho : thoughts ((c::cs).flatMap parts) = thoughts c.parts++thoughts (cs.flatMap parts) := by simp [thoughts]
    have hansw : answers ((c::cs).flatMap parts) = answers c.parts++answers (cs.flatMap parts) := by simp [answers]
    rw [htho,hansw,spell_cons,spell_cons]
    exact ⟨hspel.append hspl',hcont.append hcnt'⟩

lemma callsFunction_of_finishReason {c : GeminiChatCandidate J} (h : streamFinishReason c=some .toolCalls) :
    callsFunction c.parts=true := by
  unfold streamFinishReason at h
  split at h
  next hcls => exact hcls
  split at h
  · cases h
  · cases h
  · exact absurd (Option.some.inj h) (finishReasonOf_ne _)

variable (marshal) in
lemma deltas_eq (chunks : List (List (GeminiChatCandidate J))) (i : ℤ) :
    ((chunks.flatMap fun chunk => (streamResponseGeminiChat2OpenAI marshal chunk).1).filter fun d => d.index=i) =
      (chunks.flatten.filter fun c => c.index=i).map (streamChoiceOf marshal) := by
  have hall : (chunks.flatMap fun chunk => (streamResponseGeminiChat2OpenAI marshal chunk).1) =
      chunks.flatten.map (streamChoiceOf marshal) := by
    rw [map_flatten]
    rfl
  rw [hall,filter_map]
  rfl

lemma deltasFaithfulTo_iff (shares : List (GeminiChatCandidate J)) :
    deltasFaithfulTo (shares.map (streamChoiceOf marshal)) shares ↔ ∀ c∈shares, c.Unmixed := by
  unfold deltasFaithfulTo
  rw [spell_map,spell_map]
  constructor
  · intro h
    apply unmixed_of_ink marshal
    rw [h.reasoning.ink_eq]
    exact le_refl _
  · intro h
    obtain ⟨hspel,hcont⟩ := deltas_of_unmixed marshal h
    refine ⟨hspel,hcont,?_⟩
    rintro ⟨d,hd,hfin⟩
    obtain ⟨c,hc,rfl⟩ := mem_map.mp hd
    have hcls := callsFunction_of_finishReason hfin
    obtain ⟨p,hp,hcall⟩ := any_eq_true.mp hcls
    exact any_eq_true.mpr ⟨p,mem_flatMap.mpr ⟨c,hc,hp⟩,hcall⟩
end

/-- Thoughts and texts reach the client apart and complete exactly if the answer is unmixed. -/
theorem faithful_iff_unmixed (answer : Answer J) : answer.Faithful marshal ↔ answer.Unmixed marshal := by
  cases answer with
  | whole candidates =>
    show List.Forall₂ _ candidates (choicesFrom marshal false candidates) ↔ _ ∧ _
    rw [faithful_choicesFrom_iff]
    simp
  | streamed chunks =>
    show (∀ i, deltasFaithfulTo _ _) ↔ _
    simp only [deltas_eq,deltasFaithfulTo_iff,mem_filter,mem_flatten,decide_eq_true_eq]
    constructor
    · intro h chunk hchn c hc
      exact h c.index c ⟨⟨chunk,hchn,hc⟩,rfl⟩
    · rintro h i c ⟨⟨chunk,hchn,hc⟩,-⟩
      exact h chunk hchn c hc

def thinking (t : String) : GeminiPart String := {text := t,thought := true}
def telling (t : String) : GeminiPart String := {text := t}

/-- Of two thoughts the first is gone; a text after another candidate's call ends for tool calls; and a text
that shares a chunk with a thought is read as reasoning. -/
theorem overwritten_flagged_mixed :
    (responseGeminiChat2OpenAI some [⟨0,[thinking "a",thinking "b",telling "c"],some .stop⟩]).map
      (fun choice => (choice.reasoningContent,choice.content))=[(some "b","c")] ∧
    (responseGeminiChat2OpenAI some [⟨0,[{functionCall := some ("f","1")}],some .stop⟩,⟨1,[telling "c"],some .stop⟩]).map
      Choice.finishReason=[.toolCalls,.toolCalls] ∧
    (streamResponseGeminiChat2OpenAI some [⟨0,[thinking "a",telling "c"],none⟩]).1.map
      (fun d => (d.reasoningContent,d.content))=[(some "a\nc",none)] ∧
    ¬(Answer.whole [⟨0,[thinking "a",thinking "b",telling "c"],some .stop⟩]).Faithful some ∧
    ¬(Answer.whole [⟨0,[{functionCall := some ("f","1")}],some .stop⟩,⟨1,[telling "c"],some .stop⟩]).Faithful some ∧
    ¬(Answer.streamed [[⟨0,[thinking "a",telling "c"],none⟩]]).Faithful some := by
  refine ⟨by decide +kernel,by decide +kernel,by decide +kernel,?_,?_,?_⟩
  · intro h
    have hbln := ((faithful_choicesFrom_iff false _).mp h).1 _ mem_cons_self "a" (by decide +kernel)
    exact absurd hbln (by decide +kernel)
  · intro h
    have hpairs := ((faithful_choicesFrom_iff false _).mp h).2.2
    have hcall := (pairwise_cons.mp hpairs).1 _ mem_cons_self (by decide +kernel)
    exact absurd hcall (by decide +kernel)
  · intro h
    have hshar := h 0
    rw [deltas_eq,deltasFaithfulTo_iff] at hshar
    have hbln := hshar _ mem_cons_self (by decide +kernel) "c" (by decide +kernel)
    exact absurd hbln (by decide +kernel)
end AronaApi.Gemini
