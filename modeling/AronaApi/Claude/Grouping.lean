import AronaApi.Claude.Protocol

/-! When the converted stream keeps to the protocol. Once a tool call is not numbered from the start of its group,
either its events are about a block that is not open, or the converter counts a block that was never started and
will stop it later. -/
namespace AronaApi.Claude
open Schedule List ClaudeResponse ClaudeConvertInfo BlockEvent Blocks

/-- The events cannot be sent when the blocks are `b`. -/
def Stuck (b : Blocks BlockKind) (events : List ClaudeResponse) : Prop := ∀ c, ¬Follows b events c

variable {b : Blocks BlockKind} {events : List ClaudeResponse} {c : Blocks BlockKind} {n announced : ℕ}
   {toolCalls : List ToolCall} {base m : ℕ} {chunk : Chunk}

lemma Stuck.append (h : Stuck b events) (more : List ClaudeResponse) : Stuck b (events++more) := by
  intro d hd
  rw [Follows,map_append,exec_append] at hd
  obtain ⟨c,hc,-⟩ := Option.bind_eq_some_iff.mp hd
  exact h c hc

lemma Follows.stuck {more : List ClaudeResponse} (h : Follows b events c) (hmore : Stuck c more) :
    Stuck b (events++more) := by
  intro d hd
  rw [Follows,map_append,exec_append,show exec step b (events.map block)=some c from h] at hd
  exact hmore d hd

lemma stuck_cons {e : ClaudeResponse} (h : b.step e.block=none) : Stuck b (e::events) := by
  intro d hd
  rw [Follows,map_cons,exec,h] at hd
  cases hd

lemma Follows.opened_of_stops {offsets : List ℕ}
    (h : Follows b (offsets.map fun offset => .contentBlockStop (base+offset)) c) :
    ∀ offset∈offsets, base+offset∈b.opened.map Prod.fst := by
  induction offsets generalizing b with
  | nil => exact fun _ hm => (not_mem_nil hm).elim
  | cons offset offsets ih =>
    obtain ⟨d,hd,hrest⟩ := Option.bind_eq_some_iff.mp h
    simp only [block,step] at hd
    split at hd
    next hopen =>
      cases hd
      intro other hoth
      obtain rfl | hoth := mem_cons.mp hoth
      · exact hopen
      obtain ⟨block,hblc,he⟩ := mem_map.mp (ih hrest other hoth)
      exact mem_map.mpr ⟨block,mem_of_mem_filter hblc,he⟩
    · cases hd

/-- The converter counts a tool that is not among the first `n` of its group, but one of those announced. -/
structure ClaudeConvertInfo.Missed (info : ClaudeConvertInfo) (announced n : ℕ) : Prop where
  tools : info.lastMessagesType=.tools
  le : n ≤ info.toolCallMaxIndexOffset
  lt : info.toolCallMaxIndexOffset<announced

lemma not_mem_toolBlocks {k : ℕ} (h : n≤k) : (base+k)∉(toolBlocks base (List.range n)).map Prod.fst := by
  intro hm
  simp only [toolBlocks,map_map,mem_map,mem_range,Function.comp_apply] at hm
  obtain ⟨j,hj,he⟩ := hm
  omega

variable {info : ClaudeConvertInfo}
lemma ClaudeConvertInfo.Missed.stuck (h : info.Missed announced n) :
    Stuck (groupBlocks info.toolCallBaseIndex n) (stopOpenBlocks info) := by
  intro c hc
  unfold stopOpenBlocks at hc
  rw [h.tools] at hc
  have hopen := hc.opened_of_stops info.toolCallMaxIndexOffset (mem_range.mpr (Nat.lt_succ_self _))
  exact not_mem_toolBlocks h.le hopen

lemma ClaudeConvertInfo.Missed.mono {more : ℕ} (h : info.Missed announced n)
    (hle : announced ≤ more) : info.Missed more n :=
  ⟨h.tools,h.le,Nat.lt_of_lt_of_le h.lt hle⟩

/-- The two ways on once a tool was missed: the events cannot be sent, or the miss is still to come to light. -/
def Misses (b : Blocks BlockKind) (n announced : ℕ) (r : ClaudeConvertInfo × List ClaudeResponse) : Prop :=
  Stuck b r.2 ∨ (Follows b r.2 (groupBlocks r.1.toolCallBaseIndex n) ∧ r.1.Missed announced n ∧ r.1.done=false)

variable {r : ClaudeConvertInfo × List ClaudeResponse}
lemma Misses.close (h : Misses b n announced r) (usage : Option Pricing.Usage) (stopReason : String) :
    Misses b n announced (Claude.close r usage stopReason) := by
  refine .inl ?_
  obtain hstc | ⟨hfoll,hmiss,-⟩ := h
  · exact hstc.append _
  · exact hfoll.stuck ((hmiss.stuck.append _).append _)

/-! The loop over the tool calls, when fewer tools are open than were announced. -/

lemma stuck_or_idle (i : ℕ) {toolCall : ToolCall} (hn : n<announced)
    (h : announce announced (toolCall::toolCalls)=some m) :
    Stuck (groupBlocks base n) (toolCallEvents (base+toolCall.index.getD i) toolCall) ∨
      (Follows (groupBlocks base n) (toolCallEvents (base+toolCall.index.getD i) toolCall) (groupBlocks base n) ∧
        ∃ k, toolCall.index=some k ∧ k<announced ∧ toolCall.name = "" ∧ announce announced toolCalls=some m) := by
  simp only [announce] at h
  unfold toolCallEvents
  split at h
  next hnew =>
    -- a new tool would have to start at the next index
    have hind : base+toolCall.index.getD i≠base+n := by
      rw [hnew.1,Option.getD_some]
      omega
    rw [if_pos hnew.2]
    exact .inl (stuck_cons (if_neg hind))
  · split at h
    next hold =>
      obtain ⟨k,hk,hka⟩ := hold.1
      rw [if_neg (not_not.mpr hold.2),nil_append,Option.mem_def.mp hk,Option.getD_some]
      by_cases hkn : k<n
      · exact .inr ⟨follows_toolDelta toolCall (mem_toolBlocks hkn),k,rfl,hka,hold.2,h⟩
      by_cases hargs : toolCall.arguments ≠ ""
      · rw [if_pos hargs]
        have hclos : (base+k,BlockKind.toolUse)∉toolBlocks base (List.range n) :=
          fun hm => not_mem_toolBlocks (Nat.le_of_not_lt hkn) (mem_map_of_mem hm)
        exact .inl (stuck_cons (if_neg hclos))
      · rw [if_neg hargs]
        exact .inr ⟨.nil _,k,rfl,hka,hold.2,h⟩
    · cases h

def LoopMisses (base n announced : ℕ) (r : ℕ × List ClaudeResponse) : Prop :=
  Stuck (groupBlocks base n) r.2 ∨ (Follows (groupBlocks base n) r.2 (groupBlocks base n) ∧ n ≤ r.1 ∧ r.1<announced)

lemma LoopMisses.after {r : ℕ × List ClaudeResponse} (h : LoopMisses base n announced r)
    (hidle : Follows (groupBlocks base n) events (groupBlocks base n)) :
    LoopMisses base n announced (r.1,events++r.2) := by
  obtain hstc | ⟨hfoll,hboun⟩ := h
  · exact .inl (hidle.stuck hstc)
  · exact .inr ⟨hidle.append hfoll,hboun⟩

lemma misses_toolCallsLoop (base i : ℕ) {maxOffset : ℕ} (hn : n ≤ maxOffset) (hmax : maxOffset<announced)
    (h : announce announced toolCalls=some m) : LoopMisses base n m (toolCallsLoop base i maxOffset toolCalls) := by
  induction toolCalls generalizing i maxOffset with
  | nil =>
    cases h
    exact .inr ⟨.nil _,hn,hmax⟩
  | cons toolCall toolCalls ih =>
    simp only [toolCallsLoop]
    obtain hstc | ⟨hidle,k,hk,hka,-,hrest⟩ := stuck_or_idle i (Nat.lt_of_le_of_lt hn hmax) h
    · exact .inl (hstc.append _)
    refine (ih (i+1) ?_ ?_ hrest).after hidle
    · exact Nat.le_trans hn (Nat.le_max_left _ _)
    · rw [hk,Option.getD_some]
      exact Nat.max_lt.mpr ⟨hmax,hka⟩

lemma toolCallsLoop_misses (base i : ℕ) (hn : n≤announced) (hgrp : announce n toolCalls=none)
    (h : announce announced toolCalls=some m) : LoopMisses base n m (toolCallsLoop base i (n-1) toolCalls) := by
  have hlt : n<announced := by
    refine Nat.lt_of_le_of_ne hn ?_
    rintro rfl
    rw [hgrp] at h
    cases h
  induction toolCalls generalizing i with
  | nil => cases hgrp
  | cons toolCall toolCalls ih =>
    simp only [toolCallsLoop]
    obtain hstc | ⟨hidle,k,hk,hka,hname,hrest⟩ := stuck_or_idle i hlt h
    · exact .inl (hstc.append _)
    refine LoopMisses.after ?_ hidle
    rw [hk,Option.getD_some]
    by_cases hkn : k<n
    · -- a tool of the group: the miss is further on
      rw [Nat.max_eq_left (by omega)]
      refine ih (i+1) ?_ hrest
      simpa [announce,hname,hk,hkn] using hgrp
    · rw [Nat.max_eq_right (by omega)]
      exact misses_toolCallsLoop base (i+1) (Nat.le_of_not_lt hkn) hka hrest

/-! Once a tool was missed, the chunks that follow cannot make up for it. -/

lemma Misses.after (h : Misses c n announced r)
    (heven : Follows b events c) : Misses b n announced (r.1,events++r.2) := by
  obtain hstc | ⟨hfoll,hmiss⟩ := h
  · exact .inl (heven.stuck hstc)
  · exact .inr ⟨heven.append hfoll,hmiss⟩

section
variable (h : info.Missed announced n) (hdone : info.done=false)
include h
lemma stuck_writeContent {type : LastMessageType} (first : Bool) (block : ContentBlock) (delta : ContentDelta)
    (htype : type≠.tools) :
    Stuck (groupBlocks info.toolCallBaseIndex n) (writeContent info first type block delta).2 := by
  have hne : info.lastMessagesType≠type := fun he => htype (he.symm.trans h.tools)
  have hstp : (stopOpenBlocksAndAdvance info).2=stopOpenBlocks info := by
    unfold stopOpenBlocksAndAdvance
    rw [h.tools]
  unfold writeContent
  simp only [if_pos hne,hstp]
  exact (h.stuck.append _).append _

include hdone
lemma misses_nil : Misses (groupBlocks info.toolCallBaseIndex n) n announced (info,[]) :=
  .inr ⟨.nil _,h,hdone⟩

lemma misses_convertContent (delta : Delta) :
    Misses (groupBlocks info.toolCallBaseIndex n) n announced (convertContent info false delta) := by
  unfold convertContent
  split
  · exact .inl (stuck_writeContent h false _ _ nofun)
  split
  · exact .inl (stuck_writeContent h false _ _ nofun)
  · exact misses_nil h hdone

lemma misses_convertTools (hm : announce announced toolCalls=some m) :
    Misses (groupBlocks info.toolCallBaseIndex n) n m (convertTools info toolCalls) := by
  unfold convertTools
  simp only [if_neg (not_not.mpr h.tools),nil_append]
  obtain hstc | ⟨hfoll,hn,hlt⟩ := misses_toolCallsLoop info.toolCallBaseIndex 0 h.le h.lt hm
  · exact .inl hstc
  · exact .inr ⟨hfoll,⟨rfl,hn,hlt⟩,hdone⟩

lemma misses_convertDelta {delta : Delta} (hm : announce announced delta.toolCalls=some m) :
    Misses (groupBlocks info.toolCallBaseIndex n) n m (convertDelta info delta) := by
  unfold convertDelta
  split
  · exact misses_convertTools h hdone hm
  · exact misses_convertContent (h.mono (le_of_announce hm).1) hdone delta

lemma misses_later (env : ConvertEnv) (hm : announce announced chunk.toolCalls=some m) :
    Misses (groupBlocks info.toolCallBaseIndex n) n m (convertLater env info chunk) := by
  have hmono : info.Missed m n := h.mono (le_of_announce hm).1
  apply convertLater_cases env (P := Misses (groupBlocks info.toolCallBaseIndex n) n m)
  · exact fun _ => .inr ⟨.nil _,⟨hmono.tools,hmono.le,hmono.lt⟩,hdone⟩
  · exact misses_nil hmono hdone
  · intro _ choice htools
    have hkeep : (info.keepFinish choice).Missed announced n := ⟨h.tools,h.le,h.lt⟩
    exact misses_convertDelta hkeep hdone (htools ▸ hm)
  · exact fun _ h => h
  · exact fun _ _ _ h => h.close _ _
end

lemma convertTools_misses (info : ClaudeConvertInfo)
    (hdone : info.done=false) (hle : info.group≤announced) (hgrp : announce info.group toolCalls=none)
    (hm : announce announced toolCalls=some m) : Misses info.blocks info.group m (convertTools info toolCalls) := by
  obtain ⟨base,stops,hstp,heq⟩ := follows_group info toolCalls
  have hsame : (convertTools info toolCalls).1.done=false := by
    rw [← hdone]
    unfold convertTools stopOpenBlocksAndAdvance
    cases info.lastMessagesType <;> rfl
  rw [heq]
  obtain hstc | ⟨hfoll,hn,hlt⟩ := toolCallsLoop_misses base 0 hle hgrp hm
  · exact .inl (hstp.stuck hstc)
  · exact .inr ⟨hstp.append hfoll,⟨rfl,hn,hlt⟩,hsame⟩

lemma later_misses (env : ConvertEnv) (info : ClaudeConvertInfo)
    (hdone : info.done=false) (hle : info.group≤announced) (hdfr : chunk.deferred=false)
    (hgrp : announce info.group chunk.toolCalls=none) (hm : announce announced chunk.toolCalls=some m) :
    Misses info.blocks info.group m (convertLater env info chunk) := by
  cases hc : chunk.choices with
  | nil =>
    simp only [Chunk.toolCalls,hc,List.head?_nil,Option.map_none,Option.getD_none] at hgrp
    cases hgrp
  | cons choice choices =>
    obtain ⟨stopReason,he⟩ := convertLater_cons env info hc hdfr
    rw [show chunk.toolCalls=choice.delta.toolCalls by simp [Chunk.toolCalls,hc]] at hgrp hm
    have hne : choice.delta.toolCalls≠[] := by
      intro hnil
      rw [hnil] at hgrp
      cases hgrp
    have hdlt : Misses info.blocks info.group m (convertDelta (info.keepFinish choice) choice.delta) := by
      unfold convertDelta
      rw [if_pos hne]
      exact convertTools_misses (info.keepFinish choice) hdone hle hgrp hm
    rw [he]
    split
    · exact hdlt.close _ _
    · exact hdlt

/-! Before a miss, the group is no larger than what was announced. -/

lemma announce_le {m' : ℕ} (hle : n≤announced)
    (h : announce n toolCalls=some m) (h' : announce announced toolCalls=some m') : m ≤ m' := by
  induction toolCalls generalizing n announced with
  | nil =>
    cases h
    cases h'
    exact hle
  | cons toolCall toolCalls ih =>
    simp only [announce] at h h'
    by_cases hname : toolCall.name = ""
    · -- the tool is open for both counts
      simp only [hname,ne_eq,not_true_eq_false,and_false,if_false,and_true,Option.ite_none_right_eq_some] at h h'
      exact ih hle h.2 h'.2
    · simp only [hname,ne_eq,not_false_eq_true,and_true,and_false,if_false,Option.ite_none_right_eq_some] at h h'
      exact ih (Nat.succ_le_succ hle) h.2 h'.2

lemma group_convertContent (info : ClaudeConvertInfo) (first : Bool) (delta : Delta) :
    (convertContent info first delta).1.group ≤ info.group := by
  by_cases htls : (convertContent info first delta).1.lastMessagesType=.tools
  · rw [convertContent_tools htls]
  rw [group,if_neg htls]
  exact Nat.zero_le _

lemma group_convertDelta (info : ClaudeConvertInfo) {delta : Delta}
    (h : announce info.group delta.toolCalls=some m) : (convertDelta info delta).1.group ≤ m := by
  have hle := le_of_announce h
  unfold convertDelta
  split
  next hne =>
    obtain ⟨base,stops,-,heq⟩ := follows_group info delta.toolCalls
    rw [heq,(follows_toolCallsLoop base 0 h).1]
    exact (Nat.sub_add_cancel (hle.2 hne)).le
  · exact (group_convertContent info false delta).trans hle.1

lemma group_later (env : ConvertEnv) (info : ClaudeConvertInfo)
    (hle : info.group≤announced) (hm : announce announced chunk.toolCalls=some m)
    (h : chunk.deferred=true ∨ (announce info.group chunk.toolCalls).isSome=true) :
    (convertLater env info chunk).1.group ≤ m := by
  have hsame : info.group ≤ m := hle.trans (le_of_announce hm).1
  apply convertLater_cases env (P := fun r => r.1.group ≤ m) (motive := fun r => r.1.group ≤ m)
  · exact fun _ => hsame
  · exact hsame
  · intro hdfr choice htools
    obtain ⟨k,hk⟩ := Option.isSome_iff_exists.mp (h.resolve_left hdfr)
    have hkm := announce_le hle hk hm
    rw [htools] at hk
    exact (group_convertDelta (info.keepFinish choice) hk).trans hkm
  · exact fun _ h => h
  · exact fun _ _ _ h => h

lemma group_first (env : ConvertEnv)
    (hlast : info.lastMessagesType=.none) (hm : announce announced chunk.toolCalls=some m) :
    (convertFirst env info chunk).1.group ≤ m := by
  have hnone : info.group=0 := if_neg (by simp [hlast])
  unfold convertFirst
  cases hc : chunk.choices with
  | nil => exact hnone.le.trans (Nat.zero_le m)
  | cons choice choices =>
    rw [show chunk.toolCalls=choice.delta.toolCalls by simp [Chunk.toolCalls,hc]] at hm
    have htool : (convertFirstTool info choice.delta.toolCalls).1.group ≤ m := by
      have hpos := (le_of_announce hm).2
      cases htools : choice.delta.toolCalls with
      | nil => exact hnone.le.trans (Nat.zero_le m)
      | cons toolCall toolCalls => exact hpos (by simp [htools])
    have hcont := (group_convertContent (convertFirstTool info choice.delta.toolCalls).1 true choice.delta).trans htool
    simp only
    cases choice.finish with
    | none | some reason => exact hcont

namespace Conversion

structure Grouped (s : Conversion) : Prop extends Sound s where
  group : s.info.group ≤ s.announced

def Lost (s : Conversion) : Prop := s.count≠0 ∧ ∃ n, Misses .empty n s.announced (s.info,s.output)

lemma grouped_start : start.Grouped := ⟨sound_start,Nat.zero_le _⟩

variable {s t : Conversion}
lemma Grouped.step (env : ConvertEnv) (h : s.Grouped) (hfed : s.WellFed chunk)
    (hgrp : s.InGroup chunk) (hstep : s.step env chunk=some t) : t.Grouped := by
  refine ⟨h.toSound.step env hgrp hstep,?_⟩
  obtain ⟨m,hm⟩ := Option.isSome_iff_exists.mp hfed
  simp only [Conversion.step,hm,Option.getD_some,Option.some.injEq] at hstep
  subst hstep
  simp only
  unfold streamResponseOpenAI2Claude
  split
  · exact h.group.trans (le_of_announce hm).1
  next hdone =>
  split
  next hfrs =>
    exact group_first env (h.fresh (by omega)).1 hm
  next hltr =>
  have hnow := (hgrp.resolve_left hdone).resolve_left (fun hcnt => hltr (by rw [hcnt]))
  exact group_later env (s.info.keepUsage chunk) h.group hm hnow

lemma Grouped.lost (env : ConvertEnv) (h : s.Grouped) (hfed : s.WellFed chunk)
    (hgrp : ¬s.InGroup chunk) (hstep : s.step env chunk=some t) : t.Lost := by
  obtain ⟨m,hm⟩ := Option.isSome_iff_exists.mp hfed
  simp only [InGroup,not_or,Bool.not_eq_true,Option.isSome_eq_false_iff,Option.isNone_iff_eq_none] at hgrp
  obtain ⟨hdone,hcnt,hdfr,hnone⟩ := hgrp
  obtain ⟨b,hsent,hknw⟩ := h.sent
  obtain rfl := hknw hdone
  simp only [Conversion.step,hm,Option.getD_some,Option.some.injEq] at hstep
  subst hstep
  refine ⟨Nat.succ_ne_zero _,s.info.group,?_⟩
  unfold streamResponseOpenAI2Claude
  rw [if_neg (by simp [keepUsage,hdone]),if_neg (by omega)]
  exact (later_misses env (s.info.keepUsage chunk) hdone h.group hdfr hnone hm).after hsent

lemma Lost.step (env : ConvertEnv) (h : s.Lost) (hfed : s.WellFed chunk)
    (hstep : s.step env chunk=some t) : t.Lost := by
  obtain ⟨m,hm⟩ := Option.isSome_iff_exists.mp hfed
  obtain ⟨hcnt,n,hmis⟩ := h
  simp only [Conversion.step,hm,Option.getD_some,Option.some.injEq] at hstep
  subst hstep
  refine ⟨Nat.succ_ne_zero _,n,?_⟩
  obtain hstc | ⟨hsent,hmiss,hdone⟩ := hmis
  · exact .inl (hstc.append _)
  unfold streamResponseOpenAI2Claude
  rw [if_neg (by simp [keepUsage,show s.info.done=false from hdone]),if_neg (by omega)]
  have hkeep : (s.info.keepUsage chunk).Missed s.announced n := ⟨hmiss.tools,hmiss.le,hmiss.lt⟩
  exact (misses_later hkeep hdone env hm).after hsent

lemma Lost.not_wellBlocked (h : s.Lost) (hdone : s.info.done=true) : ¬WellBlocked (s.output.map block) := by
  intro hwell
  obtain ⟨-,n,hmiss⟩ := h
  obtain ⟨b,hb⟩ := exec_of_wellBlocked hwell
  obtain hstc | ⟨-,-,hopen⟩ := hmiss
  · exact hstc b hb
  · exact Bool.false_ne_true (hopen.symm.trans hdone)

/-- The stream is well blocked when each tool call is numbered from the start of its group, and a stream that has
ended is well blocked in no other case. -/
theorem wellBlocked_iff_inGroup (env : ConvertEnv) {chunks : List Chunk} {s : Conversion}
    (h : Runs (step env) WellFed start chunks s) :
    (Runs (step env) (fun s chunk => s.WellFed chunk ∧ s.InGroup chunk) start chunks s →
        WellBlocked (s.output.map block)) ∧
      (s.info.done=true → WellBlocked (s.output.map block) →
        Runs (step env) (fun s chunk => s.WellFed chunk ∧ s.InGroup chunk) start chunks s) := by
  constructor
  · intro hgro
    have hsnd : s.Sound := by
      refine hgro.invariant Sound ?_ sound_start
      exact fun _ _ _ hs hok hstep => hs.step env hok.2 hstep
    obtain ⟨b,hb,-⟩ := hsnd.sent
    exact wellBlocked_of_exec hb
  · intro hdone hwell
    have hor := h.good_or_lost (fun _ _ _ hs hfed hgrp hstep => hs.step env hfed hgrp hstep)
      (fun _ _ _ hs hfed hgrp hstep => hs.lost env hfed hgrp hstep)
      (fun _ _ _ hs hfed hstep => hs.step env hfed hstep) grouped_start
    exact (hor.resolve_right fun hlost => hlost.not_wellBlocked hdone hwell).2

instance (s : Conversion) (chunk : Chunk) : Decidable (s.WellFed chunk) := inferInstanceAs (Decidable (_=true))

instance (s : Conversion) (chunk : Chunk) : Decidable (s.InGroup chunk) :=
  inferInstanceAs (Decidable (_ ∨ _ ∨ _ ∨ _))

def plainConvert : ConvertEnv := ⟨fun reason => reason,0⟩

def chunkOf (delta : Delta) : Chunk := ⟨"chat","model",[⟨delta,none⟩],none⟩

def saying (text : String) : Chunk := chunkOf ⟨some text,none,none,[]⟩

def thinkingOf (text : String) : Chunk := chunkOf ⟨none,some text,none,[]⟩

def calling (toolCalls : List ToolCall) : Chunk := chunkOf ⟨none,none,none,toolCalls⟩

def finishing : Chunk := ⟨"chat","model",[⟨⟨none,none,none,[]⟩,some "tool_calls"⟩],some Pricing.Usage.zero⟩

def newTool (index : ℕ) (arguments : String) : ToolCall := ⟨some index,"call","tool",arguments⟩

def moreOf (index : ℕ) (arguments : String) : ToolCall := ⟨some index,"","",arguments⟩

def toolsLast : List Chunk :=
  [saying "",thinkingOf "why",saying "because",calling [newTool 0 "["],calling [newTool 1 "["],
    calling [moreOf 0 "]",moreOf 1 "]"],finishing]

theorem toolsLast_wellBlocked :
    ∃ s, Runs (step plainConvert) (fun s chunk => s.WellFed chunk ∧ s.InGroup chunk) start toolsLast s ∧
      (s.output.map block).filterMap startIndex=[0,1,2,3] ∧
      WellBlocked (s.output.map block) := by
  obtain ⟨s,hs,hruns,hstar⟩ := checked_run (step plainConvert) (fun s chunk => s.WellFed chunk ∧ s.InGroup chunk) start toolsLast
    (fun s => (s.output.map block).filterMap startIndex=[0,1,2,3]) (by decide +kernel)
  exact ⟨s,hruns,hstar,(wellBlocked_iff_inGroup plainConvert (hruns.imp fun _ _ => And.left)).1 hruns⟩

/-- Text between two tools: the second one, of index 1, is put one block past the next free index. -/
def textBetween : List Chunk :=
  [saying "",calling [newTool 0 "[]"],saying "and",calling [newTool 1 "[]"],finishing]

def twoAtOnce : List Chunk := [calling [newTool 0 "",newTool 1 ""],calling [moreOf 1 "[]"]]

theorem textBetween_twoAtOnce_not_wellBlocked :
    (∃ s, Runs (step plainConvert) WellFed start textBetween s ∧ ¬WellBlocked (s.output.map block)) ∧
      ∃ s, Runs (step plainConvert) WellFed start twoAtOnce s ∧ ¬WellBlocked (s.output.map block) := by
  constructor
  · obtain ⟨s,-,hruns,hlist⟩ := checked_run (step plainConvert) WellFed start textBetween
      (fun s => (s.output.map block).filterMap startIndex=[0,1,3]) (by decide +kernel)
    refine ⟨s,hruns,fun h => ?_⟩
    have hgap := h.starts
    rw [hlist] at hgap
    exact absurd hgap (by decide)
  · obtain ⟨s,-,hruns,hout⟩ := checked_run (step plainConvert) WellFed start twoAtOnce
      (fun s => s.output.map block=[.other,.start 0 .toolUse,.delta 1 .toolUse]) (by decide +kernel)
    refine ⟨s,hruns,fun h => ?_⟩
    obtain ⟨hstr,-⟩ := h.delta [.other,.start 0 .toolUse] 1 .toolUse [] hout
    simp at hstr
end Conversion
end AronaApi.Claude
