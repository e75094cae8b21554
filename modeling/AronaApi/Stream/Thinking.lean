import AronaApi.Claude.Content

/-! Reasoning sent as content between tags (`sendStreamData` of `relay-openai.go` with `thinkToContent`). -/
namespace AronaApi.Thinking
open Claude List Chunk

structure ThinkingContentInfo where
  isFirstThinkingContent : Bool := true
  sendLastThinkingContent : Bool := false
  hasSentThinkingContent : Bool := false

def setContent (content : Option String) (choice : Choice) : Choice :=
  { choice with delta := { choice.delta with content, reasoningContent := none, reasoning := none } }

/-- The loop over the choices, of which `seen` are behind it. -/
def process (chunk : Chunk) (hasThinkingContent hasContent : Bool) :
    ThinkingContentInfo → List Choice → List Choice → ThinkingContentInfo × List Chunk
  | info,seen,[] => (info,[{ chunk with choices := seen }])
  | info,seen,choice::rest =>
    let closes := hasContent && !info.sendLastThinkingContent && info.hasSentThinkingContent
    let reasoning := choice.delta.getReasoningContent
    let r := process chunk hasThinkingContent hasContent
      { info with sendLastThinkingContent := info.sendLastThinkingContent || closes } (seen++[
        if reasoning ≠ "" then setContent (some reasoning) choice
        else if !hasThinkingContent && !hasContent then setContent choice.delta.content choice
        else choice]) rest
    (r.1,(if closes then
      [{ chunk with choices := (seen++choice::rest).map (setContent (some "\n</think>\n")) }] else [])++r.2)

/-- What a chunk changes and the chunks that are written for it. -/
def sendStreamData (info : ThinkingContentInfo) (chunk : Chunk) : ThinkingContentInfo × List Chunk :=
  let thinkingContent := spell (·.delta.getReasoningContent) chunk.choices
  let hasThinkingContent := chunk.choices.any fun choice => choice.delta.getReasoningContent ≠ ""
  let hasContent := chunk.choices.any fun choice => choice.delta.getContentString ≠ ""
  if info.isFirstThinkingContent && hasThinkingContent then
    ({ info with isFirstThinkingContent := false, hasSentThinkingContent := true },
      [{ chunk with choices := chunk.choices.map (setContent (some ("<think>\n"++thinkingContent))) }])
  -- without choices the loop writes the chunk as it is
  else process chunk hasThinkingContent hasContent info [] chunk.choices

/-- The content that a client reads of a stream. -/
def written : ThinkingContentInfo → List Chunk → String
  | _,[] => ""
  | info,chunk::chunks =>
    spell content (sendStreamData info chunk).2++written (sendStreamData info chunk).1 chunks

variable {chunk : Chunk} {chunks : List Chunk} {closed sent : Bool}
lemma content_setContent (content : Option String) (choice : Choice) :
    (setContent content choice).delta.getContentString=content.getD "" := rfl

lemma written_first (hone : chunk.choices.length=1) (hr : chunk.reasoning ≠ "") :
    written ⟨true,closed,sent⟩ (chunk::chunks)="<think>\n"++chunk.reasoning++written ⟨false,closed,true⟩ chunks := by
  obtain ⟨choice,hc⟩ := length_eq_one_iff.mp hone
  simp_all [written,sendStreamData,reasoning,content,delta,content_setContent]

lemma written_later {first : Bool} (hone : chunk.choices.length=1) (hr : first=true → chunk.reasoning = "") :
    written ⟨first,closed,sent⟩ (chunk::chunks) =
      (if decide (chunk.content ≠ "") && !closed && sent then "\n</think>\n" else "")++
        (if chunk.reasoning = "" then chunk.content else chunk.reasoning)++
        written ⟨first,closed || decide (chunk.content ≠ "") && !closed && sent,sent⟩ chunks := by
  obtain ⟨choice,hc⟩ := length_eq_one_iff.mp hone
  have hkeep : choice.delta.content.getD ""=choice.delta.getContentString := rfl
  by_cases hr' : choice.delta.getReasoningContent = "" <;> by_cases hc' : choice.delta.getContentString = "" <;>
    cases first <;> cases closed <;> cases sent <;>
    simp_all [written,sendStreamData,process,reasoning,content,delta,content_setContent]

lemma written_silent (hone : ∀ chunk∈chunks, chunk.choices.length=1) (hr : ∀ chunk∈chunks, chunk.reasoning = "") :
    written ⟨false,closed,true⟩ chunks =
      (if closed || spell content chunks = "" then "" else "\n</think>\n")++spell content chunks := by
  induction chunks generalizing closed with
  | nil => simp [written]
  | cons chunk chunks ih =>
    simp only [forall_mem_cons] at hone hr
    rw [written_later hone.1 fun _ => hr.1,ih hone.2 hr.2]
    by_cases hc : chunk.content = "" <;> cases closed <;> simp [hr.1,hc,String.append_assoc]

lemma kept_iff (first : Bool) (hone : ∀ chunk∈chunks, chunk.choices.length=1)
    (horder : chunks.Pairwise fun a b => a.content ≠ "" → b.reasoning = "")
    (hR : first=true → spell reasoning chunks ≠ "") :
    written ⟨first,false,!first⟩ chunks = (if first then "<think>\n" else "")++
        (spell reasoning chunks++("\n</think>\n"++spell content chunks)) ↔
      spell content chunks ≠ "" ∧ ∀ chunk∈chunks, chunk.reasoning = "" ∨ chunk.content = "" := by
  induction chunks generalizing first with
  | nil =>
    cases first with
    | false => simp [written]
    | true => exact absurd rfl (hR rfl)
  | cons chunk chunks ih =>
    simp only [forall_mem_cons] at hone ⊢
    obtain ⟨hafter,horder⟩ := pairwise_cons.mp horder
    by_cases hc : chunk.content = "" <;> by_cases hr : chunk.reasoning = ""
    · simp only [spell_cons,hr,hc,String.empty_append] at hR ⊢
      simpa [written_later hone.1,hr,hc] using ih first hone.2 horder hR
    · have hw : written ⟨first,false,!first⟩ (chunk::chunks) =
          (if first then "<think>\n" else "")++(chunk.reasoning++written ⟨false,false,true⟩ chunks) := by
        cases first <;> simp [written_later,written_first,hone.1,hc,hr,String.append_assoc]
      rw [hw,spell_cons,spell_cons,hc,String.append_right_inj,String.append_assoc,String.append_right_inj]
      simpa using ih false hone.2 horder nofun
    all_goals
      have hrest : ∀ c∈chunks, c.reasoning = "" := fun c h => hafter c h hc
      have hsilent := (spell_eq_empty_iff reasoning chunks).mpr hrest
    · obtain rfl : first=false := Bool.eq_false_iff.mpr fun h => hR h (by simp [hr,hsilent])
      simpa [written_later hone.1,written_silent hone.2 hrest,hc,hr,hsilent,String.append_assoc] using
        fun c h => .inl (hrest c h)
    -- the content of the chunk is missing
    · refine iff_of_false (fun h => ?_) fun h => h.2.1.elim hr hc
      have hlen := congrArg String.length h
      have hpos := Nat.pos_of_ne_zero (mt String.length_eq_zero_iff.mp hc)
      cases first <;> simp [written_later,written_first,hone.1,written_silent hone.2 hrest,hc,hr,hsilent] at hlen
      · omega
      · have hle : (if spell content chunks = "" then "" else "\n</think>\n").length≤10 := by split <;> decide
        have htag : "\n</think>\n".length=10 := by decide
        omega

/-- Everything is kept and the tag is closed iff there is content and no chunk carries both texts. -/
theorem thinking_kept_iff (hone : ∀ chunk∈chunks, chunk.choices.length=1)
    (horder : chunks.Pairwise fun a b => a.content ≠ "" → b.reasoning = "") (hR : spell reasoning chunks ≠ "") :
    written {} chunks = "<think>\n"++(spell reasoning chunks++("\n</think>\n"++spell content chunks)) ↔
      spell content chunks ≠ "" ∧ ∀ chunk∈chunks, chunk.reasoning = "" ∨ chunk.content = "" :=
  kept_iff true hone horder fun _ => hR

def piece (reasoning content : String) : Chunk := ⟨"","",[⟨⟨some content,some reasoning,none,[]⟩,none⟩],none⟩

theorem pieces_kept : written {} [piece "a" "",piece "" "b"] = "<think>\na\n</think>\nb" :=
  ((thinking_kept_iff (by decide) (by decide) (by decide)).mpr (by decide)).trans (by decide)

/-- A stream that ends while thinking leaves the tag open, and content that comes with reasoning is lost. -/
theorem tag_open_content_lost : written {} [piece "a" ""] = "<think>\na" ∧
    written {} [piece "a" "b"] = "<think>\na" ∧
    written {} [piece "a" "",piece "b" "c"] = "<think>\na\n</think>\nb" := by decide +kernel
end AronaApi.Thinking
