import AronaApi.Gemini.Request

/-! Which texts reach Gemini whole. The parts made of a text are read in order, with the images of the
text put back for the inline data; the scanning loop drops what stands after the last image it cuts
out, and takes everything from an earlier `![` to a `](data:` for alternative text. -/
namespace AronaApi.Gemini
open List GeminiPart MediaContent

variable {F J : Type} (env : Converter F J) {t : String}
/-- Parts as text again: each inline datum stands for the next image of the list. -/
def readBack : List (GeminiPart J) → List Image → List Char
  | [],_ => []
  | p::ps,images =>
    if p.inlineData.isSome then images.head?.elim [] Image.source++readBack ps images.tail
    else p.text.toList++readBack ps images

variable {env}
variable {attach : Bool} {parts : List (GeminiPart J)}
lemma imageParts_eq_ok {c : List Char × Image} (h : imageParts env attach c=.ok parts) :
    ∃ data, parts=(if c.1=[] then [] else [{text := String.ofList c.1}])++
      [{inlineData := some data,thoughtSignature := attach}] := by
  unfold imageParts at h
  split at h
  · cases h
  next data _ =>
  cases h
  exact ⟨data,rfl⟩

lemma readBack_gather {cs : List (List Char × Image)} (h : gather (imageParts env attach) cs=.ok parts)
    (images : List Image) : readBack parts images=fill cs images := by
  induction cs generalizing parts images with
  | nil =>
    cases h
    rfl
  | cons c cs ih =>
    obtain ⟨ys,rest,hys,hrest,rfl⟩ := gather_cons h
    obtain ⟨data,rfl⟩ := imageParts_eq_ok hys
    obtain ⟨before,i⟩ := c
    by_cases hbef : before=[] <;> simp [hbef,readBack,fill,ih hrest]

lemma kept_nil : Kept [] := .inl rfl

lemma readBack_textParts_iff (h : textParts env attach t=.ok parts) :
    readBack parts (embedded t.toList)=t.toList ↔ Kept t.toList := by
  unfold textParts at h
  split at h
  next ht =>
    cases h
    rw [ht]
    exact ⟨fun _ => kept_nil,fun _ => rfl⟩
  split at h
  next hcuts =>
    cases h
    simp [readBack,Kept,hcuts]
  next hcuts =>
  rw [readBack_gather h,fill_eq_iff]
  constructor
  · intro hkept
    exact .inr hkept
  · rintro (hnone | hkept)
    · exact absurd hnone hcuts
    · exact hkept

lemma textParts_eq_nil_iff (h : textParts env attach t=.ok parts) : parts=[] ↔ t = "" := by
  unfold textParts at h
  split at h
  next ht =>
    cases h
    simp [ht]
  next ht =>
  split at h
  · cases h
    simp [ht]
  next hcuts =>
  obtain ⟨c,cs,hcs⟩ := exists_cons_of_ne_nil hcuts
  rw [hcs] at h
  obtain ⟨ys,rest,hys,-,rfl⟩ := gather_cons h
  obtain ⟨data,rfl⟩ := imageParts_eq_ok hys
  simp [ht]

lemma mem_embedded_of_cuts {text : List Char} (h : ∀ c∈(cuts text).1, balanced 0 c.2.alt=true) :
    ∀ c∈(cuts text).1, c.2∈embedded text := by
  induction text using cuts_induction with
  | stop text hcut =>
    rw [cuts_of_none hcut]
    intro c hc
    cases hc
  | image text before i rest hcut ih =>
    rw [cuts_of_some hcut] at h ⊢
    have hi : balanced 0 i.alt=true := h (before,i) mem_cons_self
    rw [embedded_of_cutImage hcut hi]
    intro c hc
    cases hc with
    | head => exact mem_cons_self
    | tail _ hc =>
      apply mem_cons_of_mem
      apply ih _ c hc
      intro d hd
      exact h d (mem_cons_of_mem _ hd)

variable (env) in
def Decodes (t : String) : Prop := ∀ i∈embedded t.toList, ∃ data, env.decodeBase64FileData i.dataUrl=.ok data

lemma textParts_ok (attach : Bool) (hkept : Kept t.toList) (hdec : Decodes env t) :
    ∃ parts, textParts env attach t=.ok parts := by
  unfold textParts
  split
  · exact ⟨_,rfl⟩
  split
  · exact ⟨_,rfl⟩
  next hcuts =>
  obtain hnone | ⟨hbal,-⟩ := hkept
  · exact absurd hnone hcuts
  have himag := mem_embedded_of_cuts hbal
  have hprt : ∀ c∈(cuts t.toList).1, ∃ parts, imageParts env attach c=.ok parts := by
    intro c hc
    obtain ⟨data,hdata⟩ := hdec c.2 (himag c hc)
    rw [imageParts,hdata]
    exact ⟨_,rfl⟩
  obtain ⟨pieces,-,hgath⟩ := gather_ok hprt
  exact ⟨_,hgath⟩

/-- A message of a request without tools: neither a call nor an answer to one, and only texts. -/
structure Message.Textual (m : Message F) : Prop where
  notTool : m.role≠.tool
  notFunction : m.role≠.function
  calls : m.toolCalls=[]
  content : m.content=m.texts.map .text

def Message.isSystem (m : Message F) : Bool := m.role=.system || m.role=.developer

def Message.spoken (m : Message F) : Bool := !m.isSystem && m.texts.any (· ≠ "")

def GeminiPart.unsigned (p : GeminiPart J) : GeminiPart J := {p with thoughtSignature := false}

variable (env) in
/-- The content is made of one run of parts for each text of the message, and each run reads as its
text. -/
def GivesBack (m : Message F) (content : GeminiChatContent J) : Prop :=
  ∃ pieces : List (List (GeminiPart J)),content.parts.map unsigned=pieces.flatten.map unsigned ∧
    List.Forall₂ (fun t piece =>
      textParts env (shouldAttachThoughtSignature env m.role) t=.ok piece ∧
      readBack piece (embedded t.toList)=t.toList) m.texts pieces

variable (env) in
def Complete (messages : List (Message F)) : Prop :=
  ∃ request, covertOpenAI2Gemini env messages=.ok request ∧
    List.Forall₂ (GivesBack env) (messages.filter Message.spoken) request.contents

lemma exists_of_forall₂ {α β : Type} {R : α → β → Prop} {xs : List α} {ys : List β}
    (h : List.Forall₂ R xs ys) {x : α} (hx : x∈xs) : ∃ y, R x y := by
  induction h with
  | nil => cases hx
  | cons hxy _ ih =>
    cases hx with
    | head => exact ⟨_,hxy⟩
    | tail _ hx => exact ih hx

variable {m : Message F}
lemma GivesBack.kept {content : GeminiChatContent J} (h : GivesBack env m content) (ht : t∈m.texts) :
    Kept t.toList := by
  obtain ⟨pieces,-,hpiec⟩ := h
  obtain ⟨piece,hpc,hread⟩ := exists_of_forall₂ hpiec ht
  exact (readBack_textParts_iff hpc).mp hread

lemma unsigned_signFirstText (parts : List (GeminiPart J)) : (signFirstText parts).map unsigned=parts.map unsigned := by
  induction parts with
  | nil => rfl
  | cons p ps ih =>
    unfold signFirstText
    split
    · rfl
    · rw [map_cons,map_cons,ih]

variable {pieces : List (List (GeminiPart J))} {texts : List String}
section
variable (h : List.Forall₂ (fun t piece => textParts env attach t=.ok piece) texts pieces)
include h
lemma flatten_eq_nil_iff : pieces.flatten=[] ↔ ∀ t∈texts, t = "" := by
  induction h with
  | nil => simp
  | cons hpiece _ ih =>
    rw [flatten_cons,append_eq_nil_iff,ih,textParts_eq_nil_iff hpiece,forall_mem_cons]

lemma readBack_kept (hkept : ∀ t∈texts, Kept t.toList) : List.Forall₂ (fun t piece =>
      textParts env attach t=.ok piece ∧ readBack piece (embedded t.toList)=t.toList) texts pieces := by
  induction h with
  | nil => exact .nil
  | cons hpc _ ih =>
    obtain ⟨ht,hrest⟩ := forall_mem_cons.mp hkept
    apply List.Forall₂.cons
    · exact ⟨hpc,(readBack_textParts_iff hpc).mpr ht⟩
    · exact ih hrest
end

lemma messageParts_textual (hm : m.Textual) (hkept : ∀ t∈m.texts, Kept t.toList)
    (hdec : ∀ t∈m.texts, Decodes env t) (role : Role) :
    ∃ parts, messageParts env m=.ok parts ∧ GivesBack env m ⟨role,parts⟩ ∧ (parts=[] ↔ ∀ t∈m.texts, t = "") := by
  have htxt : ∀ t∈m.texts, ∃ parts, textParts env (shouldAttachThoughtSignature env m.role) t=.ok parts :=
    fun t ht => textParts_ok _ (hkept t ht) (hdec t ht)
  obtain ⟨pieces,hpiec,hgath⟩ := gather_ok htxt
  have hcont : contentParts env (shouldAttachThoughtSignature env m.role) m.content=.ok pieces.flatten := by
    rw [hm.content,contentParts,gather_map]
    exact hgath
  have hprt : messageParts env m=.ok (if shouldAttachThoughtSignature env m.role
      then signFirstText pieces.flatten else pieces.flatten) := by
    simp only [messageParts,hm.calls,hcont]
    cases shouldAttachThoughtSignature env m.role with
    | false | true => rfl
  have huns : (if shouldAttachThoughtSignature env m.role
      then signFirstText pieces.flatten else pieces.flatten).map unsigned =
      pieces.flatten.map unsigned := by
    split
    · exact unsigned_signFirstText _
    · rfl
  refine ⟨_,hprt,⟨pieces,huns,readBack_kept hpiec hkept⟩,?_⟩
  rw [← flatten_eq_nil_iff hpiec,← map_eq_nil_iff (f := unsigned),huns,map_eq_nil_iff]

lemma convertMessage_textual (hm : m.Textual)
    (hkept : m.isSystem=false → ∀ t∈m.texts, Kept t.toList) (hdec : ∀ t∈m.texts, Decodes env t) (b : Building J) :
    ∃ b', convertMessage env b m=.ok b' ∧
      (m.spoken=true ∧ (∃ content, b'.contents=b.contents++[content] ∧ GivesBack env m content) ∨
        m.spoken=false ∧ b'.contents=b.contents) := by
  unfold convertMessage
  by_cases hsyst : m.role=.system ∨ m.role=.developer
  · rw [if_pos hsyst]
    have hyes : m.isSystem=true := by simpa [Message.isSystem] using hsyst
    have hspok : m.spoken=false := by simp [Message.spoken,hyes]
    exact ⟨_,rfl,.inr ⟨hspok,rfl⟩⟩
  have hnot : m.isSystem=false := by simpa [Message.isSystem] using hsyst
  have htool : ¬(m.role=.tool ∨ m.role=.function) := by
    rintro (htool | hfunc)
    · exact hm.notTool htool
    · exact hm.notFunction hfunc
  obtain ⟨parts,hprt,hback,hnil⟩ := messageParts_textual hm (hkept hnot) hdec
    (if m.role=.assistant then .model else m.role)
  rw [if_neg hsyst,if_neg htool,hprt]
  refine ⟨_,rfl,?_⟩
  by_cases hemp : parts=[]
  · right
    have hspok : m.spoken=false := by simpa [Message.spoken,hnot] using hnil.mp hemp
    exact ⟨hspok,if_pos hemp⟩
  left
  have hspok : m.spoken=true := by simpa [Message.spoken,hnot] using fun hall => hemp (hnil.mpr hall)
  exact ⟨hspok,_,if_neg hemp,hback⟩

lemma foldlM_textual {messages : List (Message F)} (htext : ∀ m∈messages, m.Textual)
    (hkept : ∀ m∈messages, m.isSystem=false → ∀ t∈m.texts, Kept t.toList)
    (hdec : ∀ m∈messages, ∀ t∈m.texts, Decodes env t) (b : Building J) :
    ∃ b' contents, messages.foldlM (convertMessage env) b=.ok b' ∧ b'.contents=b.contents++contents ∧
      List.Forall₂ (GivesBack env) (messages.filter Message.spoken) contents := by
  induction messages generalizing b with
  | nil => exact ⟨b,[],rfl,(append_nil _).symm,.nil⟩
  | cons m messages ih =>
    obtain ⟨hm,hms⟩ := forall_mem_cons.mp htext
    obtain ⟨hmkp,hmsk⟩ := forall_mem_cons.mp hkept
    obtain ⟨hmdec,hmsd⟩ := forall_mem_cons.mp hdec
    obtain ⟨b',hb',heff⟩ := convertMessage_textual hm hmkp hmdec b
    obtain ⟨b'',contents,hb'',hcont,hback⟩ := ih hms hmsk hmsd b'
    have hrun : (m::messages).foldlM (convertMessage env) b=.ok b'' := by
      rw [foldlM_cons,hb']
      exact hb''
    obtain ⟨hspok,content,hadd,hmbc⟩ | ⟨hspok,hsame⟩ := heff
    · refine ⟨b'',content::contents,hrun,?_,?_⟩
      · rw [hcont,hadd,append_assoc]
        rfl
      · rw [filter_cons_of_pos hspok]
        exact .cons hmbc hback
    refine ⟨b'',contents,hrun,?_,?_⟩
    · rw [hcont,hsame]
    · rw [filter_cons_of_neg (by rw [hspok]; exact Bool.false_ne_true)]
      exact hback

/-- The contents of the request give back the texts of the messages exactly if the scanning loop keeps
every text that is not the system's. -/
theorem complete_iff_kept {messages : List (Message F)} (htextual : ∀ m∈messages, m.Textual)
    (hdecodes : ∀ m∈messages, ∀ t∈m.texts, Decodes env t) :
    Complete env messages ↔ ∀ m∈messages, m.isSystem=false → ∀ t∈m.texts, Kept t.toList := by
  constructor
  · rintro ⟨request,-,hback⟩ m hm hsyst t ht
    by_cases hemp : t = ""
    · rw [hemp]
      exact kept_nil
    have hspok : m.spoken=true := by simpa [Message.spoken,hsyst] using ⟨t,ht,hemp⟩
    obtain ⟨content,hcnt⟩ := exists_of_forall₂ hback (mem_filter.mpr ⟨hm,hspok⟩)
    exact hcnt.kept ht
  · intro hkept
    obtain ⟨b,contents,hrun,hcont,hback⟩ := foldlM_textual htextual hkept hdecodes {}
    have hall : b.contents=contents := hcont
    rw [← hall] at hback
    unfold Complete
    rw [covertOpenAI2Gemini,hrun]
    exact ⟨_,rfl,hback⟩

def plainConverter : Converter Unit String where
  attachThoughtSignature := true
  decodeBase64FileData := fun url => .ok ("image/png",url)
  getBase64Data := fun _ => .error "no files"
  identifier := fun _ => ""
  toLower := id
  parseObject := fun _ => none
  parseArray := fun _ => none
  emptyObject := ""
  isEmptyObject := fun _ => true
  wrap := fun _ object => object
  string := id

lemma decodes_plain (t : String) : Decodes plainConverter t := fun i _ => ⟨("image/png",i.dataUrl),rfl⟩

def saying (role : Role) (texts : List String) : Message Unit := {role,content := texts.map .text}

lemma textual_saying {role : Role} (htool : role≠.tool) (hfunc : role≠.function) (texts : List String) :
    (saying role texts).Textual := by
  have htxt : (saying role texts).texts=texts := by
    simp [saying,Message.texts,filterMap_map,Function.comp_def,text?]
  refine ⟨htool,hfunc,rfl,?_⟩
  rw [htxt]
  rfl

def chartChat : List (Message Unit) :=
  [saying .system ["![s](data:x) stays"],saying .user ["see [this](data:x) ","and ![that](http://b.png)"],
    saying .assistant ["first ![a](data:AA) then ![b [2]](data:BB)"]]

theorem chartChat_complete : Complete plainConverter chartChat := by
  apply (complete_iff_kept _ _).mpr
  · decide +kernel
  · intro m hm
    simp only [chartChat,mem_cons,not_mem_nil,or_false] at hm
    obtain rfl | rfl | rfl := hm <;> exact textual_saying (by decide) (by decide) _
  · intro m _ t _
    exact decodes_plain t

/-- The word after the image is gone, and so are a linked image and the words after it. -/
theorem afterImage_betweenImages_lost :
    (covertOpenAI2Gemini plainConverter
        [saying .user ["see ![a](data:AA) thanks"],saying .user ["![b](http://b.png) or ![a](data:AA)"]]).map
      (fun request => request.contents.map fun content => content.parts.map fun p => (p.text,p.inlineData)) =
      .ok [[("see ",none),("",some ("image/png","data:AA"))],[("",some ("image/png","data:AA"))]] ∧
    ¬Complete plainConverter [saying .user ["see ![a](data:AA) thanks"]] ∧
    ¬Complete plainConverter [saying .user ["![b](http://b.png) or ![a](data:AA)"]] := by
  have hlost (t : String) (hne : t ≠ "") (hnot : ¬Kept t.toList) :
      ¬Complete plainConverter [saying .user [t]] := by
    rintro ⟨request,-,hback⟩
    have hspok : (saying .user [t]).spoken=true := by
      simp [saying,Message.spoken,Message.isSystem,Message.texts,text?,hne]
    obtain ⟨content,hcont⟩ :=
      exists_of_forall₂ hback (mem_filter.mpr ⟨mem_singleton.mpr rfl,hspok⟩)
    apply hnot
    apply hcont.kept
    simp [saying,Message.texts,text?]
  refine ⟨by decide +kernel,?_,?_⟩ <;> exact hlost _ (by decide) (by decide +kernel)
end AronaApi.Gemini
