import AronaApi.Lib.GoStd

/-! The markdown images with inline data in a text: those the scanning loop of `CovertOpenAI2Gemini`
cuts out, those the text has, and when putting the images back gives the text again.

Texts are lists of characters; the markers are ASCII, so cutting between bytes and cutting between
characters is the same. -/
namespace AronaApi.Gemini
open List GoStd

/-- What stands between `![` and `](data:`, and from there to the closing parenthesis. -/
structure Image where
  alt : List Char
  url : List Char
  deriving DecidableEq

def imageOpen : List Char := ['!','[']
def imageData : List Char := [']','(','d','a','t','a',':']

def Image.source (i : Image) : List Char := imageOpen++i.alt++imageData++i.url++[')']

def Image.dataUrl (i : Image) : String := String.ofList (['d','a','t','a',':']++i.url)

/-- One turn of the loop: the first `![`, the first `](data:` after it, and the first `)` after that.
The text before, the image, and the text that remains. -/
def cutImage (text : List Char) : Option (List Char × Image × List Char) :=
  (cut imageOpen text).bind fun opened =>
    (cut imageData opened.2).bind fun marked =>
      (cut [')'] marked.2).map fun closed => (opened.1,⟨marked.1,closed.1⟩,closed.2)

variable {text before rest cs : List Char} {i : Image} {c : Char}
section
variable (h : cutImage text=some (before,i,rest))
include h
lemma cutImage_eq_some : ∃ inside, cut imageOpen text=some (before,inside) ∧
      ∃ data, cut imageData inside=some (i.alt,data) ∧ cut [')'] data=some (i.url,rest) := by
  obtain ⟨⟨b,inside⟩,hopen,h⟩ := Option.bind_eq_some_iff.mp h
  obtain ⟨⟨alt,data⟩,hdata,h⟩ := Option.bind_eq_some_iff.mp h
  obtain ⟨⟨url,r⟩,hcls,h⟩ := Option.map_eq_some_iff.mp h
  cases h
  exact ⟨inside,hopen,data,hdata,hcls⟩

lemma eq_append_of_cutImage : text=before++i.source++rest := by
  obtain ⟨inside,hopen,data,hdata,hcls⟩ := cutImage_eq_some h
  rw [eq_append_of_cut hopen,eq_append_of_cut hdata,eq_append_of_cut hcls]
  simp [Image.source]

lemma length_lt_of_cutImage : before.length+rest.length<text.length := by
  rw [eq_append_of_cutImage h]
  simp [Image.source,imageOpen]
  omega
end

def cutsFrom : ℕ → List Char → List (List Char × Image) × List Char
  | 0,text => ([],text)
  | n+1,text =>
    match cutImage text with
    | none => ([],text)
    | some (before,i,rest) => ((before,i)::(cutsFrom n rest).1,(cutsFrom n rest).2)

/-- The whole loop: every image cut out with the text before it, and the text left when it stops. -/
def cuts (text : List Char) : List (List Char × Image) × List Char := cutsFrom text.length text

lemma cutsFrom_eq_cutsFrom {n m : ℕ} (hn : text.length≤n) (hm : text.length ≤ m) : cutsFrom n text=cutsFrom m text := by
  induction n generalizing m text with
  | zero =>
    cases length_eq_zero_iff.mp (Nat.le_zero.mp hn)
    cases m with
    | zero | succ m => rfl
  | succ n ih =>
    cases m with
    | zero =>
      cases length_eq_zero_iff.mp (Nat.le_zero.mp hm)
      rfl
    | succ m =>
      unfold cutsFrom
      cases hcut : cutImage text with
      | none => rfl
      | some cut =>
        obtain ⟨before,i,rest⟩ := cut
        have hlen := length_lt_of_cutImage hcut
        have hrest : cutsFrom n rest=cutsFrom m rest := by
          apply ih
          · omega
          · omega
        simp only [hrest]

lemma cuts_of_none (h : cutImage text=none) : cuts text=([],text) := by
  unfold cuts
  cases text with
  | nil => rfl
  | cons c cs =>
    rw [length_cons,cutsFrom,h]

lemma cuts_of_some (h : cutImage text=some (before,i,rest)) : cuts text=((before,i)::(cuts rest).1,(cuts rest).2) := by
  have hlen := length_lt_of_cutImage h
  have hnext : cutsFrom (text.length+1) text=cuts text := by
    apply cutsFrom_eq_cutsFrom
    · omega
    · exact le_refl _
  have hrest : cutsFrom text.length rest=cuts rest := by
    apply cutsFrom_eq_cutsFrom
    · omega
    · exact le_refl _
  rw [← hnext,cutsFrom,h]
  simp only [hrest]

/-- Induction along the turns of the loop. -/
@[elab_as_elim]
lemma cuts_induction {motive : List Char → Prop} (stop : ∀ text, cutImage text=none → motive text)
    (image : ∀ text before i rest, cutImage text=some (before,i,rest) → motive rest → motive text)
    (text : List Char) : motive text := by
  induction hn : text.length using Nat.strongRecOn generalizing text with
  | ind n ih =>
    cases hcut : cutImage text with
    | none => exact stop text hcut
    | some cut =>
      obtain ⟨before,i,rest⟩ := cut
      have hlen := length_lt_of_cutImage hcut
      apply image text before i rest hcut
      apply ih rest.length
      · omega
      · rfl

/-- Brackets are closed in the order they are opened, from a given depth; a backslash hides the
character after it. -/
def balanced : ℕ → List Char → Bool
  | d,[] => d == 0
  | d,'\\'::_::cs => balanced d cs
  | d,'['::cs => balanced (d+1) cs
  | 0,']'::_ => false
  | d+1,']'::cs => balanced d cs
  | d,_::cs => balanced d cs

/-- The image with inline data that starts at the head of the text: its alternative text runs to the
first `](data:` and has its brackets balanced. -/
def imageAt (text : List Char) : Option Image :=
  if imageOpen.isPrefixOf text then
    (cut imageData (text.drop imageOpen.length)).bind fun marked =>
      if balanced 0 marked.1 then (cut [')'] marked.2).map fun closed => ⟨marked.1,closed.1⟩ else none
  else none

/-- The images of a text, read from left to right after skipping some characters. -/
def embeddedFrom : ℕ → List Char → List Image
  | _,[] => []
  | skip+1,_::cs => embeddedFrom skip cs
  | 0,c::cs =>
    match imageAt (c::cs) with
    | some i => i::embeddedFrom (i.source.length-1) cs
    | none => embeddedFrom 0 cs

def embedded (text : List Char) : List Image := embeddedFrom 0 text

lemma embeddedFrom_eq (skip : ℕ) (text : List Char) : embeddedFrom skip text=embedded (text.drop skip) := by
  induction text generalizing skip with
  | nil =>
    cases skip with
    | zero | succ k => rfl
  | cons c cs ih =>
    cases skip with
    | zero => rfl
    | succ k => exact ih k

lemma embedded_of_none (h : imageAt (c::cs)=none) : embedded (c::cs)=embedded cs := by
  rw [embedded,embeddedFrom,h]
  rfl

lemma embedded_of_some (h : imageAt (c::cs)=some i) : embedded (c::cs)=i::embedded ((c::cs).drop i.source.length) := by
  have hpos : i.source.length=(i.source.length-1)+1 := by simp [Image.source,imageOpen]
  rw [embedded,embeddedFrom,h]
  show i::embeddedFrom _ cs=_
  rw [embeddedFrom_eq,hpos,drop_succ_cons]
  rfl

lemma embedded_of_cut {inside : List Char} (h : cut imageOpen text=some (before,inside)) :
    embedded text=embedded (imageOpen++inside) := by
  induction text generalizing before with
  | nil => cases h
  | cons c cs ih =>
    by_cases hp : imageOpen.isPrefixOf (c::cs)
    · have hnil : before=[] := by
        rw [cut,if_pos hp] at h
        cases h
        rfl
      rw [eq_append_of_cut h,hnil]
      rfl
    rw [cut,if_neg hp] at h
    obtain ⟨⟨b,a⟩,hcut,heq⟩ := Option.map_eq_some_iff.mp h
    cases heq
    rw [← ih hcut]
    apply embedded_of_none
    rw [imageAt,if_neg hp]

lemma imageAt_eq_some (h : imageAt text=some i) : balanced 0 i.alt=true ∧ ∃ inside data,
      text=imageOpen++inside ∧ cut imageData inside=some (i.alt,data) := by
  unfold imageAt at h
  split at h
  next hp =>
    obtain ⟨⟨alt,data⟩,hdata,h⟩ := Option.bind_eq_some_iff.mp h
    split at h
    next hbal =>
      obtain ⟨⟨url,r⟩,-,h⟩ := Option.map_eq_some_iff.mp h
      cases h
      obtain ⟨inside,hins⟩ := isPrefixOf_iff_prefix.mp hp
      rw [← hins,drop_left] at hdata
      exact ⟨hbal,inside,data,hins.symm,hdata⟩
    · cases h
  · cases h

lemma mem_embedded (h : i∈embedded text) :
    balanced 0 i.alt=true ∧ ∀ after, cut imageData (i.alt++imageData++after)=some (i.alt,after) := by
  induction hn : text.length using Nat.strongRecOn generalizing text with
  | ind n ih =>
    cases text with
    | nil => cases h
    | cons c cs =>
      cases hat : imageAt (c::cs) with
      | none =>
        rw [embedded_of_none hat] at h
        apply ih cs.length _ h rfl
        rw [← hn,length_cons]
        omega
      | some j =>
        rw [embedded_of_some hat] at h
        cases h with
        | head =>
          obtain ⟨hbal,inside,data,-,hcut⟩ := imageAt_eq_some hat
          have hins := hcut
          rw [eq_append_of_cut hcut] at hins
          exact ⟨hbal,cut_of_cut hins⟩
        | tail _ hmem =>
          apply ih _ _ hmem rfl
          have hpos : 0<j.source.length := by simp [Image.source,imageOpen]
          rw [← hn,length_drop,length_cons]
          omega

lemma embedded_of_cutImage (h : cutImage text=some (before,i,rest)) (hbal : balanced 0 i.alt=true) :
    embedded text=i::embedded rest := by
  obtain ⟨inside,hopen,data,hdata,hcls⟩ := cutImage_eq_some h
  have hat : imageAt (imageOpen++inside)=some i := by
    have hp : imageOpen.isPrefixOf (imageOpen++inside)=true :=
      isPrefixOf_iff_prefix.mpr (prefix_append _ _)
    rw [imageAt,if_pos hp,drop_left,hdata,Option.bind_some,if_pos hbal,hcls]
    rfl
  have hsour : imageOpen++inside=i.source++rest := by
    rw [eq_append_of_cut hdata,eq_append_of_cut hcls]
    simp [Image.source]
  have hdrop : (imageOpen++inside).drop i.source.length=rest := by rw [hsour,drop_left]
  rw [embedded_of_cut hopen,← hdrop]
  exact embedded_of_some hat

/-- The texts before the cuts, with the images of a list put back in order, none where they run out. -/
def fill : List (List Char × Image) → List Image → List Char
  | [],_ => []
  | (before,_)::cs,images => before++images.head?.elim [] Image.source++fill cs images.tail

lemma length_fill_nil (text : List Char) : (fill (cuts text).1 []).length≤text.length := by
  induction text using cuts_induction with
  | stop text h =>
    rw [cuts_of_none h]
    exact Nat.zero_le _
  | image text before i rest h ih =>
    have hlen := length_lt_of_cutImage h
    rw [cuts_of_some h]
    simp only [fill,List.head?_nil,Option.elim_none,append_nil,tail_nil,length_append]
    omega

lemma fill_ne_of_unbalanced (h : cutImage text=some (before,i,rest)) (hunb : balanced 0 i.alt=false) :
    fill (cuts text).1 (embedded text)≠text := by
  intro heq
  have hlen := length_lt_of_cutImage h
  rw [cuts_of_some h] at heq
  cases himages : embedded text with
  | nil =>
    -- nothing can be put back, and the texts between the cuts are too short
    rw [himages] at heq
    have hfill := length_fill_nil rest
    have hleng := congrArg List.length heq
    simp only [fill,List.head?_nil,Option.elim_none,append_nil,tail_nil,length_append] at hleng
    omega
  | cons j more =>
    -- an image that could stand here would have the alternative text of the cut
    have hj : j∈embedded text := by
      rw [himages]
      exact mem_cons_self
    obtain ⟨hbal,hfrs⟩ := mem_embedded hj
    obtain ⟨inside,hopen,data,hdata,hcls⟩ := cutImage_eq_some h
    rw [himages] at heq
    have hins : inside=j.alt++imageData++(j.url++[')']++fill (cuts rest).1 more) := by
      rw [eq_append_of_cut hopen] at heq
      simpa [fill,Image.source] using heq.symm
    rw [hins,hfrs] at hdata
    have halt : j.alt=i.alt := congrArg Prod.fst (Option.some.inj hdata)
    rw [halt,hunb] at hbal
    cases hbal

lemma fill_eq_iff (text : List Char) : fill (cuts text).1 (embedded text)=text ↔
      (∀ c∈(cuts text).1, balanced 0 c.2.alt=true) ∧ (cuts text).2=[] := by
  induction text using cuts_induction with
  | stop text h =>
    rw [cuts_of_none h]
    constructor
    · intro heq
      exact ⟨fun c hc => (nomatch hc),heq.symm⟩
    · intro hkept
      exact hkept.2.symm
  | image text before i rest h ih =>
    cases hbalanced : balanced 0 i.alt with
    | false =>
      constructor
      · intro heq
        exact absurd heq (fill_ne_of_unbalanced h hbalanced)
      · intro hkept
        have hi := hkept.1 (before,i) (by rw [cuts_of_some h]; exact mem_cons_self)
        rw [hbalanced] at hi
        cases hi
    | true =>
      have htext : fill (cuts text).1 (embedded text)=text ↔ fill (cuts rest).1 (embedded rest)=rest := by
        rw [embedded_of_cutImage h hbalanced,cuts_of_some h,eq_append_of_cutImage h]
        simp [fill]
      rw [htext,ih,cuts_of_some h]
      simp [hbalanced]

/-- What the loop keeps whole: a text it cuts nothing out of, and a text that ends with an image and
in which everything cut out is an image. -/
def Kept (text : List Char) : Prop :=
  (cuts text).1=[] ∨ (∀ c∈(cuts text).1, balanced 0 c.2.alt=true) ∧ (cuts text).2=[]

instance (text : List Char) : Decidable (Kept text) := inferInstanceAs (Decidable (_ ∨ _))

example : Kept "[a](data:x) ![b](http://c)".toList := by decide
example : Kept "see ![a [1]](data:x)".toList := by decide
example : ¬ Kept "![a](data:x) end".toList := by decide
end AronaApi.Gemini
