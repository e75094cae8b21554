import AronaApi.Lib.Memo

/-! The files of a request (`service/file_service.go`). A source keeps its data once it is loaded; beside that, the
request's context keeps data under a key, for inline data made of their length, their MIME type and their
first 128 bytes. Strings are lists of bytes.

Whether every file of a request is sent as itself. `LoadFileSource` answers from a table under its key, so a
source gets the data of an earlier one of equal length, MIME type and first 128 bytes. -/
namespace AronaApi.FileSource

abbrev Bytes := List UInt8

def ascii (s : String) : Bytes := s.toList.map fun c => UInt8.ofNat c.toNat

structure Base64Source where
  data : Bytes
  mimeType : Bytes

inductive Source
  | url (url : Bytes)
  | base64 (source : Base64Source)

/-- Data in memory or on disk, read back with `GetBase64Data`. -/
structure CachedFileData where
  base64Data : Bytes
  mimeType : Bytes
  size : ℕ
  imageFormat : Option Bytes
  deriving DecidableEq

/-- What the service rests on: an HMAC without collisions, the base64 codec, and downloads that give the same body
and MIME type for a URL every time. -/
structure FileService where
  generateHMAC : Bytes → Bytes
  hmac_injective : Function.Injective generateHMAC
  decodeString : Bytes → Except String Bytes
  encodeToString : Bytes → Bytes
  decode_encode : ∀ bytes, decodeString (encodeToString bytes)=.ok bytes
  download : Bytes → Except String (Bytes × Bytes)
  maxFileDownloadMB : ℕ
  decodeImageConfig : Bytes → Option Bytes

inductive CacheKey
  | file (hmac : Bytes)
  | b64 (hmac : Bytes)
  deriving DecidableEq

def keyMaterial (s : Base64Source) : Bytes :=
  ascii s.data.length.repr++ascii ":"++s.mimeType++ascii ":"++(if 128<s.data.length then s.data.take 128 else s.data)

variable (svc : FileService)
def contextKey : Source → CacheKey
  | .url url => .file (svc.generateHMAC url)
  | .base64 s => .b64 (svc.generateHMAC (keyMaterial s))

def isImage (mimeType : Bytes) : Bool := (ascii "image/").isPrefixOf mimeType

def loadFromURL (url : Bytes) : Except String CachedFileData :=
  match svc.download url with
  | .error e => .error e
  | .ok (fileBytes,mimeType) =>
    if svc.maxFileDownloadMB*1024*1024<fileBytes.length then
      .error ("file size exceeds maximum allowed size: "++svc.maxFileDownloadMB.repr++"MB")
    else
      .ok ⟨svc.encodeToString fileBytes,mimeType,fileBytes.length,
        if isImage mimeType then svc.decodeImageConfig fileBytes else none⟩

def comma : UInt8 := 44
def semicolon : UInt8 := 59

def cleanBase64 (data : Bytes) : Bytes :=
  if (ascii "data:").isPrefixOf data ∧ comma∈data then (data.dropWhile (· ≠ comma)).drop 1 else data

def headerMimeType (data : Bytes) : Bytes :=
  let header := data.takeWhile (· ≠ comma)
  if (ascii "data:").isPrefixOf data ∧ comma∈data ∧ semicolon∈header then
    (header.drop (ascii "data:").length).takeWhile (· ≠ semicolon)
  else []

def loadFromBase64 (s : Base64Source) : Except String CachedFileData :=
  let mimeType := if s.mimeType≠[] then s.mimeType else headerMimeType s.data
  match svc.decodeString (cleanBase64 s.data) with
  | .error e => .error ("failed to decode base64 data: "++e)
  | .ok decodedData =>
    let format := if mimeType=[] ∨ isImage mimeType then svc.decodeImageConfig decodedData else none
    .ok ⟨cleanBase64 s.data,if mimeType=[] then (format.map (ascii "image/"++·)).getD [] else mimeType,
      decodedData.length,format⟩

def load : Source → Except String CachedFileData
  | .url url => loadFromURL svc url
  | .base64 s => loadFromBase64 svc s

structure Context where
  cache : CacheKey → Option CachedFileData
  own : ℕ → Option CachedFileData

def Context.empty : Context := ⟨fun _ => none,fun _ => none⟩

def Context.setOwn (ctx : Context) (id : ℕ) (data : CachedFileData) : Context :=
  {ctx with own := Function.update ctx.own id (some data)}

def Context.setCache (ctx : Context) (key : CacheKey) (data : CachedFileData) : Context :=
  {ctx with cache := Function.update ctx.cache key (some data)}

variable (sources : ℕ → Source)
def loadFileSource (ctx : Context) (id : ℕ) : Context × Except String CachedFileData :=
  match ctx.own id with
  | some data => (ctx,.ok data)
  | none =>
    match ctx.cache (contextKey svc (sources id)) with
    | some data => (ctx.setOwn id data,.ok data)
    | none =>
      match load svc (sources id) with
      | .error e => (ctx,.error e)
      | .ok data => ((ctx.setOwn id data).setCache (contextKey svc (sources id)) data,.ok data)

def loads (ctx : Context) : List ℕ → List (ℕ × Except String CachedFileData)
  | [] => []
  | id::ids => (id,(loadFileSource svc sources ctx id).2)::loads (loadFileSource svc sources ctx id).1 ids

open List Function

lemma toNat_of_mem_repr {n : ℕ} {c : Char} (h : c∈n.repr.toList) : 48 ≤ c.toNat ∧ c.toNat≤57 := by
  rw [Nat.toList_repr] at h
  have hdgt := Nat.isDigit_of_mem_toDigits (by decide) (by decide) h
  simpa [Char.isDigit,UInt32.le_iff_toNat_le] using hdgt

lemma colon_not_mem_repr (n : ℕ) : (58 : UInt8)∉ascii n.repr := by
  intro h
  obtain ⟨c,hc,heq⟩ := mem_map.mp h
  obtain ⟨-,hhigh⟩ := toNat_of_mem_repr hc
  have hnat := congrArg UInt8.toNat heq
  rw [UInt8.toNat_ofNat',Nat.mod_eq_of_lt (by omega)] at hnat
  have hcln : (58 : UInt8).toNat=58 := rfl
  omega

lemma ascii_repr_injective {n m : ℕ} (h : ascii n.repr=ascii m.repr) : n=m := by
  -- the digits can be read back
  have hback (k : ℕ) : (ascii k.repr).map (fun b => Char.ofNat b.toNat)=Nat.toDigits 10 k := by
    rw [ascii,map_map,← Nat.toList_repr]
    refine (map_congr_left fun c hc => ?_).trans (map_id _)
    obtain ⟨-,hhigh⟩ := toNat_of_mem_repr hc
    show Char.ofNat (UInt8.ofNat c.toNat).toNat=c
    rw [UInt8.toNat_ofNat',Nat.mod_eq_of_lt (by omega)]
    exact Char.ofNat_toNat c
  have hdig : Nat.toDigits 10 n=Nat.toDigits 10 m := by rw [← hback n,← hback m,h]
  have hvl (k : ℕ) : Nat.ofDigitChars 10 (Nat.toDigits 10 k) 0=k :=
    Nat.ofDigitChars_toDigits (by decide) (by decide)
  rw [← hvl n,← hvl m,hdig]

lemma append_cons_inj {α : Type} {x : α} {l l' r r' : List α} (h : l++x::r=l'++x::r') (hl : x∉l) (hl' : x∉l') :
    l=l' ∧ r=r' := by
  induction l generalizing l' with
  | nil =>
    cases l' with
    | nil => exact ⟨rfl,(List.cons.inj h).2⟩
    | cons y ys =>
      have hy := (List.cons.inj h).1
      exact absurd (by rw [hy]; exact mem_cons_self) hl'
  | cons y ys ih =>
    cases l' with
    | nil =>
      have hy := (List.cons.inj h).1
      exact absurd (by rw [← hy]; exact mem_cons_self) hl
    | cons z zs =>
      obtain ⟨hyz,hrest⟩ := List.cons.inj h
      obtain ⟨hys,hr⟩ := ih hrest (fun hx => hl (mem_cons_of_mem _ hx)) (fun hx => hl' (mem_cons_of_mem _ hx))
      exact ⟨by rw [hyz,hys],hr⟩

lemma keyMaterial_eq_iff {s t : Base64Source} : keyMaterial s=keyMaterial t ↔
      s.data.length=t.data.length ∧ s.mimeType=t.mimeType ∧ s.data.take 128=t.data.take 128 := by
  have hmat (u : Base64Source) : keyMaterial u = ascii u.data.length.repr++58::(u.mimeType++58::u.data.take 128) := by
    have htake : (if 128<u.data.length then u.data.take 128 else u.data)=u.data.take 128 := by
      split
      · rfl
      next hshr => rw [take_of_length_le (by omega)]
    have hcln : ascii ":" = [58] := by decide
    rw [keyMaterial,htake,hcln]
    simp
  rw [hmat,hmat]
  constructor
  · intro h
    obtain ⟨hleng,hrest⟩ := append_cons_inj h (colon_not_mem_repr _) (colon_not_mem_repr _)
    have hlen := ascii_repr_injective hleng
    obtain ⟨hmime,htail⟩ := append_inj' hrest (by simp [hlen])
    exact ⟨hlen,hmime,(List.cons.inj htail).2⟩
  · rintro ⟨hlen,hmime,hfrs⟩
    rw [hlen,hmime,hfrs]

variable (svc : FileService)
def ownBytes : Source → Except String Bytes
  | .url url => (svc.download url).map Prod.fst
  | .base64 s => svc.decodeString (cleanBase64 s.data)

variable (sources : ℕ → Source)
def OwnData (ids : List ℕ) : Prop :=
  ∀ r∈loads svc sources .empty ids, ∀ data, r.2=.ok data → svc.decodeString data.base64Data=ownBytes svc (sources r.1)

/-- Of two inline sources with the same length, MIME type and first 128 bytes the first cannot be decoded, or both
have the same bytes. -/
def Distinct (a b : Source) : Prop :=
  ∀ s t, a=.base64 s → b=.base64 t →
    s.data.length=t.data.length → s.mimeType=t.mimeType → s.data.take 128=t.data.take 128 →
    (∃ bytes, ownBytes svc a=.ok bytes) → ownBytes svc a=ownBytes svc b

section
variable {svc sources} {data : CachedFileData}
lemma decodeString_of_load {s : Source} (h : load svc s=.ok data) :
    svc.decodeString data.base64Data=ownBytes svc s := by
  cases s with
  | url url =>
    simp only [load,loadFromURL] at h
    split at h
    · cases h
    next body mimeType hdown =>
    split at h
    · cases h
    cases h
    rw [ownBytes,hdown]
    exact svc.decode_encode body
  | base64 s =>
    simp only [load,loadFromBase64] at h
    split at h
    · cases h
    cases h
    rfl

lemma load_base64_ok_iff (s : Base64Source) :
    (∃ data, load svc (.base64 s)=.ok data) ↔ ∃ bytes, ownBytes svc (.base64 s)=.ok bytes := by
  simp only [load,loadFromBase64,ownBytes]
  cases svc.decodeString (cleanBase64 s.data) with
  | error e | ok bytes => simp

variable (svc sources) in
def keyOf (id : ℕ) : CacheKey := contextKey svc (sources id)

variable (svc sources) in
def dataOf (id : ℕ) : Except String CachedFileData := load svc (sources id)

def Context.Kept (svc : FileService) (sources : ℕ → Source) (ctx : Context) : Prop :=
  ∀ id data, ctx.own id=some data → ctx.cache (keyOf svc sources id)=some data

variable {ctx : Context}
section
variable (h : ctx.Kept svc sources)
include h
lemma Context.Kept.setOwn {id : ℕ}
    (hch : ctx.cache (keyOf svc sources id)=some data) : (ctx.setOwn id data).Kept svc sources := by
  intro other d hoth
  replace hoth : update ctx.own id (some data) other=some d := hoth
  show ctx.cache (keyOf svc sources other)=some d
  by_cases heq : other=id
  · rw [heq,update_self] at hoth
    rw [heq,hch,hoth]
  · rw [update_of_ne heq] at hoth
    exact h other d hoth

lemma Context.Kept.setCache {key : CacheKey} (hkey : ctx.cache key=none)
    (data : CachedFileData) : (ctx.setCache key data).Kept svc sources := by
  intro other d hoth
  have hkept := h other d hoth
  have hne : keyOf svc sources other≠key := by
    intro heq
    rw [heq,hkey] at hkept
    cases hkept
  show update ctx.cache key (some data) (keyOf svc sources other)=some d
  rw [update_of_ne hne]
  exact hkept

lemma loadFileSource_eq_get (id : ℕ) :
    (loadFileSource svc sources ctx id).2=(Memo.get (keyOf svc sources) (dataOf svc sources) ctx.cache id).2 ∧
    (loadFileSource svc sources ctx id).1.cache=(Memo.get (keyOf svc sources) (dataOf svc sources) ctx.cache id).1 ∧
    (loadFileSource svc sources ctx id).1.Kept svc sources := by
  unfold loadFileSource
  cases hown : ctx.own id with
  | some data =>
    rw [Memo.get_of_some (h id data hown)]
    exact ⟨rfl,rfl,h⟩
  | none =>
    cases hcache : ctx.cache (contextKey svc (sources id)) with
    | some data =>
      replace hcache : ctx.cache (keyOf svc sources id)=some data := hcache
      rw [Memo.get_of_some hcache]
      exact ⟨rfl,rfl,h.setOwn hcache⟩
    | none =>
      replace hcache : ctx.cache (keyOf svc sources id)=none := hcache
      cases hload : load svc (sources id) with
      | error e =>
        replace hload : dataOf svc sources id=.error e := hload
        rw [Memo.get_of_error hcache hload]
        exact ⟨rfl,rfl,h⟩
      | ok data =>
        replace hload : dataOf svc sources id=.ok data := hload
        rw [Memo.get_of_ok hcache hload]
        refine ⟨rfl,rfl,?_⟩
        apply (h.setCache hcache data).setOwn
        exact update_self ..

lemma loads_eq_run (ids : List ℕ) :
    loads svc sources ctx ids=Memo.run (keyOf svc sources) (dataOf svc sources) ctx.cache ids := by
  induction ids generalizing ctx with
  | nil => rfl
  | cons id ids ih =>
    obtain ⟨hres,hch,hkept⟩ := loadFileSource_eq_get h id
    rw [loads,Memo.run,hres,ih hkept,hch]
end

lemma apart_iff_distinct (a b : ℕ) :
    Memo.Apart (keyOf svc sources) (dataOf svc sources) (fun id => ownBytes svc (sources id)) a b ↔
      Distinct svc (sources a) (sources b) := by
  unfold Memo.Apart keyOf dataOf Distinct
  constructor
  · intro h s t ha hb hleng hmime hfrs hbyt
    apply h
    · rw [ha,hb,contextKey,contextKey,keyMaterial_eq_iff.mpr ⟨hleng,hmime,hfrs⟩]
    · rw [ha] at hbyt ⊢
      exact (load_base64_ok_iff s).mpr hbyt
  · intro h hkey hload
    show ownBytes svc (sources a)=ownBytes svc (sources b)
    cases ha : sources a with
    | url url =>
      cases hb : sources b with
      | url url' =>
        rw [ha,hb] at hkey
        rw [svc.hmac_injective (CacheKey.file.inj hkey)]
      | base64 t =>
        rw [ha,hb] at hkey
        cases hkey
    | base64 s =>
      cases hb : sources b with
      | url url' =>
        rw [ha,hb] at hkey
        cases hkey
      | base64 t =>
        rw [ha,hb] at hkey
        rw [ha] at hload
        obtain ⟨hleng,hmime,hfrs⟩ := keyMaterial_eq_iff.mp (svc.hmac_injective (CacheKey.b64.inj hkey))
        have hbyt : ∃ bytes, ownBytes svc (sources a)=.ok bytes := by
          rw [ha]
          exact (load_base64_ok_iff s).mp hload
        have hsame := h s t ha hb hleng hmime hfrs hbyt
        rw [ha,hb] at hsame
        exact hsame
end

/-- In a sequence of calls every file is sent as itself exactly if no two inline sources that the key confuses have
different bytes. -/
theorem ownData_iff_distinct (ids : List ℕ) :
    OwnData svc sources ids ↔ ids.Pairwise fun a b => Distinct svc (sources a) (sources b) := by
  have hemp : Context.empty.Kept svc sources := fun _ _ h => (nomatch h)
  have hown : ∀ id data, dataOf svc sources id=.ok data →
      svc.decodeString data.base64Data=ownBytes svc (sources id) := fun _ _ h => decodeString_of_load h
  unfold OwnData
  rw [loads_eq_run hemp]
  refine (Memo.run_own_iff hown ids).trans ?_
  exact ⟨fun h => h.imp fun hab => (apart_iff_distinct _ _).mp hab,
    fun h => h.imp fun hab => (apart_iff_distinct _ _).mpr hab⟩

def plainService : FileService where
  generateHMAC := id
  hmac_injective := injective_id
  decodeString := .ok
  encodeToString := id
  decode_encode := fun _ => rfl
  download := fun _ => .error "offline"
  maxFileDownloadMB := 1
  decodeImageConfig := fun _ => none

def twins : ℕ → Source
  | 0 => .base64 ⟨List.replicate 131 65++[65],ascii "image/png"⟩
  | _ => .base64 ⟨List.replicate 131 65++[66],ascii "image/png"⟩

/-- The second file is sent as the first. -/
theorem twins_confused :
    ((loads plainService twins .empty [0,1]).map fun r => (r.2.toOption.map CachedFileData.base64Data)) =
      [some (List.replicate 131 65++[65]),some (List.replicate 131 65++[65])] ∧
    ¬OwnData plainService twins [0,1] := by
  refine ⟨by decide +kernel,fun h => ?_⟩
  have hmem : (1,.ok ⟨List.replicate 131 65++[65],ascii "image/png",132,none⟩) ∈
      loads plainService twins .empty [0,1] := by decide +kernel
  have hdata := h _ hmem _ rfl
  exact absurd hdata (by decide +kernel)
end AronaApi.FileSource
