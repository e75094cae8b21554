import AronaApi.Lib.GoStd
import Mathlib

/-! The stored body of a request (`common/body_storage.go`), in memory or in a file. File operations succeed, and
reading a file fills the buffer as far as bytes remain. -/
namespace AronaApi.BodyStorage
open GoStd List

inductive Failure
  | storageClosed | eof | unexpectedEOF | negativePosition | invalidArgument | requestBodyTooLarge

inductive Whence
  | start | current | fromEnd

/-- A slice with its `bytes.Reader`, or the bytes of a file with its offset. -/
structure Cursor where
  s : List UInt8
  i : ℤ

def Cursor.base (r : Cursor) : Whence → ℤ
  | .start => 0
  | .current => r.i
  | .fromEnd => r.s.length

/-- A failure leaves the cursor where it is by then. -/
abbrev Access (β : Type) := ExceptT Failure (StateM Cursor) β

/-- `os.File.Read`. -/
def readFile (len : ℕ) : Access (List UInt8) := fun f =>
  let b := (f.s.drop f.i.toNat).take len
  if b=[] then (.error .eof,f) else (.ok b,⟨f.s,f.i+b.length⟩)

/-- `os.File.Seek`; the system refuses what is no offset. -/
def seekFile (offset : ℤ) (whence : Whence) : Access ℤ := fun f =>
  let abs := f.base whence+offset
  if 0≤abs ∧ abs<2^63 then (.ok abs,⟨f.s,abs⟩) else (.error .invalidArgument,f)

/-- `io.ReadFull`. -/
def readFull (size : ℕ) : Access (List UInt8) := do
  if size=0 then return []
  let data ← readFile size
  if data.length<size then throw .unexpectedEOF
  return data

inductive Method
  | read (len : ℕ) (pos : 0<len)
  | seek (offset : Int64) (whence : Whence)
  | bytes

inductive Result
  | bytes (data : List UInt8)
  | number (n : ℤ)
  | closed

/-- The methods of an open `memoryStorage`. -/
def memory : Method → Access Result
  | .read len _ => fun r =>
    let b := (r.s.drop r.i.toNat).take len
    if r.s.length ≤ r.i then (.error .eof,r) else (.ok (.bytes b),⟨r.s,r.i+b.length⟩)
  | .seek offset whence => fun r =>
    let abs := wrap64 (r.base whence+offset.toInt)
    if abs<0 then (.error .negativePosition,r) else (.ok (.number abs),⟨r.s,abs⟩)
  | .bytes => fun r => (.ok (.bytes r.s),r)

/-- The methods of an open `diskStorage`. -/
def disk (size : ℕ) : Method → Access Result
  | .read len _ => fun f => ((readFile len f).1.map .bytes,(readFile len f).2)
  | .seek offset whence => fun f =>
    let r := seekFile offset.toInt whence f
    (r.1.map .number,r.2)
  | .bytes => do
    let currentPos ← seekFile 0 .current
    let _ ← seekFile 0 .start
    let data ← readFull size
    let _ ← seekFile currentPos .start
    return .bytes data

structure Storage where
  isDisk : Bool
  cursor : Cursor
  size : ℕ
  closed : Bool := false

inductive Call
  | method (m : Method)
  | size
  | close

def Storage.call (s : Storage) : Call → Except Failure Result × Storage
  | .size => (.ok (.number s.size),s)
  | .close => (.ok .closed,{ s with closed := true })
  | .method m =>
    if s.closed then (.error .storageClosed,s)
    else
      let r := (if s.isDisk then disk s.size m else memory m) s.cursor
      (r.1,{ s with cursor := r.2 })

/-- What a sequence of calls delivers, and the storage after it. -/
def Storage.run (s : Storage) : List Call → List (Option Result) × Storage
  | [] => ([],s)
  | c::cs =>
    let r := (s.call c).2.run cs
    ((s.call c).1.toOption::r.1,r.2)

structure Settings where
  diskCacheEnabled : Bool
  threshold : ℤ
  isDiskCacheAvailable : ℤ → Bool

def Settings.onDisk (cfg : Settings) (size : ℤ) : Bool :=
  cfg.diskCacheEnabled && cfg.threshold ≤ size && cfg.isDiskCacheAvailable size

def createBodyStorage (cfg : Settings) (data : List UInt8) :
    Storage := ⟨cfg.onDisk data.length,⟨data,0⟩,data.length,false⟩

def createBodyStorageFromReader (cfg : Settings) (reader : List UInt8) (contentLength maxBytes : ℤ) :
    Except Failure Storage :=
  let data := reader.take (maxBytes+1).toNat
  if maxBytes<data.length then .error .requestBodyTooLarge
  else if 0<contentLength && cfg.onDisk contentLength then .ok ⟨true,⟨data,0⟩,data.length,false⟩
  else .ok (createBodyStorage cfg data)

variable {s : Storage} {size : ℕ} {r r' : Cursor} {offset abs : ℤ} {whence : Whence}
lemma bind_apply {β γ : Type} {x : Access β} {k : β → Access γ} {a : β} (h : x r=(.ok a,r')) : (x >>= k) r=k a r' := by
  change ExceptT.bindCont k (x r).1 (x r).2=_
  rw [h]
  rfl

lemma seekFile_eq_ok (habs : r.base whence+offset=abs) (hlo : 0≤abs) (hhi : abs<2^63) :
    seekFile offset whence r=(.ok abs,⟨r.s,abs⟩) := by
  subst habs
  exact if_pos ⟨hlo,hhi⟩

lemma readFull_length (s : List UInt8) : readFull s.length ⟨s,0⟩=(.ok s,⟨s,s.length⟩) := by
  unfold readFull
  by_cases hnil : s=[]
  · subst hnil
    rfl
  have hfile : readFile s.length ⟨s,0⟩=(.ok s,⟨s,s.length⟩) := by simp [readFile,hnil]
  rw [if_neg (by simpa using hnil)]
  refine (bind_apply hfile).trans ?_
  rw [if_neg (lt_irrefl _)]
  rfl

structure Fits (size : ℕ) (r : Cursor) : Prop where
  length : r.s.length=size
  lt : size<2^63
  nonneg : 0 ≤ r.i
  inside : r.i<2^63

section
variable (h : Fits size r)
include h
lemma disk_bytes : disk size .bytes r=(.ok (.bytes r.s),r) := by
  obtain ⟨rfl,-,hlo,hhi⟩ := h
  have hcurr : seekFile 0 .current r=(.ok r.i,r) := seekFile_eq_ok (add_zero r.i) hlo hhi
  have hzero : seekFile 0 .start r=(.ok 0,⟨r.s,0⟩) := seekFile_eq_ok (add_zero 0) Int.le_rfl (by decide)
  have hback : seekFile r.i .start ⟨r.s,r.s.length⟩=(.ok r.i,r) := seekFile_eq_ok (zero_add r.i) hlo hhi
  exact (bind_apply hcurr).trans <| (bind_apply hzero).trans <| (bind_apply (readFull_length r.s)).trans (bind_apply hback)

/-- A file delivers what the slice does, and moves in the same way. -/
lemma disk_alike (m : Method) :
    (disk size m r).1.toOption=(memory m r).1.toOption ∧ (disk size m r).2=(memory m r).2 := by
  cases m with
  | read len pos =>
    have hend : (r.s.drop r.i.toNat).take len=[] ↔ r.s.length ≤ r.i := by
      rw [take_eq_nil_iff,drop_eq_nil_iff]
      have := h.nonneg
      omega
    simp only [disk,memory,readFile,hend]
    split <;> exact ⟨rfl,rfl⟩
  | seek offset whence =>
    have hbase : 0 ≤ r.base whence ∧ r.base whence<2^63 := by
      obtain ⟨hlen,hlt,hlo,hhi⟩ := h
      cases whence <;> simp only [Cursor.base] <;> omega
    have hlo := offset.le_toInt
    have hhi := offset.toInt_lt
    simp only [disk,memory,seekFile]
    by_cases hin : 0 ≤ r.base whence+offset.toInt ∧ r.base whence+offset.toInt<2^63
    · rw [if_pos hin,wrap64_of_bounds (by omega) hin.2,if_neg (by omega)]
      exact ⟨rfl,rfl⟩
    · rw [if_neg hin,if_pos (by unfold wrap64; omega)]
      exact ⟨rfl,rfl⟩
  | bytes =>
    rw [disk_bytes h]
    exact ⟨rfl,rfl⟩

lemma Fits.memory (m : Method) : Fits size (memory m r).2 := by
  obtain ⟨hlen,hlt,hlo,hhi⟩ := h
  cases m with
  | read len pos =>
    simp only [BodyStorage.memory]
    split
    · exact ⟨hlen,hlt,hlo,hhi⟩
    have hle := length_take_le' len (r.s.drop r.i.toNat)
    rw [length_drop] at hle
    exact ⟨hlen,hlt,by simp only; omega,by simp only; omega⟩
  | seek offset whence =>
    simp only [BodyStorage.memory]
    split
    · exact ⟨hlen,hlt,hlo,hhi⟩
    next hpos => exact ⟨hlen,hlt,by simp only; omega,wrap64_lt _⟩
  | bytes => exact ⟨hlen,hlt,hlo,hhi⟩
end

variable (h : Fits s.size s.cursor)
include h
lemma call_memory (c : Call) : (s.call c).1.toOption=(({ s with isDisk := false } : Storage).call c).1.toOption ∧
    { (s.call c).2 with isDisk := false }=(({ s with isDisk := false } : Storage).call c).2 ∧
      Fits (s.call c).2.size (s.call c).2.cursor := by
  cases c with
  | size | close => exact ⟨rfl,rfl,h⟩
  | method m =>
    simp only [Storage.call]
    split
    · exact ⟨rfl,rfl,h⟩
    have hmem := h.memory m
    cases hdisk : s.isDisk with
    | false => exact ⟨rfl,rfl,hmem⟩
    | true =>
      obtain ⟨hres,hcur⟩ := disk_alike h m
      simp only [if_true,hcur]
      exact ⟨hres,rfl,hmem⟩

lemma run_memory (cs : List Call) : (s.run cs).1=(({ s with isDisk := false } : Storage).run cs).1 ∧
    Fits (s.run cs).2.size (s.run cs).2.cursor := by
  induction cs generalizing s with
  | nil => exact ⟨rfl,h⟩
  | cons c cs ih =>
    obtain ⟨hres,hnext,hfits⟩ := call_memory h c
    obtain ⟨hrest,hend⟩ := ih hfits
    refine ⟨?_,hend⟩
    simp only [Storage.run,hres,hrest,hnext]

lemma bytes_keeps : (s.call (.method .bytes)).2=s := by
  simp only [Storage.call]
  split
  · rfl
  split
  · rw [disk_bytes h]
  · rfl

omit h

lemma create_eq_ok {body : List UInt8} {maxBytes : ℕ} (h : body.length ≤ maxBytes) (cfg : Settings)
    (contentLength : ℤ) :
    ∃ onDisk, createBodyStorageFromReader cfg body contentLength maxBytes=.ok ⟨onDisk,⟨body,0⟩,body.length,false⟩ := by
  have htake : body.take ((maxBytes : ℤ)+1).toNat=body := take_of_length_le (by omega)
  simp only [createBodyStorageFromReader,htake]
  rw [if_neg (by omega)]
  split <;> exact ⟨_,rfl⟩

/-- Whatever the settings and the announced lengths of two requests with one body are, the body is too large for both,
or the storages deliver the same in every sequence of calls, and `Bytes` leaves a storage as it is. -/
theorem storages_alike (cfg cfg' : Settings) (body : List UInt8) (contentLength contentLength' : ℤ)
    (maxBytes : Fin (2^63-1)) :
    if maxBytes<body.length then
      createBodyStorageFromReader cfg body contentLength maxBytes=.error .requestBodyTooLarge ∧
        createBodyStorageFromReader cfg' body contentLength' maxBytes=.error .requestBodyTooLarge
    else ∃ s s', createBodyStorageFromReader cfg body contentLength maxBytes=.ok s ∧
      createBodyStorageFromReader cfg' body contentLength' maxBytes=.ok s' ∧ ∀ calls, (s.run calls).1=(s'.run calls).1 ∧
        ((s.run calls).2.call (.method .bytes)).2=(s.run calls).2 := by
  split
  next hlt =>
    have htoo : (maxBytes : ℤ)<(body.take ((maxBytes : ℤ)+1).toNat).length := by
      rw [length_take]
      omega
    exact ⟨if_pos htoo,if_pos htoo⟩
  next hle =>
  obtain ⟨onDisk,hcreate⟩ := create_eq_ok (not_lt.mp hle) cfg contentLength
  obtain ⟨onDisk',hcreate'⟩ := create_eq_ok (not_lt.mp hle) cfg' contentLength'
  refine ⟨_,_,hcreate,hcreate',fun calls => ?_⟩
  have hfits : Fits body.length ⟨body,0⟩ := ⟨rfl,by omega,Int.le_rfl,by simp⟩
  obtain ⟨hrun,hend⟩ := run_memory (s := ⟨onDisk,⟨body,0⟩,body.length,false⟩) hfits calls
  obtain ⟨hrun',-⟩ := run_memory (s := ⟨onDisk',⟨body,0⟩,body.length,false⟩) hfits calls
  exact ⟨hrun.trans hrun'.symm,bytes_keeps hend⟩
end AronaApi.BodyStorage
