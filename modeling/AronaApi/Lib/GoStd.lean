import Mathlib.Algebra.Group.Int.Defs
import Mathlib.Data.List.DropRight

/-! The parts of Go's language and standard library that programs with money and calendars lean on:
two's complement `int64`, `strings.TrimSpace`, and `time.Time` at a resolution of one second. -/
namespace GoStd
open List

/-- The `int64` an exact result is stored as. -/
def wrap64 (n : ℤ) : ℤ := (n+2^63)%2^64-2^63

lemma wrap64_of_bounds {n : ℤ} (h : -2^63≤n) (h' : n<2^63) : wrap64 n=n := by
  unfold wrap64
  omega

/-- Wrapping takes away multiples of the modulus. -/
lemma exists_wrap64_eq (n : ℤ) : ∃ k : ℤ, wrap64 n=n+k*2^64 := by
  refine ⟨-((n+2^63)/2^64),?_⟩
  unfold wrap64
  omega

lemma wrap64_lt (n : ℤ) : wrap64 n<2^63 := by
  unfold wrap64
  omega

/-- A mapped result without an error. -/
lemma map_eq_ok {ε α β : Type} {f : α → β} {x : Except ε α} {b : β} (h : x.map f=.ok b) : ∃ a, x=.ok a ∧ f a=b := by
  cases x with
  | error e => cases h
  | ok a => exact ⟨a,rfl,Except.ok.inj h⟩

lemma exists_of_ok {ε β : Type*} {x : Except ε β} {P : β → Prop} [DecidablePred P]
    (h : (x.toOption.any fun b => decide (P b))=true) : ∃ b, x=.ok b ∧ P b := by
  cases x with
  | error e => cases h
  | ok b => exact ⟨b,rfl,of_decide_eq_true h⟩

/-- `unicode.IsSpace`. -/
def isSpace (c : Char) : Bool :=
  c.val∈[9,10,11,12,13,32,0x85,0xA0,0x1680,0x2028,0x2029,0x202f,0x205f,0x3000] ||
  (0x2000 ≤ c.val && c.val≤0x200a)

def trimSpace (s : String) : String :=
  String.ofList ((s.toList.dropWhile isSpace).reverse.dropWhile isSpace).reverse

lemma dropWhile_dropWhile_reverse {α : Type} (p : α → Bool) (l : List α) :
    ((l.dropWhile p).reverse.dropWhile p).reverse.dropWhile p=((l.dropWhile p).reverse.dropWhile p).reverse := by
  -- what is left starts as `l.dropWhile p` does
  rw [dropWhile_eq_self_iff]
  intro hlen
  obtain ⟨t,ht⟩ : ((l.dropWhile p).reverse.dropWhile p).reverse <+: l.dropWhile p := by
    rw [← reverse_suffix,reverse_reverse]
    exact dropWhile_suffix p
  have hne : 0<(l.dropWhile p).length := by
    rw [← ht,length_append]
    omega
  have hhead := dropWhile_get_zero_not p l hne
  have hget : ((l.dropWhile p).reverse.dropWhile p).reverse[0]=(l.dropWhile p)[0] := by
    rw [getElem_of_eq ht.symm,getElem_append_left]
  simpa [hget] using hhead

@[simp] lemma trimSpace_trimSpace (s : String) : trimSpace (trimSpace s)=trimSpace s := by
  simp only [trimSpace,String.toList_ofList,dropWhile_dropWhile_reverse,reverse_reverse]
  rw [dropWhile_idempotent]

@[simp] lemma trimSpace_empty : trimSpace "" = "" := by decide

/-- `strings.Replace(s, sub, "", 1)` on the characters of `s`. -/
def removeFirst (sub : List Char) : List Char → List Char
  | [] => []
  | c::cs => if sub.isPrefixOf (c::cs) then (c::cs).drop sub.length else c::removeFirst sub cs

def hasPrefix (s pre : String) : Bool := pre.toList.isPrefixOf s.toList

def hasSuffix (s suf : String) : Bool := suf.toList.isSuffixOf s.toList

/-- `strings.TrimSuffix`. -/
def trimSuffix (s suf : String) : String :=
  if hasSuffix s suf then String.ofList (s.toList.take (s.toList.length-suf.toList.length)) else s

/-- A suffix that is there and not empty is taken away. -/
lemma length_trimSuffix_lt {s suf : String} (h : hasSuffix s suf=true) (hsuf : suf ≠ "") :
    (trimSuffix s suf).toList.length<s.toList.length := by
  have hle : suf.toList.length ≤ s.toList.length := (isSuffixOf_iff_suffix.mp h).length_le
  have hpos : 0<suf.toList.length := by
    rw [length_pos_iff]
    intro hnil
    exact hsuf (String.toList_inj.mp hnil)
  simp only [trimSuffix,h,if_true,String.toList_ofList,length_take]
  omega

/-- `strings.TrimPrefix`. -/
def trimPrefix (s pre : String) : String :=
  if hasPrefix s pre then String.ofList (s.toList.drop pre.toList.length) else s

/-- `strings.Split` with a separator of one character. -/
def split (s : String) (sep : Char) : List String := (s.toList.splitOn sep).map String.ofList

/-- Whether the first list stands somewhere in the second one. -/
def occursIn (sub : List Char) : List Char → Bool
  | [] => sub.isEmpty
  | c::cs => sub.isPrefixOf (c::cs) || occursIn sub cs

/-- What stands before and after the first occurrence of `sep`, as `strings.Cut` gives it. -/
def cut (sep : List Char) : List Char → Option (List Char × List Char)
  | [] => if sep.isEmpty then some ([],[]) else none
  | c::cs =>
    if sep.isPrefixOf (c::cs) then some ([],(c::cs).drop sep.length)
    else (cut sep cs).map fun p => (c::p.1,p.2)

lemma eq_append_of_cut {sep text before after : List Char} (h : cut sep text=some (before,after)) :
    text=before++sep++after := by
  induction text generalizing before with
  | nil =>
    unfold cut at h
    split at h
    next hsep =>
      cases h
      rw [isEmpty_iff.mp hsep]
      rfl
    · cases h
  | cons c cs ih =>
    unfold cut at h
    split at h
    next hsep =>
      cases h
      obtain ⟨rest,hrest⟩ := isPrefixOf_iff_prefix.mp hsep
      rw [← hrest,drop_left,nil_append]
    obtain ⟨⟨b,a⟩,hcut,heq⟩ := Option.map_eq_some_iff.mp h
    cases heq
    rw [ih hcut]
    rfl

/-- Where the first occurrence stands does not depend on what follows it. -/
lemma cut_of_cut {sep before after : List Char} (h : cut sep (before++sep++after)=some (before,after))
    (after' : List Char) : cut sep (before++sep++after')=some (before,after') := by
  induction before with
  | nil =>
    cases sep with
    | nil =>
      cases after' with
      | nil | cons c cs => rfl
    | cons x xs =>
      have hpref : (x::xs).isPrefixOf (x::(xs++after'))=true :=
        isPrefixOf_iff_prefix.mpr (prefix_append (x::xs) after')
      show cut (x::xs) (x::(xs++after'))=some ([],after')
      rw [cut,if_pos hpref]
      simp
  | cons c cs ih =>
    have hlen : sep.length≤(c::cs++sep).length := by
      rw [length_append]
      omega
    have hiff (rest : List Char) :
        sep.isPrefixOf (c::(cs++sep++rest))=true ↔ sep <+: c::cs++sep := by
      rw [ isPrefixOf_iff_prefix]
      show sep <+: (c::cs++sep)++rest ↔ _
      exact ⟨fun hp => prefix_of_prefix_length_le hp (prefix_append _ _) hlen,fun hp => hp.trans (prefix_append _ _)⟩
    replace h : cut sep (c::(cs++sep++after))=some (c::cs,after) := h
    show cut sep (c::(cs++sep++after'))=some (c::cs,after')
    unfold cut at h ⊢
    by_cases hp : sep <+: c::cs++sep
    · rw [if_pos ((hiff after).mpr hp)] at h
      cases h
    rw [if_neg (fun hpos => hp ((hiff after).mp hpos))] at h
    rw [if_neg (fun hpos => hp ((hiff after').mp hpos))]
    obtain ⟨⟨b,a⟩,hcut,heq⟩ := Option.map_eq_some_iff.mp h
    cases heq
    rw [ih hcut]
    rfl

/-- `strconv.Atoi`: a sign if there is one, then digits, in the range of `int64`. -/
def atoi (s : String) : Option ℤ :=
  let (sign,digits) := match s.toList with
    | '-'::digits => (-1,digits)
    | '+'::digits => (1,digits)
    | digits => (1,digits)
  let n : ℤ := sign*digits.foldl (fun n c => n*10+(c.toNat - '0'.toNat : ℕ)) 0
  if digits≠[] ∧ digits.all Char.isDigit ∧ -2^63≤n ∧ n<2^63 then some n else none

/-- `strings.Contains`. -/
def contains (s sub : String) : Bool := occursIn sub.toList s.toList

section
/-- Days from 1970-01-01 to a date of the proleptic Gregorian calendar; `m` is 1 to 12, `d` may run
over the end of the month. -/
def daysFromCivil (y m d : ℤ) : ℤ :=
  let y' := if m≤2 then y-1 else y
  let era := y'/400
  let yoe := y'-era*400
  let doy := (153*(if 2 < m then m-3 else m+9)+2)/5+d-1
  era*146097+(yoe*365+yoe/4-yoe/100+doy)-719468

/-- The date of a day number: year, month and day. -/
def civilFromDays (z : ℤ) : ℤ × ℤ × ℤ :=
  let z := z+719468
  let era := z/146097
  let doe := z-era*146097
  let yoe := (doe-doe/1460+doe/36524-doe/146096)/365
  let doy := doe-(365*yoe+yoe/4-yoe/100)
  let mp := (5*doy+2)/153
  let d := doy-(153*mp+2)/5+1
  let m := if mp<10 then mp+3 else mp-9
  (if m≤2 then yoe+era*400+1 else yoe+era*400,m,d)

example : daysFromCivil 2026 2 22=20506 := by decide
example : civilFromDays (-1)=(1969,12,31) := by decide

/-- A period of constant offset to UTC, from `start` (included) to `stop`. -/
structure Zone where
  offset : ℤ
  start : ℤ
  stop : ℤ

/-- A time zone: the period every UTC second falls into. -/
structure Location where
  lookup : ℤ → Zone

variable (loc : Location)
def localSeconds (t : ℤ) : ℤ := t+(loc.lookup t).offset

def localDate (t : ℤ) : ℤ × ℤ × ℤ := civilFromDays (localSeconds loc t/86400)

/-- Seconds since local midnight. -/
def clock (t : ℤ) : ℤ := localSeconds loc t%86400

/-- Sunday is 0. -/
def weekday (t : ℤ) : ℤ := (localSeconds loc t/86400+4)%7

/-- The offset that `time.Date` takes for a local time: it is looked up once at the local time and, if that falls outside
the period found, again at the corrected time. -/
def dateOffset (unix : ℤ) : ℤ :=
  let zone := loc.lookup unix
  if zone.offset≠0 ∧ (unix-zone.offset<zone.start ∨ zone.stop≤unix-zone.offset) then
    (loc.lookup (unix-zone.offset)).offset
  else zone.offset

/-- The instant that `time.Date` takes a local time for. -/
def dateInstant (unix : ℤ) : ℤ := unix-dateOffset loc unix

/-- `time.Date`: months and days out of range are carried over. -/
def date (y m d seconds : ℤ) : ℤ :=
  dateInstant loc ((daysFromCivil (y+(m-1)/12) ((m-1)%12+1) 1+(d-1))*86400+seconds)

def addDate (t years months days : ℤ) : ℤ :=
  let (y,m,d) := localDate loc t
  date loc (y+years) (m+months) (d+days) (clock loc t)

/-- `dateToAbsDays`: the days from 1970 to the first of a month, in `uint64` from March of the year -292277022400 on. -/
def absDays (y m : ℤ) : ℤ :=
  let year := ((if m≤2 then y-1 else y)+292277022400)%2^64
  146097*(year/100)%2^64/4+1461*(year%100)/4+(153*(if 2 < m then m-3 else m+9)+2)/5-106751991073400

example : absDays 2026 2=daysFromCivil 2026 2 1 := by decide

/-- Year and month after some years or months, as `int`s. -/
def monthAfter (t years months : ℤ) : ℤ × ℤ :=
  let (y,m,_) := localDate loc t
  let month := wrap64 (m+months-1)
  (wrap64 (wrap64 (y+years)+month/12),month%12+1)

/-- The local time that `AddDate` comes to for any number of years or months, as an `int64`. -/
def addMonths (t years months : ℤ) : ℤ :=
  let (year,month) := monthAfter loc t years months
  wrap64 ((absDays year month+(localDate loc t).2.2-1)*86400+clock loc t)
end

/-- `t.Add(d).Unix()` for a time on a full second and a duration in nanoseconds. -/
def addDuration (t d : ℤ) : ℤ := t+d/1000000000

def secondNanos : ℤ := 1000000000
def hourNanos : ℤ := 3600*secondNanos

/-- UTC as a location. -/
def utc : Location := ⟨fun _ => ⟨0,-2^63,2^63-1⟩⟩

/-- `lo.Chunk` for a positive size. -/
def chunk {α : Type*} (size : ℕ) : List α → List (List α)
  | [] => []
  | a::l => (a::l.take (size-1))::chunk size (l.drop (size-1))
termination_by l => l.length
decreasing_by
  rw [length_drop,length_cons]
  omega

lemma flatten_chunk {α : Type*} (size : ℕ) (l : List α) : (chunk size l).flatten=l := by
  fun_induction chunk size l with
  | case1 => rfl
  | case2 a l ih => rw [flatten_cons,ih,cons_append,take_append_drop]
end GoStd
