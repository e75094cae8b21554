import AronaApi.Lib.GoStd
import AronaApi.Lib.Interleave
import AronaApi.Lib.KeyedTable

/-! Verification of the second factor at login (`Verify2FALogin`, and `twofa.go` under it) for one
user, by any number of requests at once. Every statement that reads or writes a table, looks at the
clock or compares a code is a step of its own. Moments are in nanoseconds. -/
namespace AronaApi.SecondFactor
open GoStd

structure TwoFA where
  secret : String
  isEnabled : Bool
  failedAttempts : ℕ
  lockedUntil : Option ℤ
  lastUsedAt : Option ℤ
  deriving DecidableEq

structure TwoFABackupCode where
  id : ℕ
  codeHash : String
  isUsed : Bool
  usedAt : Option ℤ
  deriving DecidableEq

def backupCodeLength : ℕ := 8
def maxFailAttempts : ℕ := 5
def lockoutDuration : ℤ := 300*secondNanos

/-- What is left to the libraries: codes over time, hashes, and the spelling of a moment. -/
structure Env where
  /-- `totp.Validate` at a moment -/
  validate : (code secret : String) → ℤ → Bool
  /-- `common.ValidatePasswordAndHash` -/
  matchesHash : (code hash : String) → Bool
  /-- `unicode.ToUpper` -/
  toUpper : Char → Char
  format : ℤ → String

/-- `strings.ReplaceAll` of one character by nothing. -/
def without (c : Char) (s : String) : String := String.ofList (s.toList.filter (· != c))

/-- `common.ValidateNumericCode`; a code that is refused is `none`. -/
def validateNumericCode (code : String) : Option String :=
  let code := without ' ' code
  if code.utf8ByteSize≠6 then none else (atoi code).map fun _ => code

/-- `common.ValidateTOTPCode`. -/
def validateTOTPCode (env : Env) (secret code : String) (now : ℤ) : Bool :=
  let cleanCode := without ' ' code
  if cleanCode.utf8ByteSize≠6 then false else env.validate cleanCode secret now

def cleanBackupCode (env : Env) (code : String) : String :=
  String.ofList ((without '-' code).toList.map env.toUpper)

/-- `common.ValidateBackupCode`. -/
def validBackupCode (env : Env) (code : String) : Bool :=
  let cleanCode := cleanBackupCode env code
  cleanCode.utf8ByteSize == backupCodeLength &&
    cleanCode.toList.all fun c => ('A' ≤ c && c ≤ 'Z') || ('0' ≤ c && c ≤ '9')

/-- `common.NormalizeBackupCode`. -/
def normalizeBackupCode (env : Env) (code : String) : String :=
  let cleanCode := cleanBackupCode env code
  if cleanCode.utf8ByteSize=backupCodeLength then
    String.ofList (cleanCode.toList.take 4++['-']++cleanCode.toList.drop 4)
  else code

namespace TwoFA

def incrementFailedAttempts (t : TwoFA) (now : ℤ) : TwoFA :=
  { t with
    failedAttempts := t.failedAttempts+1
    lockedUntil := if maxFailAttempts≤t.failedAttempts+1 then some (now+lockoutDuration) else t.lockedUntil }

def isLocked (t : TwoFA) (now : ℤ) : Bool :=
  match t.lockedUntil with
  | none => false
  | some until_ => now<until_

def used (t : TwoFA) (now : ℤ) : TwoFA := { t with failedAttempts := 0, lockedUntil := none, lastUsedAt := some now }
end TwoFA

structure Tables where
  twoFA : Option TwoFA
  codes : KeyedTable TwoFABackupCode TwoFABackupCode.id
  clock : ℤ

/-- `DB.Save` of a backup code: the whole row is written. -/
def Tables.saveCode (s : Tables) (bc : TwoFABackupCode) : Tables :=
  { s with
    codes := s.codes.update (fun row => if row.id=bc.id then bc else row) fun row => by
      split
      next h => exact h.symm
      · rfl }

inductive Way
  | totp
  | backup
  deriving DecidableEq

inductive Answer
  | loggedIn
  | refused (message : String)
  deriving DecidableEq

inductive Phase
  /-- nothing read yet -/
  | idle
  /-- about to ask whether the account is locked -/
  | lock (way : Way) (t : TwoFA)
  | compareTOTP (t : TwoFA)
  /-- about to look for the unused codes -/
  | find (t : TwoFA)
  /-- in the loop over the codes found -/
  | compareBackup (t : TwoFA) (codes : List TwoFABackupCode)
  /-- a code matched and is about to be saved as used -/
  | mark (t : TwoFA) (bc : TwoFABackupCode)
  /-- the code was wrong -/
  | increment (way : Way) (t : TwoFA)
  | save (way : Way) (t : TwoFA)
  /-- the code was right -/
  | use (t : TwoFA)
  | saveUse (t : TwoFA)
  | done (answer : Answer)
  deriving DecidableEq

inductive Event
  /-- a code was compared at a moment -/
  | compared (now : ℤ)
  /-- the account was saved as locked -/
  | locked (until_ : ℤ)
  /-- `ValidateBackupCode` accepted the code of a row -/
  | accepted (id : ℕ)
  deriving DecidableEq

def lockEvents (t : TwoFA) : List Event :=
  if maxFailAttempts≤t.failedAttempts then t.lockedUntil.toList.map .locked else []

variable {W : Type*}
/-- One statement of a request that presents `code`, at the moment `now`. -/
def stmt (env : Env) (code : String) (s : Tables) (now : ℤ) : Phase → Option (Tables × Phase × List Event)
  | .idle =>
    match s.twoFA with
    | none => some (s,.done (.refused "用户未启用2FA"),[])
    | some t =>
      if !t.isEnabled then some (s,.done (.refused "用户未启用2FA"),[])
      else some (s,.lock (if (validateNumericCode code).isSome then .totp else .backup) t,[])
  | .lock .totp t =>
    -- the error of this way is dropped, and the other one is tried
    if t.isLocked now then some (s,.lock .backup t,[]) else some (s,.compareTOTP t,[])
  | .lock .backup t =>
    if t.isLocked now then
      some (s,.done (.refused ("账户已被锁定，请在"++(t.lockedUntil.map env.format).getD ""++"后重试")),[])
    else some (s,.find t,[])
  | .compareTOTP t =>
    let right := validateTOTPCode env t.secret ((validateNumericCode code).getD "") now
    some (s,if right then .use t else .increment .totp t,[.compared now])
  | .find t =>
    if !validBackupCode env code then some (s,.done (.refused "验证码或备用码不正确"),[])
    else some (s,.compareBackup t (s.codes.rows.filter (!·.isUsed)),[])
  | .compareBackup t [] => some (s,.increment .backup t,[])
  | .compareBackup t (bc::codes) =>
    let right := env.matchesHash (normalizeBackupCode env code) bc.codeHash
    some (s,if right then .mark t bc else .compareBackup t codes,[.compared now])
  | .mark t bc => some (s.saveCode { bc with isUsed := true, usedAt := some now },.use t,[.accepted bc.id])
  | .increment way t => some (s,.save way (t.incrementFailedAttempts now),[])
  | .save .totp t => some ({ s with twoFA := some t },.lock .backup t,lockEvents t)
  | .save .backup t =>
    some ({ s with twoFA := some t },.done (.refused "验证码或备用码错误，请重试"),lockEvents t)
  | .use t => some (s,.saveUse (t.used now),[])
  | .saveUse t => some ({ s with twoFA := some t },.done .loggedIn,[])
  | .done _ => none

def next (env : Env) (code : W → String) (w : W) (s : Tables) (p : Phase) (now : ℤ) :
    Option (Tables × Phase × List Event) :=
  if now<s.clock then none else stmt env (code w) { s with clock := now } now p

abbrev System (W : Type*) := Interleave W Tables Phase Event

def step [DecidableEq W] (env : Env) (code : W → String) : System W → W × ℤ → Option (System W) :=
  Interleave.step (next env code)

lemma next_eq_some {env : Env} {code : W → String} {w : W} {s : Tables} {p : Phase} {now : ℤ}
    {r : Tables × Phase × List Event} :
    next env code w s p now=some r ↔ s.clock≤now ∧ stmt env (code w) { s with clock := now } now p=some r := by
  unfold next
  split
  next h =>
    constructor
    · intro h'
      cases h'
    · intro h'
      omega
  next h =>
  constructor
  · intro h'
    exact ⟨by omega,h'⟩
  · intro h'
    exact h'.2
end AronaApi.SecondFactor
