import AronaApi.SecondFactor.Verification

/-! How many wrong codes are compared before the account is locked. A request works on the copy of the
record that it read first and saves the whole copy, so the bound rests on the requests coming one
after another. -/
namespace AronaApi.SecondFactor
open Schedule List Interleave Phase
variable {W : Type*} [DecidableEq W]
def comparedBy (log : List (W × Event)) : Finset W :=
  (log.filterMap fun e => match e.2 with
    | .compared _ => some e.1
    | _ => none).toFinset

@[simp] lemma comparedBy_append_compared (log : List (W × Event)) (w : W) (now : ℤ) :
    comparedBy (log++[(w,.compared now)])=insert w (comparedBy log) := by
  ext v
  simp [comparedBy]

def NeverLocked (log : List (W × Event)) : Prop := ∀ w u, (w,Event.locked u)∉log

/-- At most as many requests as there are attempts have their code compared before the account is
first locked, and after a lock none until it has expired. -/
structure Bounded (log : List (W × Event)) : Prop where
  before : ∀ done, done <+: log → NeverLocked done → (comparedBy done).card ≤ maxFailAttempts
  after : log.Pairwise fun e f => ∀ u now, e.2=.locked u → f.2=.compared now → u≤now

variable {log : List (W × Event)} {t : TwoFA} {clock now now' : ℤ} {w : W}
lemma Bounded.compared (h : Bounded log) (hcard : NeverLocked log → (insert w (comparedBy log)).card ≤ maxFailAttempts)
    (hlocks : ∀ v u, (v,Event.locked u)∈log → u≤now) : Bounded (log++[(w,.compared now)]) where
  before done hdone hnever := by
    rcases prefix_concat_iff.mp hdone with rfl | hdone
    · rw [comparedBy_append_compared]
      apply hcard
      intro v u hmem
      exact hnever v u (mem_append_left _ hmem)
    · exact h.before done hdone hnever
  after := by
    apply pairwise_append.mpr
    refine ⟨h.after,pairwise_singleton _ _,?_⟩
    intro e he f hf u now' hlock hcmp
    rw [mem_singleton.mp hf] at hcmp
    cases hcmp
    apply hlocks e.1 u
    rw [← hlock]
    exact he

lemma Bounded.locked (h : Bounded log) (w : W) (u : ℤ) : Bounded (log++[(w,.locked u)]) where
  before done hdone hnvr := by
    rcases prefix_concat_iff.mp hdone with rfl | hdone
    · exact absurd (mem_append_right _ (mem_singleton_self _)) (hnvr w u)
    · exact h.before done hdone hnvr
  after := by
    apply pairwise_append.mpr
    refine ⟨h.after,pairwise_singleton _ _,?_⟩
    intro e he f hf u' now hlock hcmp
    rw [mem_singleton.mp hf] at hcmp
    cases hcmp

structure Wrong (env : Env) (code : W → String) (secret : String) (codes : List TwoFABackupCode) : Prop where
  totp : ∀ w now, validateTOTPCode env secret ((validateNumericCode (code w)).getD "") now=false
  backup : ∀ w, ∀ bc∈codes, env.matchesHash (normalizeBackupCode env (code w)) bc.codeHash=false

def Phase.isActive : Phase → Bool
  | .idle | .done _ => false
  | _ => true

def Serial (s : System W) (a : W × ℤ) : Prop := s.phase a.1=.idle → ∀ v, (s.phase v).isActive=false

def Expired (t : TwoFA) (now : ℤ) : Prop := ∀ u, t.lockedUntil=some u → u≤now

lemma expired_of_not_isLocked (h : t.isLocked now=false) : Expired t now := by
  intro u hu
  simpa [TwoFA.isLocked,hu] using h

lemma Expired.mono (h : Expired t now) (hle : now≤now') : Expired t now' :=
  fun u hu => (h u hu).trans hle

/-- The copy a request works on, against the record: the same until it is incremented. Once the code
may have been compared, the request itself is not counted. -/
def Holds (codes : List TwoFABackupCode) (row : TwoFA) (compared : Finset W) (clock : ℤ) (w : W) : Phase → Prop
  | .idle | .done _ => True
  | .lock _ t => t=row ∧ compared.card ≤ row.failedAttempts
  | .compareTOTP t | .find t => t=row ∧ compared.card ≤ row.failedAttempts ∧ Expired row clock
  | .compareBackup t found => t=row ∧ (compared.erase w).card ≤ row.failedAttempts ∧ Expired row clock ∧ found⊆codes
  | .increment _ t => t=row ∧ (compared.erase w).card ≤ row.failedAttempts ∧ Expired row clock
  | .save _ t => ∃ now ≤ clock, t=row.incrementFailedAttempts now ∧
      (compared.erase w).card ≤ row.failedAttempts ∧ Expired row now
  | .mark _ _ | .use _ | .saveUse _ => False

lemma holds_of_inactive {codes : List TwoFABackupCode} {row : TwoFA} {compared : Finset W}
    {p : Phase} (h : p.isActive=false) : Holds codes row compared clock w p := by
  cases p with
  | idle | done => trivial
  | _ => cases h

structure Sequential (secret : String) (codes : List TwoFABackupCode) (row : TwoFA) (s : System W) : Prop where
  codes_eq : s.shared.codes.rows=codes
  row_eq : s.shared.twoFA=some row
  secret_eq : row.secret=secret
  single : ∀ v w, (s.phase v).isActive=true → (s.phase w).isActive=true → v=w
  holds : ∀ w, Holds codes row (comparedBy s.log) s.shared.clock w (s.phase w)
  settled : (∀ w, (s.phase w).isActive=false) → (comparedBy s.log).card ≤ row.failedAttempts
  attempts : NeverLocked s.log → row.failedAttempts < maxFailAttempts
  locks : ∀ w u, (w,Event.locked u)∈s.log → ∃ v, row.lockedUntil=some v ∧ u≤v
  bounded : Bounded s.log

variable {secret : String} {codes : List TwoFABackupCode} {row : TwoFA} {s : System W} {w : W} {now : ℤ} {p : Phase}
lemma Sequential.others (h : Sequential secret codes row s) (hser : Serial s (w,now))
    (hw : s.phase w=.idle ∨ (s.phase w).isActive=true) : ∀ v, v≠w → (s.phase v).isActive=false := by
  intro v hv
  rcases hw with hidle | hact
  · exact hser hidle v
  · exact others_of_single isActive h.single hact v hv

variable {compared : Finset W} {n : ℕ}
lemma holds_advance {r : Tables × Phase × List Event}
    (hoth : ∀ v, v≠w → (s.phase v).isActive=false) (hself : Holds codes row compared clock w r.2.1) (v : W) :
    Holds codes row compared clock v ((s.advance w r).phase v) :=
  forall_phase_advance (fun _ _ => True) _ (fun _ => trivial) hself (fun v hv _ => holds_of_inactive (hoth v hv)) v

lemma Sequential.quiet (h : Sequential secret codes row s) (hoth : ∀ v, v≠w → (s.phase v).isActive=false)
    (hp : Holds codes row (comparedBy s.log) now w p)
    (hsett : p.isActive=false → (comparedBy s.log).card ≤ row.failedAttempts) :
    Sequential secret codes row (s.advance w ({ s.shared with clock := now },p,[])) := by
  have hlog : (s.advance w ({ s.shared with clock := now },p,[])).log=s.log := append_nil _
  refine ⟨h.codes_eq,h.row_eq,h.secret_eq,single_advance isActive h.single fun _ => hoth,?_,?_,?_,?_,?_⟩
  · rw [hlog]
    exact holds_advance hoth hp
  · intro hinac
    rw [hlog]
    apply hsett
    simpa using hinac w
  · rw [hlog]
    exact h.attempts
  · rw [hlog]
    exact h.locks
  · rw [hlog]
    exact h.bounded

lemma card_insert_le_of_erase (h : (compared.erase w).card≤n) : (insert w compared).card≤n+1 := by
  have hpred := Finset.pred_card_le_card_erase (s := insert w compared) (a := w)
  rw [Finset.erase_insert_eq_erase] at hpred
  omega

lemma card_le_of_erase (h : (compared.erase w).card≤n) : compared.card≤n+1 :=
  (Finset.card_le_card (Finset.subset_insert w compared)).trans (card_insert_le_of_erase h)

lemma Sequential.compare (h : Sequential secret codes row s) (hoth : ∀ v, v≠w → (s.phase v).isActive=false)
    (hact : p.isActive=true) (hp : Holds codes row (insert w (comparedBy s.log)) now w p)
    (hcard : ((comparedBy s.log).erase w).card ≤ row.failedAttempts) (hexp : Expired row now) :
    Sequential secret codes row (s.advance w ({ s.shared with clock := now },p,[.compared now])) := by
  have hlog : (s.advance w ({ s.shared with clock := now },p,[.compared now])).log=s.log++[(w,.compared now)] := rfl
  have hmem (v : W) (u : ℤ) : (v,Event.locked u)∈s.log++[(w,.compared now)] ↔ (v,Event.locked u)∈s.log := by simp
  refine ⟨h.codes_eq,h.row_eq,h.secret_eq,single_advance isActive h.single fun _ => hoth,?_,?_,?_,?_,?_⟩
  · rw [hlog,comparedBy_append_compared]
    exact holds_advance hoth hp
  · intro hinac
    have hself := hinac w
    rw [advance_phase_self,hact] at hself
    cases hself
  · intro hnvr
    apply h.attempts
    intro v u hv
    apply hnvr v u
    rw [hlog]
    exact (hmem v u).mpr hv
  · intro v u hv
    rw [hlog] at hv
    exact h.locks v u ((hmem v u).mp hv)
  · rw [hlog]
    apply h.bounded.compared
    · intro hnvr
      have hatt := h.attempts hnvr
      have hinsert := card_insert_le_of_erase hcard
      omega
    · intro v u hv
      obtain ⟨u',hu',hle⟩ := h.locks v u hv
      exact hle.trans (hexp u' hu')

lemma increment_cases (row : TwoFA) (now : ℤ) : (maxFailAttempts ≤ row.failedAttempts+1 ∧
      (row.incrementFailedAttempts now).lockedUntil=some (now+lockoutDuration) ∧
      lockEvents (row.incrementFailedAttempts now)=[.locked (now+lockoutDuration)]) ∨
    (row.failedAttempts+1 < maxFailAttempts ∧ (row.incrementFailedAttempts now).lockedUntil=row.lockedUntil ∧
      lockEvents (row.incrementFailedAttempts now)=[]) := by
  by_cases h : maxFailAttempts ≤ row.failedAttempts+1
  · have hlock : (row.incrementFailedAttempts now).lockedUntil=some (now+lockoutDuration) := if_pos h
    refine .inl ⟨h,hlock,?_⟩
    rw [lockEvents,hlock]
    exact if_pos h
  · exact .inr ⟨by omega,if_neg h,if_neg h⟩

lemma Sequential.save (h : Sequential secret codes row s) (hoth : ∀ v, v≠w → (s.phase v).isActive=false)
    (ht : t=row.incrementFailedAttempts now')
    (hcard : ((comparedBy s.log).erase w).card ≤ row.failedAttempts) (hexp : Expired row now')
    (hp : Holds codes t (comparedBy s.log) now w p) :
    Sequential secret codes t (s.advance w ({ s.shared with clock := now,twoFA := some t },p,lockEvents t)) := by
  have hatt : t.failedAttempts=row.failedAttempts+1 := by rw [ht]; rfl
  have hcnt : (comparedBy s.log).card≤t.failedAttempts := by
    rw [hatt]
    exact card_le_of_erase hcard
  have hsecr : t.secret=secret := by
    rw [ht]
    exact h.secret_eq
  have hcs := increment_cases row now'
  rw [← ht] at hcs
  -- past the limit the save locks the account, for longer than any lock before it
  rcases hcs with ⟨hlmt,hlock,heven⟩ | ⟨hlmt,hlock,heven⟩
  · rw [heven]
    have hlog (x : Tables) : (s.advance w (x,p,[.locked (now'+lockoutDuration)])).log =
        s.log++[(w,.locked (now'+lockoutDuration))] := rfl
    have hcmp : comparedBy (s.log++[(w,.locked (now'+lockoutDuration))])=comparedBy s.log := by simp [comparedBy]
    refine ⟨h.codes_eq,rfl,hsecr,single_advance isActive h.single fun _ => hoth,?_,?_,?_,?_,?_⟩
    · rw [hlog,hcmp]
      exact holds_advance hoth hp
    · intro _
      rw [hlog,hcmp]
      exact hcnt
    · intro hnvr
      exact absurd (mem_append_right _ (mem_singleton_self _)) (hnvr w (now'+lockoutDuration))
    · intro v u hv
      refine ⟨_,hlock,?_⟩
      rcases mem_append.mp hv with hv | hv
      · obtain ⟨u',hu',hle⟩ := h.locks v u hv
        have hpast := hexp u' hu'
        have hdur : 0≤lockoutDuration := by decide
        omega
      · cases mem_singleton.mp hv
        exact le_refl _
    · exact h.bounded.locked w _
  · rw [heven]
    have hlog (x : Tables) : (s.advance w (x,p,[])).log=s.log := append_nil _
    refine ⟨h.codes_eq,rfl,hsecr,single_advance isActive h.single fun _ => hoth,?_,?_,?_,?_,?_⟩
    · rw [hlog]
      exact holds_advance hoth hp
    · intro _
      rw [hlog]
      exact hcnt
    · intro _
      omega
    · rw [hlog,hlock]
      exact h.locks
    · rw [hlog]
      exact h.bounded

lemma Holds.mono_clock {clock' : ℤ} (hle : clock ≤ clock')
    (h : Holds codes row compared clock w p) : Holds codes row compared clock' w p := by
  cases p with
  | compareTOTP t | find t | increment way t => exact ⟨h.1,h.2.1,h.2.2.mono hle⟩
  | compareBackup t found => exact ⟨h.1,h.2.1,h.2.2.1.mono hle,h.2.2.2⟩
  | save way t =>
    obtain ⟨now,hnow,hrest⟩ := h
    exact ⟨now,hnow.trans hle,hrest⟩
  | _ => exact h

lemma Sequential.step {env : Env} {code : W → String} (hwrn : Wrong env code secret codes)
    (h : Sequential secret codes row s) (hser : Serial s (w,now)) {t : System W}
    (hstep : SecondFactor.step env code s (w,now)=some t) : ∃ row, Sequential secret codes row t := by
  obtain ⟨r,hnext,rfl⟩ := step_eq_some.mp hstep
  obtain ⟨hle,hstmt⟩ := next_eq_some.mp hnext
  have hhld := (h.holds w).mono_clock hle
  have hoth := h.others hser
  generalize hphase : s.phase w=p at hstmt hhld hoth
  cases p with
  | idle =>
    have hcnt := h.settled (hser hphase)
    simp only [stmt] at hstmt
    split at hstmt
    next hnone => cases h.row_eq.symm.trans hnone
    next t hsome =>
    cases h.row_eq.symm.trans hsome
    split at hstmt
    · cases hstmt
      exact ⟨row,h.quiet (hoth (.inl rfl)) trivial fun _ => hcnt⟩
    · cases hstmt
      exact ⟨row,h.quiet (hoth (.inl rfl)) ⟨rfl,hcnt⟩ fun _ => hcnt⟩
  | lock way t =>
    obtain ⟨rfl,hcnt⟩ := hhld
    cases way with
    | totp =>
      simp only [stmt] at hstmt
      split at hstmt
      · cases hstmt
        exact ⟨t,h.quiet (hoth (.inr rfl)) ⟨rfl,hcnt⟩ fun _ => hcnt⟩
      next hlock =>
      cases hstmt
      have hexp := expired_of_not_isLocked (eq_false_of_ne_true hlock)
      exact ⟨t,h.quiet (hoth (.inr rfl)) ⟨rfl,hcnt,hexp⟩ fun _ => hcnt⟩
    | backup =>
      simp only [stmt] at hstmt
      split at hstmt
      · cases hstmt
        exact ⟨t,h.quiet (hoth (.inr rfl)) trivial fun _ => hcnt⟩
      next hlock =>
      cases hstmt
      have hexp := expired_of_not_isLocked (eq_false_of_ne_true hlock)
      exact ⟨t,h.quiet (hoth (.inr rfl)) ⟨rfl,hcnt,hexp⟩ fun _ => hcnt⟩
  | compareTOTP t =>
    obtain ⟨rfl,hcnt,hexp⟩ := hhld
    have hers : ((comparedBy s.log).erase w).card≤t.failedAttempts := Finset.card_erase_le.trans hcnt
    simp only [stmt,h.secret_eq,hwrn.totp w now] at hstmt
    cases hstmt
    refine ⟨t,h.compare (hoth (.inr rfl)) rfl ⟨rfl,?_,hexp⟩ hers hexp⟩
    rw [Finset.erase_insert_eq_erase]
    exact hers
  | find t =>
    obtain ⟨rfl,hcnt,hexp⟩ := hhld
    simp only [stmt] at hstmt
    split at hstmt
    · cases hstmt
      exact ⟨t,h.quiet (hoth (.inr rfl)) trivial fun _ => hcnt⟩
    cases hstmt
    refine ⟨t,h.quiet (hoth (.inr rfl)) ⟨rfl,Finset.card_erase_le.trans hcnt,hexp,?_⟩ fun _ => hcnt⟩
    rw [h.codes_eq]
    exact filter_subset_self _
  | compareBackup t found =>
    obtain ⟨rfl,hers,hexp,hfnd⟩ := hhld
    cases found with
    | nil =>
      cases hstmt
      exact ⟨t,h.quiet (hoth (.inr rfl)) ⟨rfl,hers,hexp⟩ nofun⟩
    | cons bc found =>
      rw [cons_subset] at hfnd
      simp only [stmt,hwrn.backup w bc hfnd.1] at hstmt
      cases hstmt
      refine ⟨t,h.compare (hoth (.inr rfl)) rfl ⟨rfl,?_,hexp,hfnd.2⟩ hers hexp⟩
      rw [Finset.erase_insert_eq_erase]
      exact hers
  | mark t bc | use t | saveUse t =>
    exact hhld.elim
  | increment way t =>
    obtain ⟨rfl,hers,hexp⟩ := hhld
    cases hstmt
    exact ⟨t,h.quiet (hoth (.inr rfl)) ⟨now,le_refl _,rfl,hers,hexp⟩ nofun⟩
  | save way t =>
    obtain ⟨now',-,ht,hers,hexp⟩ := hhld
    have hcnt : (comparedBy s.log).card≤t.failedAttempts := by
      rw [ht]
      exact card_le_of_erase hers
    cases way with
    | totp =>
      cases hstmt
      exact ⟨t,h.save (hoth (.inr rfl)) ht hers hexp ⟨rfl,hcnt⟩⟩
    | backup =>
      cases hstmt
      exact ⟨t,h.save (hoth (.inr rfl)) ht hers hexp trivial⟩
  | done answer =>
    cases hstmt

variable {env : Env} {code : W → String} {s₀ : Tables} {t₀ : TwoFA}
lemma sequential_start (hrow : s₀.twoFA=some t₀) (hzero : t₀.failedAttempts=0) :
    Sequential t₀.secret s₀.codes.rows t₀ (Interleave.start s₀ .idle : System W) where
  codes_eq := rfl
  row_eq := hrow
  secret_eq := rfl
  single v w hv := by cases hv
  holds w := trivial
  settled _ := Nat.zero_le _
  attempts _ := by
    rw [hzero]
    decide
  locks w u hw := by cases hw
  bounded :=
    { before := by
        intro done hdone _
        rw [prefix_nil.mp hdone]
        exact Nat.zero_le _
      after := List.Pairwise.nil }

/-- Requests that come one after another are bounded by the lock, however many there are. -/
theorem serial_guesses_bounded (hrow : s₀.twoFA=some t₀) (hzero : t₀.failedAttempts=0)
    (hwrong : Wrong env code t₀.secret s₀.codes.rows) {as : List (W × ℤ)} {s : System W}
    (hruns : Runs (step env code) Serial (Interleave.start s₀ .idle) as s) : Bounded s.log := by
  have hinv : ∃ row, Sequential t₀.secret s₀.codes.rows row s := by
    apply hruns.invariant (fun s => ∃ row, Sequential t₀.secret s₀.codes.rows row s)
    · rintro s ⟨w,now⟩ t ⟨row,h⟩ hser hstep
      exact h.step hwrong hser hstep
    · exact ⟨t₀,sequential_start hrow hzero⟩
  obtain ⟨row,h⟩ := hinv
  exact h.bounded

def guessing : Env where
  validate _ _ _ := false
  matchesHash _ _ := false
  toUpper := Char.toUpper
  format _ := ""

def newAccount : TwoFA := ⟨"secret",true,0,none,none⟩

def newTables : Tables := ⟨some newAccount,KeyedTable.empty,0⟩

def statements (n : ℕ) (w : Fin 7) (now : ℤ) : List (Fin 7 × ℤ) := List.replicate n (w,now)

def guesses : List (Fin 7 × ℤ) → Option (System (Fin 7)) :=
  exec (step guessing fun _ => "123456") (Interleave.start newTables .idle)

instance (s : System (Fin 7)) (a : Fin 7 × ℤ) : Decidable (Serial s a) := inferInstanceAs (Decidable (_ → _))

def oneByOne : List (Fin 7 × ℤ) :=
  statements 7 0 1++statements 7 1 2++statements 7 2 3++statements 7 3 4++statements 6 4 5++statements 3 5 6

theorem sixth_refused :
    (newTables.twoFA=some newAccount ∧ newAccount.failedAttempts=0) ∧ ∃ s, guesses oneByOne=some s ∧
      Bounded s.log ∧ s.phase 5=.done (.refused "账户已被锁定，请在后重试") := by
  obtain ⟨s,hs,hruns,hphase⟩ := checked_run (step guessing fun _ => "123456") Serial (Interleave.start newTables .idle) oneByOne
    (fun s => s.phase 5=.done (.refused "账户已被锁定，请在后重试")) (by decide +kernel)
  have hwrn : Wrong guessing (fun _ : Fin 7 => "123456") newAccount.secret newTables.codes.rows :=
    { totp := fun w now => by simp [validateTOTPCode,guessing]
      backup := fun w bc hbc => rfl }
  exact ⟨⟨rfl,rfl⟩,s,hs,serial_guesses_bounded rfl rfl hwrn hruns,hphase⟩

def allAtOnce : List (Fin 7 × ℤ) :=
  [0,1,2,3,4,5].flatMap fun w => statements 3 w 1

/-- The first request reads, five others lock the account, the first one goes on and saves its copy,
and the last one finds the account open. -/
def staleSave : List (Fin 7 × ℤ) :=
  statements 2 0 1++statements 7 1 1++statements 7 2 1++statements 7 3 1++statements 7 4 1++statements 6 5 1++
    statements 5 0 2++statements 3 6 3

theorem guesses_unbounded :
    (∃ s, guesses allAtOnce=some s ∧ NeverLocked s.log ∧ maxFailAttempts<(comparedBy s.log).card) ∧
    ∃ s, guesses staleSave=some s ∧ s.shared.twoFA=some { newAccount with failedAttempts := 1 } ∧
      ∃ front back u, s.log=front++(5,.locked u)::back ∧ (0,Event.compared 2)∈back ∧ (6,Event.compared 3)∈back ∧
        (3 : ℤ)<u := by
  constructor
  · have hlog : (guesses allAtOnce).map (·.log)=some ([0,1,2,3,4,5].map fun w => (w,.compared 1)) := by decide +kernel
    obtain ⟨s,hs,hlog⟩ := Option.map_eq_some_iff.mp hlog
    refine ⟨s,hs,?_,?_⟩
    · rw [hlog]
      intro w u hmem
      simp at hmem
    · rw [hlog]
      decide
  · have hlog : (guesses staleSave).map (fun s => (s.shared.twoFA,s.log)) =
        some (some { newAccount with failedAttempts := 1 },
          [(1,.compared 1),(2,.compared 1),(3,.compared 1),(4,.compared 1),(5,.compared 1)]++
            (5,.locked (1+lockoutDuration))::[(0,.compared 2),(6,.compared 3)]) := by decide +kernel
    obtain ⟨s,hs,hlog⟩ := Option.map_eq_some_iff.mp hlog
    obtain ⟨hrow,hlog⟩ := Prod.mk.inj hlog
    refine ⟨s,hs,hrow,_,_,_,hlog,by decide,by decide,by decide⟩
end AronaApi.SecondFactor
