import AronaApi.SecondFactor.Verification

/-! How often a backup code is accepted. The unused codes are read first, compared with a slow hash,
and the one that matches is saved as used whatever has become of its row, so a code is accepted again
by whoever read it before it was saved. -/
namespace AronaApi.SecondFactor
open Schedule List Interleave Tables
variable {W : Type*}
def Tables.isUsed (s : Tables) (id : ℕ) : Bool := s.codes.rows.any fun row => row.id == id && row.isUsed

def acceptances (log : List (W × Event)) (id : ℕ) : List (W × Event) := log.filter fun e => e.2 == .accepted id

def AcceptedOnce (log : List (W × Event)) : Prop := ∀ id, (acceptances log id).length≤1

def Unspent (s : System W) (a : W × ℤ) : Prop := ∀ t bc, s.phase a.1=.mark t bc → s.shared.isUsed bc.id=false

def Phase.Carries (bc : TwoFABackupCode) : Phase → Prop
  | .compareBackup _ codes => bc∈codes
  | .mark _ bc' => bc'=bc
  | _ => False

variable {env : Env} {code : String} {s : Tables} {now : ℤ} {r : Tables × Phase × List Event} {bc : TwoFABackupCode}
/-- What a statement does to the codes: it saves one as used, or it leaves them alone and carries on
with codes it carried before or finds unused. -/
lemma stmt_codes {p : Phase} (h : stmt env code s now p=some r) :
    (∃ t bc, p=.mark t bc ∧ r=(s.saveCode { bc with isUsed := true, usedAt := some now },.use t,[.accepted bc.id])) ∨
    (r.1.codes=s.codes ∧ (∀ id, Event.accepted id∉r.2.2) ∧ (∀ t bc, p≠.mark t bc) ∧
      ∀ bc, r.2.1.Carries bc → p.Carries bc ∨ (bc∈s.codes.rows ∧ bc.isUsed=false)) := by
  cases p with
  | idle =>
    right
    simp only [stmt] at h
    repeat' split at h
    all_goals
      cases h
      exact ⟨rfl,by simp,nofun,nofun⟩
  | lock way t =>
    right
    cases way with
    | totp | backup =>
      simp only [stmt] at h
      split at h
      all_goals
        cases h
        exact ⟨rfl,by simp,nofun,nofun⟩
  | compareTOTP t =>
    simp only [stmt] at h
    generalize validateTOTPCode env t.secret ((validateNumericCode code).getD "") now=right at h
    cases h
    cases right with
    | true | false => exact .inr ⟨rfl,by simp,nofun,nofun⟩
  | find t =>
    right
    simp only [stmt] at h
    split at h
    · cases h
      exact ⟨rfl,by simp,nofun,nofun⟩
    cases h
    refine ⟨rfl,by simp,nofun,?_⟩
    intro bc hbc
    obtain ⟨hmem,hunus⟩ := mem_filter.mp hbc
    exact .inr ⟨hmem,Bool.not_eq_true' _ ▸ hunus⟩
  | compareBackup t codes =>
    cases codes with
    | nil =>
      cases h
      exact .inr ⟨rfl,by simp,nofun,nofun⟩
    | cons bc codes =>
      simp only [stmt] at h
      generalize env.matchesHash (normalizeBackupCode env code) bc.codeHash=right at h
      cases h
      cases right with
      | true => exact .inr ⟨rfl,by simp,nofun,fun bc' hbc => .inl (mem_cons.mpr (.inl hbc.symm))⟩
      | false => exact .inr ⟨rfl,by simp,nofun,fun bc' hbc => .inl (mem_cons_of_mem _ hbc)⟩
  | mark t bc =>
    cases h
    exact .inl ⟨t,bc,rfl,rfl⟩
  | increment way t | use t | saveUse t =>
    cases h
    exact .inr ⟨rfl,by simp,nofun,nofun⟩
  | save way t =>
    have heven (id : ℕ) : Event.accepted id∉lockEvents t := by
      unfold lockEvents
      split
      · simp
      · exact not_mem_nil
    cases way with
    | totp | backup =>
      cases h
      exact .inr ⟨rfl,heven,nofun,nofun⟩
  | done answer => cases h

lemma isUsed_saveCode (hrow : ∃ row∈s.codes.rows, row.id=bc.id) (hused : bc.isUsed=true)
    (id : ℕ) : (s.saveCode bc).isUsed id=(id == bc.id || s.isUsed id) := by
  rw [Bool.eq_iff_iff]
  simp only [isUsed,saveCode,KeyedTable.update,any_map,any_eq_true,Function.comp_apply,
    Bool.or_eq_true,Bool.and_eq_true,beq_iff_eq]
  constructor
  · rintro ⟨row,hmem,hid,hrow⟩
    split at hid
    · exact .inl hid.symm
    next hne =>
    rw [if_neg hne] at hrow
    exact .inr ⟨row,hmem,hid,hrow⟩
  · rintro (rfl | ⟨row,hmem,hid,hrow⟩)
    · obtain ⟨row,hmem,hid⟩ := hrow
      exact ⟨row,hmem,by rw [if_pos hid],by rw [if_pos hid,hused]⟩
    · by_cases heq : row.id=bc.id
      · exact ⟨row,hmem,by rw [if_pos heq,← heq,hid],by rw [if_pos heq,hused]⟩
      · exact ⟨row,hmem,by rw [if_neg heq,hid],by rw [if_neg heq,hrow]⟩

/-- A code that a request carries has a row, which is unused unless the code was accepted meanwhile;
and a code that was accepted is marked used. -/
structure Linked (s : System W) : Prop where
  carried : ∀ w bc, (s.phase w).Carries bc → ∃ row∈s.shared.codes.rows, row.id=bc.id
  unused : ∀ w bc, (s.phase w).Carries bc → s.shared.isUsed bc.id=true → acceptances s.log bc.id≠[]
  accepted : ∀ id, acceptances s.log id≠[] → s.shared.isUsed id=true

lemma isUsed_congr {t : Tables} (h : t.codes=s.codes) (id : ℕ) : t.isUsed id=s.isUsed id := by
  unfold isUsed
  rw [h]

variable {w : W} {id : ℕ}
lemma acceptances_append_of_not_mem {log : List (W × Event)} {events : List Event}
    (h : Event.accepted id∉events) : acceptances (log++events.map (Prod.mk w)) id=acceptances log id := by
  have hnil : (events.map (Prod.mk w)).filter (fun e => e.2 == .accepted id)=[] := by
    rw [filter_eq_nil_iff]
    intro e he heq
    obtain ⟨event,hevn,rfl⟩ := mem_map.mp he
    exact h (beq_iff_eq.mp heq ▸ hevn)
  rw [acceptances,filter_append,hnil,append_nil]
  rfl

lemma not_isUsed_of_mem (hbc : bc∈s.codes.rows) (hunus : bc.isUsed=false) : s.isUsed bc.id=false := by
  apply Bool.eq_false_iff.mpr
  intro hused
  obtain ⟨row,hrow,heq⟩ := any_eq_true.mp hused
  obtain ⟨hid,hrowU⟩ := Bool.and_eq_true_iff.mp heq
  have hsame := s.codes.eq_of_key (show row∈s.codes from hrow) hbc (beq_iff_eq.mp hid)
  rw [hsame,hunus] at hrowU
  cases hrowU

/-- One statement: either it marks a code that the request carried, or it accepts none. -/
inductive Effect (s : System W) (w : W) (t : System W) : Prop
  | mark (copy : TwoFA) (bc : TwoFABackupCode) (hphase : s.phase w=.mark copy bc)
      (hused : ∀ id, t.shared.isUsed id=(id == bc.id || s.shared.isUsed id))
      (hlog : ∀ id, acceptances t.log id=acceptances s.log id++if id=bc.id then [(w,.accepted id)] else [])
  | other (hphase : ∀ copy bc, s.phase w≠.mark copy bc) (hused : ∀ id, t.shared.isUsed id=s.shared.isUsed id)
      (hlog : ∀ id, acceptances t.log id=acceptances s.log id)

lemma acceptances_append_accepted (log : List (W × Event)) (w : W) (id id' : ℕ) :
    acceptances (log++[(w,.accepted id')]) id=acceptances log id++if id=id' then [(w,.accepted id)] else [] := by
  rw [acceptances,filter_append]
  congr 1
  split
  next h =>
    subst h
    simp
  next h => simp [Ne.symm h]

section
variable [DecidableEq W] {s : System W} {w : W} {now : ℤ} {copy : TwoFA} {bc : TwoFABackupCode}
def marked (s : Tables) (bc : TwoFABackupCode) (now : ℤ) : Tables :=
  { s with clock := now }.saveCode { bc with isUsed := true, usedAt := some now }

lemma Linked.effect_mark (h : Linked s) (hphase : s.phase w=.mark copy bc) :
    Effect s w (s.advance w (marked s.shared bc now,.use copy,[.accepted bc.id])) := by
  have hrow := h.carried w bc (hphase ▸ rfl)
  exact .mark copy bc hphase (isUsed_saveCode (s := { s.shared with clock := now }) hrow rfl)
    fun id => acceptances_append_accepted s.log w id bc.id

lemma Linked.mark (h : Linked s) (hphase : s.phase w=.mark copy bc) :
    Linked (s.advance w (marked s.shared bc now,.use copy,[.accepted bc.id])) := by
  have hrow := h.carried w bc (hphase ▸ rfl)
  have hused : ∀ id, (marked s.shared bc now).isUsed id=(id == bc.id || s.shared.isUsed id) :=
    isUsed_saveCode (s := { s.shared with clock := now }) hrow rfl
  have hlog (id : ℕ) := acceptances_append_accepted s.log w id bc.id
  -- only the others still carry codes
  have hcarr (v : W) (bc' : TwoFABackupCode)
      (hv : ((s.advance w (marked s.shared bc now,.use copy,[.accepted bc.id])).phase v).Carries bc') :
      (s.phase v).Carries bc' := by
    by_cases hvw : v=w
    · rw [hvw,advance_phase_self] at hv
      exact hv.elim
    · rwa [advance_phase_of_ne s _ hvw] at hv
  refine ⟨?_,?_,?_⟩
  · intro v bc' hv
    obtain ⟨row,hmem,hid⟩ := h.carried v bc' (hcarr v bc' hv)
    refine ⟨_,mem_map_of_mem hmem,?_⟩
    dsimp only
    split
    next heq => rw [← hid,heq]
    · exact hid
  · intro v bc' hv hbc
    replace hbc : (marked s.shared bc now).isUsed bc'.id=true := hbc
    show acceptances (s.log++[(w,.accepted bc.id)]) bc'.id≠[]
    rw [hlog]
    by_cases heq : bc'.id=bc.id
    · simp [heq]
    rw [hused,beq_false_of_ne heq,Bool.false_or] at hbc
    simp [heq,h.unused v bc' (hcarr v bc' hv) hbc]
  · intro id hid
    replace hid : acceptances (s.log++[(w,.accepted bc.id)]) id≠[] := hid
    show (marked s.shared bc now).isUsed id=true
    rw [hused]
    by_cases heq : id=bc.id
    · simp [heq]
    rw [hlog,if_neg heq,append_nil] at hid
    rw [h.accepted id hid,Bool.or_true]
end

variable {s t : System W}
lemma Linked.other [DecidableEq W] (h : Linked s)
    (hcds : r.1.codes=s.shared.codes) (heven : ∀ id, Event.accepted id∉r.2.2)
    (hcr : ∀ bc, r.2.1.Carries bc → (s.phase w).Carries bc ∨ (bc∈s.shared.codes.rows ∧ bc.isUsed=false)) :
    Linked (s.advance w r) := by
  have hlog (id : ℕ) : acceptances (s.advance w r).log id=acceptances s.log id :=
    acceptances_append_of_not_mem (heven id)
  have hused (id : ℕ) : (s.advance w r).shared.isUsed id=s.shared.isUsed id := isUsed_congr hcds id
  have hold (v : W) (bc : TwoFABackupCode) (hv : ((s.advance w r).phase v).Carries bc) :
      (s.phase v).Carries bc ∨ (bc∈s.shared.codes.rows ∧ bc.isUsed=false) := by
    by_cases hvw : v=w
    · rw [hvw,advance_phase_self] at hv
      rw [hvw]
      exact hcr bc hv
    · rw [advance_phase_of_ne s r hvw] at hv
      exact .inl hv
  refine ⟨?_,?_,?_⟩
  · intro v bc hv
    show ∃ row∈r.1.codes.rows, row.id=bc.id
    rw [hcds]
    rcases hold v bc hv with hcarr | ⟨hmem,-⟩
    · exact h.carried v bc hcarr
    · exact ⟨bc,hmem,rfl⟩
  · intro v bc hv hbc
    rw [hused] at hbc
    rw [hlog]
    rcases hold v bc hv with hcarr | ⟨hmem,hunus⟩
    · exact h.unused v bc hcarr hbc
    rw [not_isUsed_of_mem hmem hunus] at hbc
    cases hbc
  · intro id hid
    rw [hlog] at hid
    rw [hused]
    exact h.accepted id hid

lemma Linked.step [DecidableEq W] {code : W → String} (h : Linked s)
    (hstep : step env code s (w,now)=some t) : Linked t ∧ Effect s w t := by
  obtain ⟨r,hnext,rfl⟩ := step_eq_some.mp hstep
  obtain ⟨-,hstmt⟩ := next_eq_some.mp hnext
  rcases stmt_codes hstmt with ⟨copy,bc,hphase,rfl⟩ | ⟨hcds,heven,hphase,hcarr⟩
  · exact ⟨h.mark hphase,h.effect_mark hphase⟩
  exact ⟨h.other hcds heven hcarr,.other hphase (isUsed_congr hcds)
    fun id => acceptances_append_of_not_mem (heven id)⟩

lemma Effect.acceptedOnce_iff (h : Linked s) (heff : Effect s w t)
    (honce : AcceptedOnce s.log) : AcceptedOnce t.log ↔ Unspent s (w,now) := by
  cases heff with
  | mark copy bc hphase hused hlog =>
    have hcarr : (s.phase w).Carries bc := hphase ▸ rfl
    have hunspent : Unspent s (w,now) ↔ s.shared.isUsed bc.id=false := by
      constructor
      · intro hun
        exact hun copy bc hphase
      · intro hfls copy' bc' hphs'
        cases hphase.symm.trans hphs'
        exact hfls
    rw [hunspent]
    constructor
    · intro honc'
      apply Bool.eq_false_iff.mpr
      intro hspn
      have hone := length_pos_iff.mpr (h.unused w bc hcarr hspn)
      have htwo := honc' bc.id
      rw [hlog,if_pos rfl,length_append,length_singleton] at htwo
      omega
    · intro hfree id
      rw [hlog]
      by_cases hid : id=bc.id
      · have hnone : acceptances s.log id=[] := by
          by_contra hne
          rw [hid] at hne
          rw [h.accepted bc.id hne] at hfree
          cases hfree
        rw [hnone,if_pos hid]
        exact Nat.le_refl 1
      · rw [if_neg hid,append_nil]
        exact honce id
  | other hphase hused hlog =>
    constructor
    · intro _ copy bc hmark
      exact absurd hmark (hphase copy bc)
    · intro _ id
      rw [hlog]
      exact honce id

lemma Effect.isUsed (heff : Effect s w t) (h : s.shared.isUsed id=true) : t.shared.isUsed id=true := by
  cases heff with
  | mark copy bc hphase hused hlog => rw [hused,h,Bool.or_true]
  | other hphase hused hlog => rw [hused,h]

lemma linked_start (s₀ : Tables) : Linked (Interleave.start s₀ .idle : System W) where
  carried _ _ h := h.elim
  unused _ _ h := h.elim
  accepted _ h := absurd rfl h

section
variable [DecidableEq W] {env : Env} {code : W → String} {s t : System W} {as : List (W × ℤ)}
lemma isUsed_of_exec (hlink : Linked s) (hexec : exec (step env code) s as=some t) (h : s.shared.isUsed id=true) :
    t.shared.isUsed id=true := by
  induction as generalizing s with
  | nil =>
    cases hexec
    exact h
  | cons a as ih =>
    obtain ⟨u,hu,htail⟩ := Option.bind_eq_some_iff.mp hexec
    obtain ⟨hlnk',heff⟩ := hlink.step hu
    exact ih hlnk' htail (heff.isUsed h)

lemma linked_of_exec (hlink : Linked s) (hexec : exec (step env code) s as=some t) : Linked t := by
  induction as generalizing s with
  | nil =>
    cases hexec
    exact hlink
  | cons a as ih =>
    obtain ⟨u,hu,htail⟩ := Option.bind_eq_some_iff.mp hexec
    exact ih (hlink.step hu).1 htail

/-- Along a run every code is accepted at most once exactly when no code is saved that is already
marked used; and a code marked used stays so in any run. -/
theorem backup_accepted_once_iff (s₀ : Tables) {as : List (W × ℤ)} {t : System W}
    (hexec : exec (step env code) (Interleave.start s₀ .idle) as=some t) :
    ((∀ done u, done <+: as → exec (step env code) (Interleave.start s₀ .idle) done=some u → AcceptedOnce u.log) ↔
      Runs (step env code) Unspent (Interleave.start s₀ .idle) as t) ∧
    ∀ done u, done <+: as → exec (step env code) (Interleave.start s₀ .idle) done=some u →
      ∀ id, u.shared.isUsed id=true → t.shared.isUsed id=true := by
  constructor
  · have hiff : (∀ done u, done <+: as → exec (step env code) (Interleave.start s₀ .idle) done=some u →
        Linked u ∧ AcceptedOnce u.log) ↔ Runs (step env code) Unspent (Interleave.start s₀ .idle) as t := by
      refine always_iff ?_ hexec ⟨linked_start s₀,fun _ => Nat.zero_le 1⟩
      rintro s ⟨w,now⟩ t ⟨hlink,honce⟩ hstep
      obtain ⟨hlnk',heff⟩ := hlink.step hstep
      rw [← heff.acceptedOnce_iff hlink honce]
      exact and_iff_right hlnk'
    rw [← hiff]
    constructor
    · intro h done u hdone hu
      exact ⟨linked_of_exec (linked_start s₀) hu,h done u hdone hu⟩
    · intro h done u hdone hu
      exact (h done u hdone hu).2
  · rintro done u ⟨rest,rfl⟩ hu id hused
    rw [exec_append,hu,Option.bind_some] at hexec
    exact isUsed_of_exec (linked_of_exec (linked_start s₀) hu) hexec hused
end

def plainHash : Env where
  validate _ _ _ := false
  matchesHash code hash := code == hash
  toUpper := Char.toUpper
  format _ := ""

def oneCode : Tables :=
  ⟨some ⟨"secret",true,0,none,none⟩,⟨[⟨1,"ABCD-EFGH",false,none⟩],by decide⟩,0⟩

def present : List (Fin 2 × ℤ) → Option (System (Fin 2)) :=
  exec (step plainHash fun _ => "abcd-efgh") (Interleave.start oneCode .idle)

def inTurn : List (Fin 2 × ℤ) := List.replicate 7 (0,1)++List.replicate 6 (1,2)

instance (s : System (Fin 2)) (a : Fin 2 × ℤ) : Decidable (Unspent s a) :=
  match h : s.phase a.1 with
  | .mark t bc =>
    if hused : s.shared.isUsed bc.id=false then
      isTrue fun t' bc' h' => by
        cases h.symm.trans h'
        exact hused
    else isFalse fun hunspent => hused (hunspent t bc h)
  | .idle | .lock _ _ | .compareTOTP _ | .find _ | .compareBackup _ _ | .increment _ _ | .save _ _ | .use _
  | .saveUse _ | .done _ => isTrue fun t' bc' h' => by cases h.symm.trans h'

theorem second_refused :
    ∃ s, present inTurn=some s ∧ AcceptedOnce s.log ∧ s.phase 0=.done .loggedIn ∧
      s.phase 1=.done (.refused "验证码或备用码错误，请重试") := by
  obtain ⟨s,hs,hruns,hphas⟩ := checked_run (step plainHash fun _ => "abcd-efgh") Unspent (Interleave.start oneCode .idle) inTurn
    (fun s => s.phase 0=.done .loggedIn ∧ s.phase 1=.done (.refused "验证码或备用码错误，请重试")) (by decide +kernel)
  exact ⟨s,hs,(backup_accepted_once_iff oneCode hs).1.mpr hruns inTurn s prefix_rfl hs,hphas⟩

def together : List (Fin 2 × ℤ) :=
  List.replicate 4 (0,1)++List.replicate 4 (1,1)++List.replicate 3 (0,2)++List.replicate 3 (1,2)

theorem both_logged_in :
    ∃ s, present together=some s ∧ s.phase 0=.done .loggedIn ∧ s.phase 1=.done .loggedIn ∧
      acceptances s.log 1=[(0,.accepted 1),(1,.accepted 1)] := exists_of_any (by decide +kernel)
end AronaApi.SecondFactor
