import AronaApi.Batch.Conservation

/-! Batched updates refine immediate ones: a `batchUpdate` that starts after the last change runs to its
end and leaves every counter as the immediate updates would have. Only the time at which a token was
last accessed tells the two databases apart. -/
namespace AronaApi.Batch
open Schedule List Interleave Counter
variable {W : Type*} {batchUpdateEnabled : Bool} {jobs : W → Job}
lemma BatchUpdateType.mem_all (type : BatchUpdateType) : type∈BatchUpdateType.all := by
  cases type <;> decide

/-- The stores that a `batchUpdate` has been to, found empty or swapped for empty ones. -/
def Emptied (stores : Stores) : Phase → Prop
  | .checking left | .swapping left _ => ∀ type, type∈left ∨ (stores type).keys = ∅
  | .tokens _ _ | .channels _ _ | .users _ _ | .done _ => ∀ type, (stores type).keys = ∅
  | .idle | .counting => True

lemma Emptied.mono {stores stores' : Stores} {p : Phase} (h : Emptied stores p)
    (hstor : ∀ type, (stores type).keys = ∅ → (stores' type).keys = ∅) : Emptied stores' p := by
  cases p with
  | checking | swapping => exact fun type => (h type).imp_right (hstor type)
  | tokens | channels | users | done => exact fun type => hstor type (h type)
  | idle | counting => trivial

variable {s : Shared} {now : ℤ} {key : ℕ} {p : Phase} {r : Shared × Phase}
lemma keys_batchUpdate (h : batchUpdate s now key p=some r) (type : BatchUpdateType) (hemp : (s.stores type).keys = ∅) :
    (r.1.stores type).keys = ∅ := by
  cases p with
  | swapping left stores =>
    cases left with
    | nil =>
      cases h
      exact hemp
    | cons type' left =>
      cases h
      show (Function.update s.stores type' .empty type).keys = ∅
      rw [Function.update_apply]
      split
      · rfl
      · exact hemp
  | checking left =>
    cases left <;> cases h <;> exact hemp
  | tokens | channels | users =>
    simp only [batchUpdate] at h
    split at h
    · cases h
      exact hemp
    split at h
    · cases h
      exact hemp
    · cases h
  | idle =>
    cases h
    exact hemp
  | counting | done => cases h

lemma Emptied.batchUpdate (hp : Emptied s.stores p) (h : Batch.batchUpdate s now key p=some r) :
    Emptied r.1.stores r.2 := by
  have hmono := hp.mono (keys_batchUpdate h)
  cases p with
  | idle =>
    cases h
    exact fun type => .inl type.mem_all
  | counting | done => cases h
  | checking left =>
    cases left with
    | nil =>
      cases h
      exact fun type => (hmono type).resolve_left not_mem_nil
    | cons type left =>
      cases h
      show Emptied s.stores (if _ then _ else _)
      split
      next hemp =>
        intro type'
        rcases hp type' with hmem | hkeys
        · rcases mem_cons.mp hmem with rfl | hleft
          · exact .inr hemp
          · exact .inl hleft
        · exact .inr hkeys
      · exact fun type' => .inl type'.mem_all
  | swapping left stores =>
    cases left with
    | nil =>
      cases h
      exact fun type => (hmono type).resolve_left not_mem_nil
    | cons type left =>
      cases h
      intro type'
      rcases hmono type' with hmem | hkeys
      · rcases mem_cons.mp hmem with rfl | hleft
        · right
          simp
        · exact .inl hleft
      · exact .inr hkeys
  | tokens | channels | users =>
    simp only [Batch.batchUpdate] at h
    split at h
    · cases h
      exact hmono
    split at h
    · cases h
      exact hmono
    · cases h

section
variable [DecidableEq W] {w : W} {s t : Sys W}
/-- `w` can come to its end by steps of its own. -/
def Ends (batchUpdateEnabled : Bool) (jobs : W → Job) (w : W) (s : Sys W) : Prop :=
  ∃ as t, (∀ a∈as, a.1=w) ∧ exec (step batchUpdateEnabled jobs) s as=some t ∧ t.phase w=.done none

lemma ends_of_batchUpdate (now : ℤ) (key : ℕ) (hjob : jobs w=.batchUpdate)
    (hphase : s.phase w=p) (hr : batchUpdate s.shared now key p=some r)
    (h : ∀ t : Sys W, t.phase w=r.2 → Ends batchUpdateEnabled jobs w t) : Ends batchUpdateEnabled jobs w s := by
  have hstep : step batchUpdateEnabled jobs s (w,⟨now,key⟩)=some (s.advance w (r.1,r.2,[])) := by
    apply step_eq_some.mpr
    refine ⟨(r.1,r.2,[]),?_,rfl⟩
    rw [hjob,hphase]
    simp [next,hr]
  obtain ⟨as,t,has,hexec,hdone⟩ := h (s.advance w (r.1,r.2,[])) (advance_phase_self s w _)
  refine ⟨(w,⟨now,key⟩)::as,t,?_,?_,hdone⟩
  · exact forall_mem_cons.mpr ⟨rfl,has⟩
  · rw [exec,hstep]
    exact hexec

lemma ends_of_loop {ι : Type*} (keys : ι → Finset ℕ) (p : ι → Phase) (erase : ι → ℕ → ι) {last : Phase}
    {visit : Shared → ι → ℕ → Shared} (hjob : jobs w=.batchUpdate)
    (herase : ∀ i key, keys (erase i key)=(keys i).erase key)
    (hloop : ∀ s i key, batchUpdate s 0 key (p i)=if keys i = ∅ then some (s,last)
      else if key∈keys i then some (visit s i key,p (erase i key)) else none)
    (hend : ∀ t : Sys W, t.phase w=last → Ends batchUpdateEnabled jobs w t) (i : ι) (s : Sys W)
    (hphase : s.phase w=p i) : Ends batchUpdateEnabled jobs w s := by
  induction hn : (keys i).card generalizing i s with
  | zero => exact ends_of_batchUpdate 0 0 hjob hphase ((hloop _ _ _).trans (if_pos (Finset.card_eq_zero.mp hn))) hend
  | succ n ih =>
    have hne : (keys i).Nonempty := Finset.card_pos.mp (by omega)
    obtain ⟨key,hkey⟩ := hne
    have hvst := ((hloop s.shared i key).trans (if_neg (Finset.ne_empty_of_mem hkey))).trans (if_pos hkey)
    refine ends_of_batchUpdate 0 key hjob hphase hvst fun t ht => ih (erase i key) t ht ?_
    rw [herase,Finset.card_erase_of_mem hkey,hn]
    rfl

lemma ends_done (h : s.phase w=.done none) : Ends batchUpdateEnabled jobs w s := ⟨[],s,nofun,rfl,h⟩

section
variable (hjob : jobs w=.batchUpdate)
include hjob
lemma ends_users (stores : Stores) (left : Finset ℕ) (s : Sys W)
    (hphase : s.phase w=.users left stores) : Ends batchUpdateEnabled jobs w s :=
  ends_of_loop (fun left => left) (.users · stores) Finset.erase hjob (fun _ _ => rfl) (fun _ _ _ => rfl)
    (fun _ => ends_done) left s hphase

lemma ends_channels (stores : Stores) (left : GoMap ℕ ℤ) (s : Sys W)
    (hphase : s.phase w=.channels left stores) : Ends batchUpdateEnabled jobs w s :=
  ends_of_loop GoMap.keys (.channels · stores) GoMap.erase hjob (fun _ _ => rfl) (fun _ _ _ => rfl)
    (ends_users hjob _ _) left s hphase

lemma ends_tokens (stores : Stores) (left : GoMap ℕ ℤ) (s : Sys W)
    (hphase : s.phase w=.tokens left stores) : Ends batchUpdateEnabled jobs w s :=
  ends_of_loop GoMap.keys (.tokens · stores) GoMap.erase hjob (fun _ _ => rfl) (fun _ _ _ => rfl)
    (ends_channels hjob _ _) left s hphase

lemma ends_swapping (left : List BatchUpdateType) (stores : Stores) (s : Sys W)
    (hphase : s.phase w=.swapping left stores) : Ends batchUpdateEnabled jobs w s := by
  induction left generalizing stores s with
  | nil => exact ends_of_batchUpdate 0 0 hjob hphase rfl fun t ht => ends_tokens hjob _ _ t ht
  | cons type left ih => exact ends_of_batchUpdate 0 0 hjob hphase rfl fun t ht => ih _ t ht

lemma ends_checking (left : List BatchUpdateType) (s : Sys W)
    (hphase : s.phase w=.checking left) : Ends batchUpdateEnabled jobs w s := by
  induction left generalizing s with
  | nil => exact ends_of_batchUpdate 0 0 hjob hphase rfl fun t ht => ends_done ht
  | cons type left ih =>
    refine ends_of_batchUpdate 0 0 hjob hphase rfl fun t ht => ?_
    simp only at ht
    split at ht
    · exact ih t ht
    · exact ends_swapping hjob _ _ t ht

lemma ends_idle (hphase : s.phase w=.idle) : Ends batchUpdateEnabled jobs w s :=
  ends_of_batchUpdate 0 0 hjob hphase rfl fun t ht => ends_checking hjob _ t ht
end
end

section
def Job.records : Job → Phase → List Record
  | .call c,.done _ => c.records
  | .call c,.counting => c.records.take 1
  | _,_ => []

lemma records_next {job : Job} {a : Act} {r : Shared × Phase × List Record}
    (h : next batchUpdateEnabled job s p a=some r) : job.records r.2.1=job.records p++r.2.2 := by
  cases job with
  | call c =>
    obtain ⟨op,hop,rfl⟩ := Option.map_eq_some_iff.mp h
    cases does_of_stmt hop with
    | refuse hrecords | only _ hrecords | write hrecords => exact hrecords
    | first | second => rfl
  | batchUpdate =>
    obtain ⟨r',-,rfl⟩ := Option.map_eq_some_iff.mp h
    rfl

variable [DecidableEq W] {s t : Sys W}
def Traced (jobs : W → Job) (s : Sys W) : Prop :=
  ∀ w, s.log.filter (fun e => e.1=w)=((jobs w).records (s.phase w)).map (Prod.mk w)

lemma traced_start (db : Database) : Traced jobs (start db) := by
  intro w
  cases hjob : jobs w <;> rfl

lemma Traced.step {a : W × Act} (h : Traced jobs s) (hstep : Batch.step batchUpdateEnabled jobs s a=some t) :
    Traced jobs t := by
  obtain ⟨w,act⟩ := a
  obtain ⟨r,hnext,rfl⟩ := step_eq_some.mp hstep
  intro v
  rw [filter_log_advance,h v]
  split
  next hv =>
    rw [hv,advance_phase_self,records_next hnext,map_append]
  next hv => rw [advance_phase_of_ne s r hv,append_nil]
end

section
def Phase.isDirect : Phase → Bool
  | .idle | .checking _ | .done _ => true
  | _ => false

structure Direct (s : Sys W) : Prop where
  stores : ∀ type, (s.shared.stores type).keys = ∅
  phases : ∀ w, (s.phase w).isDirect=true

lemma direct_start (db : Database) : Direct (start db : Sys W) := ⟨fun _ => rfl,fun _ => rfl⟩

lemma direct_next {job : Job} {a : Act} {r : Shared × Phase × List Record}
    (hstor : ∀ type, (s.stores type).keys = ∅) (hp : p.isDirect=true) (h : next false job s p a=some r) :
    (∀ type, (r.1.stores type).keys = ∅) ∧ r.2.1.isDirect=true := by
  cases job with
  | call c =>
    obtain ⟨op,hop,rfl⟩ := Option.map_eq_some_iff.mp h
    cases does_of_stmt hop with
    | refuse | write => exact ⟨hstor,rfl⟩
    | only henabled | first henabled => cases henabled
    | second => cases hp
  | batchUpdate =>
    obtain ⟨r',hr',rfl⟩ := Option.map_eq_some_iff.mp h
    refine ⟨fun type => keys_batchUpdate hr' type (hstor type),?_⟩
    cases p with
    | idle =>
      cases hr'
      rfl
    | checking left =>
      cases left with
      | nil =>
        cases hr'
        rfl
      | cons type left =>
        cases hr'
        show Phase.isDirect (if _ then _ else _)=true
        rw [if_pos (hstor type)]
        rfl
    | done => cases hr'
    | _ => cases hp

variable [DecidableEq W] {s t : Sys W}
lemma Direct.step {a : W × Act} (h : Direct s) (hstep : Batch.step false jobs s a=some t) : Direct t := by
  obtain ⟨w,act⟩ := a
  obtain ⟨r,hnext,rfl⟩ := step_eq_some.mp hstep
  obtain ⟨hstor,hphase⟩ := direct_next h.stores (h.phases w) hnext
  refine ⟨hstor,?_⟩
  exact forall_phase_advance (fun _ (p : Phase) => p.isDirect=true) (fun _ (p : Phase) => p.isDirect=true) h.phases hphase
    fun _ _ hv => hv

omit [DecidableEq W] in
lemma Direct.noOverflow (h : Direct s) (a : W × Act) : NoOverflow batchUpdateEnabled jobs s a := by
  intro c op _ _
  cases op with
  | add r p =>
    intro hkey
    rw [h.stores] at hkey
    cases hkey
  | _ => trivial
end

section
def Phase.isUnderWay : Phase → Bool
  | .idle | .done _ => false
  | _ => true

def Phase.isDone : Phase → Bool
  | .done _ => true
  | _ => false

def Database.withoutTimes (db : Database) : Database :=
  { db with tokens := fun id => (db.tokens id).map fun t => { t with accessedTime := 0 } }

lemma withoutTimes_ext {db db' : Database} (h : ∀ c id, db.value c id=db'.value c id) :
    db.withoutTimes=db'.withoutTimes := by
  have husr : db.users=db'.users := by
    funext id
    have hqt := h .userQuota id
    have hused := h .userUsedQuota id
    have hcnt := h .requestCount id
    simp only [Database.value] at hqt hused hcnt
    cases hu : db.users id <;> cases hu' : db'.users id <;> simp_all
    next u u' => cases u; cases u'; simp_all
  have htok : db.withoutTimes.tokens=db'.withoutTimes.tokens := by
    funext id
    have hrem := h .remainQuota id
    have hused := h .tokenUsedQuota id
    simp only [Database.value,Database.withoutTimes] at hrem hused ⊢
    cases ht : db.tokens id <;> cases ht' : db'.tokens id <;> simp_all
  have hchan : db.channels=db'.channels := by
    funext id
    have hused := h .channelUsedQuota id
    simp only [Database.value] at hused
    cases hc : db.channels id <;> cases hc' : db'.channels id <;> simp_all
    next c c' => cases c; cases c'; simp_all
  unfold Database.withoutTimes at htok ⊢
  simp only at htok
  rw [husr,htok,hchan]

lemma recorded_perm {rs rs' : List Record} (h : rs.Perm rs') (type : BatchUpdateType) (id : ℕ) :
    recorded type id rs=recorded type id rs' := (h.map _).sum_eq

variable [Fintype W] {s t : Sys W} {db : Database}
lemma Conserved.settled (h : Conserved db True s) (hheld : ∀ w type id, (s.phase w).held type id=0)
    (hstor : ∀ type, (s.shared.stores type).keys = ∅) (c : Counter) (id : ℕ) :
    s.shared.db.value c id=(db.value c id).map (·+c.recordedIn id s.log) := by
  obtain ⟨k,hvl,hk⟩ := h.value c id
  rw [hvl,hk trivial,swappedOut,inStores,GoMap.get_of_keys_eq_empty (hstor _)]
  simp [hheld]

lemma held_of_not_isUnderWay (h : p.isUnderWay=false) (type : BatchUpdateType) (id : ℕ) : p.held type id=0 := by
  cases p with
  | idle | done => rfl
  | _ => cases h

lemma held_of_isDirect (h : p.isDirect=true) (type : BatchUpdateType) (id : ℕ) : p.held type id=0 := by
  cases p with
  | idle | checking | done => rfl
  | _ => cases h

lemma records_call {c : Call} (h : p≠.counting) :
    (Job.call c).records p=if p.isDone then c.records else [] := by
  cases p with
  | counting => exact absurd rfl h
  | _ => rfl

variable [DecidableEq W]
omit [Fintype W] in
lemma perm_log (hs : Traced jobs s) (ht : Traced jobs t) (hover : ∀ v, (s.phase v).isUnderWay=false)
    (hdir : ∀ v, (t.phase v).isDirect=true)
    (hsame : ∀ v c, jobs v=.call c → (t.phase v).isDone=(s.phase v).isDone) : s.log.Perm t.log := by
  apply perm_of_filter_log
  intro v
  rw [hs v,ht v]
  congr 1
  cases hjob : jobs v with
  | batchUpdate => rfl
  | call c =>
    have hnot : s.phase v≠.counting := fun hp => absurd (hp ▸ hover v) (by decide)
    have hnot' : t.phase v≠.counting := fun hp => absurd (hp ▸ hdir v) (by decide)
    rw [records_call hnot,records_call hnot',hsame v c hjob]

/-- For every run in which no addition in a store overflows: what is stored, taken out and not yet
written, and in the database of a counter is its initial value and what was recorded; and a
`batchUpdate` that starts after the last record can come to its end, and leaves, when nothing else is
under way, the database that any run of the same calls without batch updates leaves. -/
theorem batched_refines_immediate {before : List (W × Act)} {u : Sys W}
    (hbefore : Runs (step true jobs) (NoOverflow true jobs) (start db) before u) :
    (∀ c id v₀, db.value c id=some v₀ → ∃ v, u.shared.db.value c id=some v ∧
      v+c.swappedOut id u+c.inStores id u=v₀+c.recordedIn id u.log) ∧
    ∀ w, jobs w=.batchUpdate → u.phase w=.idle → Ends true jobs w u ∧
      ∀ during s, (∀ a∈during, jobs a.1=.batchUpdate) → exec (step true jobs) u during=some s →
        (s.phase w).isDone=true → (∀ v, (s.phase v).isUnderWay=false) →
        ∀ direct t, exec (step false jobs) (start db) direct=some t →
          (∀ v c, jobs v=.call c → (t.phase v).isDone=(s.phase v).isDone) →
          s.shared.db.withoutTimes=t.shared.db.withoutTimes := by
  have hcons : Conserved db True u :=
    hbefore.invariant (Conserved db True) (fun _ _ _ hs hok hstep => hs.step (fun _ => hok) hstep) (conserved_start db)
  refine ⟨?_,fun w hjob hidle => ⟨ends_idle hjob hidle,?_⟩⟩
  · intro c id v₀ hv₀
    obtain ⟨k,hvl,hk⟩ := hcons.value c id
    rw [hv₀,hk trivial] at hvl
    refine ⟨_,hvl,?_⟩
    ring
  · intro during s hdur hexec hdone hover direct t hdir hsame
    have hrun : Runs (step true jobs) (fun _ a => jobs a.1=.batchUpdate) u during s :=
      runs_of_exec hexec fun _ a ha => hdur a ha
    -- a batch update records nothing, so nothing overflows
    have hs : Conserved db True s := by
      refine hrun.invariant (Conserved db True) (fun s a t hs hbtc hstep => hs.step (fun _ c op hc => ?_) hstep) hcons
      rw [hbtc] at hc
      cases hc
    have hempt : Emptied s.shared.stores (s.phase w) := by
      refine hrun.invariant (fun s => Emptied s.shared.stores (s.phase w)) ?_ (by rw [hidle]; trivial)
      rintro s ⟨v,act⟩ t hs hbtc hstep
      obtain ⟨r,hnext,rfl⟩ := step_eq_some.mp hstep
      rw [hbtc] at hnext
      obtain ⟨r',hr',rfl⟩ := Option.map_eq_some_iff.mp hnext
      by_cases hv : w=v
      · subst hv
        rw [advance_phase_self]
        exact hs.batchUpdate hr'
      · rw [advance_phase_of_ne _ _ hv]
        exact hs.mono (keys_batchUpdate hr')
    have hstor : ∀ type, (s.shared.stores type).keys = ∅ := by
      cases hp : s.phase w with
      | done error =>
        rw [hp] at hempt
        exact hempt
      | _ =>
        rw [hp] at hdone
        cases hdone
    have htrac : Traced jobs s := by
      have hu : Traced jobs u :=
        hbefore.invariant (Traced jobs) (fun _ _ _ hs _ hstep => hs.step hstep) (traced_start db)
      exact hrun.invariant (Traced jobs) (fun _ _ _ hs _ hstep => hs.step hstep) hu
    have himm : Runs (step false jobs) (fun _ _ => True) (start db) direct t := runs_of_exec hdir fun _ _ _ => trivial
    have ht : Direct t ∧ Conserved db True t :=
      himm.invariant (fun t => Direct t ∧ Conserved db True t)
        (fun _ a _ hs _ hstep => ⟨hs.1.step hstep,hs.2.step (fun _ => hs.1.noOverflow a) hstep⟩)
        ⟨direct_start db,conserved_start db⟩
    have httr : Traced jobs t := himm.invariant (Traced jobs) (fun _ _ _ hs _ hstep => hs.step hstep) (traced_start db)
    apply withoutTimes_ext
    intro c id
    rw [hs.settled (fun v => held_of_not_isUnderWay (hover v)) hstor,
      ht.2.settled (fun v => held_of_isDirect (ht.1.phases v)) ht.1.stores]
    have hperm := perm_log htrac httr hover ht.1.phases hsame
    rw [recordedIn,recordedIn,recorded_perm (hperm.map Prod.snd)]
end

instance (stores : Stores) (op : Op) : Decidable (op.Fits stores) :=
  match op with
  | .add r _ => inferInstanceAs (Decidable (r.id∈(stores r.type).keys →
      -2^63≤(stores r.type).get r.id+r.delta ∧ (stores r.type).get r.id+r.delta<2^63))
  | .fail _ | .write _ _ => isTrue trivial

instance (batchUpdateEnabled : Bool) (jobs : W → Job) (s : Sys W) (a : W × Act) :
    Decidable (NoOverflow batchUpdateEnabled jobs s a) :=
  match hjob : jobs a.1 with
  | .batchUpdate => isTrue fun c op hc => by
      rw [hjob] at hc
      cases hc
  | .call c =>
    match hop : c.stmt batchUpdateEnabled a.2.now (s.phase a.1) with
    | none => isTrue fun c' op hc hop' => by
        cases hjob.symm.trans hc
        rw [hop] at hop'
        cases hop'
    | some op =>
      if hfits : op.Fits s.shared.stores then isTrue fun c' op' hc hop' => by
        cases hjob.symm.trans hc
        cases hop.symm.trans hop'
        exact hfits
      else isFalse fun h => hfits (h c op hjob hop)

def smallDatabase : Database where
  users id := if id=1 then some ⟨100,0,0⟩ else none
  tokens id := if id=1 then some ⟨10,0,0⟩ else none
  channels _ := none

def smallJobs : Fin 3 → Job
  | 0 => .call (.increaseTokenQuota 1 5)
  | 1 => .call (.updateUserUsedQuotaAndRequestCount 1 7)
  | 2 => .batchUpdate

def smallCalls : List (Fin 3 × Act) := [(0,⟨1,0⟩),(1,⟨1,0⟩),(1,⟨1,0⟩)]

/-- The flush at time 9; both loops that have something to visit visit the id 1. -/
def smallFlush : List (Fin 3 × Act) := List.replicate 14 (2,⟨9,1⟩)

theorem flush_refines_immediate : ∃ u s t, exec (step true smallJobs) (start smallDatabase) smallCalls=some u ∧
    exec (step true smallJobs) u smallFlush=some s ∧
    exec (step false smallJobs) (start smallDatabase) [(0,⟨1,0⟩),(1,⟨1,0⟩)]=some t ∧
    s.shared.db.withoutTimes=t.shared.db.withoutTimes ∧ s.shared.db.users 1=some ⟨100,7,1⟩ := by
  obtain ⟨u,hu,hruns,hnot,hnotD,hflush⟩ := checked_run (step true smallJobs) (NoOverflow true smallJobs)
    (start smallDatabase) smallCalls (fun u => (u.phase 2).isUnderWay=false ∧ (u.phase 2).isDone=false ∧
      ((exec (step true smallJobs) u smallFlush).any fun s => decide (s.shared.db.users 1=some ⟨100,7,1⟩ ∧
        (s.phase 2).isDone=true ∧ (∀ v, (s.phase v).isUnderWay=false) ∧ ∀ v, (s.phase v).isDone=true))=true) (by decide +kernel)
  obtain ⟨s,hs,hrow,hdone,hover,hall⟩ := exists_of_any hflush
  obtain ⟨t,ht,hfrs,hsec⟩ : ∃ t, exec (step false smallJobs) (start smallDatabase) [(0,⟨1,0⟩),(1,⟨1,0⟩)]=some t ∧
    (t.phase 0).isDone=true ∧ (t.phase 1).isDone=true := exists_of_any (by decide +kernel)
  have hphase : u.phase 2=.idle := by
    cases hp : u.phase 2 with
    | idle => rfl
    | done =>
      rw [hp] at hnotD
      cases hnotD
    | _ =>
      rw [hp] at hnot
      cases hnot
  refine ⟨u,s,t,hu,hs,ht,?_,hrow⟩
  refine ((batched_refines_immediate hruns).2 2 rfl hphase).2 smallFlush s ?_ hs hdone hover _ t ht ?_
  · intro a ha
    rw [eq_of_mem_replicate ha]
    rfl
  · intro v c hv
    rw [hall v]
    match v with
    | 0 => exact hfrs
    | 1 => exact hsec
    | 2 => cases hv

/-- The flush sets the time of its own write, and an addition in a store can overflow. -/
theorem batched_differs :
    ((exec (step true smallJobs) (start smallDatabase) (smallCalls++smallFlush)).map fun s => s.shared.db.tokens 1) =
      some (some ⟨15,-5,9⟩) ∧
    ((exec (step false smallJobs) (start smallDatabase) [(0,⟨1,0⟩),(1,⟨1,0⟩)]).map fun t => t.shared.db.tokens 1) =
      some (some ⟨15,-5,1⟩) ∧
    ((exec (step true fun _ : Fin 2 => .call (.increaseTokenQuota 1 (2^62))) (start smallDatabase) [(0,⟨1,0⟩),(1,⟨1,0⟩)]).map
      fun u => (u.shared.db.value .remainQuota 1,remainQuota.swappedOut 1 u,remainQuota.inStores 1 u,
        remainQuota.recordedIn 1 u.log))=some (some 10,0,-2^63,2^63) := by refine ⟨?_,?_,?_⟩ <;> decide +kernel
end AronaApi.Batch
