import AronaApi.Stream.Goroutines

/-! Whether the main goroutine notices that a stream has ended. Each loop that is left sends one value to the stop
channel. The scanner sends one again for a value that it takes; the ping loop does not. -/
namespace AronaApi.Stream
open FairRun State Run Run.LeadsTo

def Ended (s : State) : Prop :=
  s.scanner=.closing ∨ s.scanner=.sending ∨ s.scanner=.exited ∨ s.handler=.sending ∨ s.handler=.exited

def Undisturbed (a : Action) : Prop := a≠.tick ∧ a≠.clientLeaves

variable {s t : State} {a : Action}
lemma step_eq_some (h : step s a=some t) : s.main=.waiting ∧ guard s a ∧ t=effect s a := by
  unfold step at h
  split at h
  next hg =>
    cases h
    exact ⟨hg.1,hg.2,rfl⟩
  · cases h

lemma step_isSome (hmain : s.main=.waiting) (hgrd : guard s a) : (step s a).isSome := by
  rw [step,if_pos ⟨hmain,hgrd⟩]
  rfl

@[simp] lemma handleLine_frame (s : State) : (handleLine s).main=s.main ∧ (handleLine s).ping=s.ping ∧
    (handleLine s).handler=s.handler ∧ (handleLine s).stopChan=s.stopChan ∧
    (handleLine s).clientDone=s.clientDone ∧ (handleLine s).ticked=false := by
  unfold handleLine
  split <;> exact ⟨rfl,rfl,rfl,rfl,rfl,rfl⟩

lemma handleLine_scanner (s : State) : (handleLine s).scanner≠.exited := by
  unfold handleLine
  split <;> exact fun h => nomatch h

def exits (s : State) : ℕ :=
  (if s.ping=.exited then 1 else 0)+(if s.handler=.exited then 1 else 0)+if s.scanner=.exited then 1 else 0

structure Calm (s : State) : Prop where
  main : s.main=.waiting ∨ s.main=.stopped
  ticked : s.ticked=false
  clientDone : s.clientDone=false
  stopChan : s.stopChan≤exits s

lemma calm_init (pingEnabled : Bool) : Calm (init pingEnabled) := by refine ⟨.inl rfl,rfl,rfl,Nat.zero_le _⟩

def sent : Action → ℕ
  | .pingSendsStop | .handlerSendsStop | .scannerSendsStop => 1
  | _ => 0

def taken : Action → ℕ
  | .mainStops | .pingTakesStop | .scannerTakesStop => 1
  | _ => 0

lemma stopChan_step (h : step s a=some t) : t.stopChan+taken a=s.stopChan+sent a := by
  obtain ⟨-,hgrd,rfl⟩ := step_eq_some h
  cases a <;> simp_all [guard,effect,taken,sent] <;> omega

lemma exits_step (h : step s a=some t) : exits s+sent a≤exits t := by
  obtain ⟨-,hgrd,rfl⟩ := step_eq_some h
  clear h
  cases a <;> grind [guard,effect,exits,sent,handleLine_frame,handleLine_scanner]

lemma main_step (h : step s a=some t) :
    t.main=.waiting ∨ (a=.mainStops ∧ t.main=.stopped) ∨ s.ticked=true ∨ s.clientDone=true := by
  obtain ⟨hmain,hgrd,rfl⟩ := step_eq_some h
  cases a <;> simp_all [guard,effect]

lemma Calm.step (h : Calm s) (ha : Undisturbed a) (hstep : step s a=some t) : Calm t where
  main := by
    obtain hwait | ⟨-,hstop⟩ | htick | hcli := main_step hstep
    · exact .inl hwait
    · exact .inr hstop
    · exact absurd (h.ticked.symm.trans htick) Bool.false_ne_true
    · exact absurd (h.clientDone.symm.trans hcli) Bool.false_ne_true
  ticked := by
    have htick := h.ticked
    obtain ⟨-,-,rfl⟩ := step_eq_some hstep
    cases a <;> simp_all [effect,Undisturbed]
  clientDone := by
    have hcli := h.clientDone
    obtain ⟨-,-,rfl⟩ := step_eq_some hstep
    cases a <;> simp_all [effect,Undisturbed]
  stopChan := by
    have hstop := h.stopChan
    have htok := stopChan_step hstep
    have hext := exits_step hstep
    omega

lemma scanner_step (h : step s a=some t) : (s.scanner=.closing → t.scanner=.closing ∨ a=.scannerCloses) ∧
      (s.scanner=.sending → t.scanner=.sending ∨ a=.scannerSendsStop) ∧
      (s.scanner=.exited → t.scanner=.exited) ∧ (a=.scannerTakesStop → t.scanner=.closing) := by
  obtain ⟨-,hgrd,rfl⟩ := step_eq_some h
  clear h
  cases a <;> grind [guard,effect]

lemma handler_step (h : step s a=some t) : s.handler=.sending → t.handler=.sending ∨ a=.handlerSendsStop := by
  obtain ⟨-,hgrd,rfl⟩ := step_eq_some h
  clear h
  cases a <;> grind [guard,effect,handleLine_frame]

lemma ended_step (h : step s a=some t) (ht : Ended t) : Ended s ∨ t.scanner=.closing ∨ t.handler=.sending := by
  unfold Ended at ht ⊢
  obtain ⟨-,hgrd,rfl⟩ := step_eq_some h
  clear h
  cases a <;> grind [guard,effect,handleLine]

def Pending (s : State) : Prop :=
  s.scanner=.closing ∨ s.scanner=.sending ∨ s.handler=.sending ∨ 0<s.stopChan

def LeavesStop (a : Action) : Prop := Undisturbed a ∧ a≠.pingTakesStop

/-- In a state that nothing disturbs, the end of a loop is on its way or has been seen. -/
def Announced (s : State) : Prop := Calm s ∧ (s.main=.waiting → Ended s → Pending s)

lemma stopChan_stays (ha : LeavesStop a) (h : step s a=some t) (hpos : 0<s.stopChan) :
    0<t.stopChan ∨ a=.mainStops ∨ t.scanner=.closing := by
  have htok := stopChan_step h
  by_cases htkn : taken a=0
  · left
    omega
  right
  unfold taken at htkn
  split at htkn
  · exact .inl rfl
  · exact absurd rfl ha.2
  · exact .inr ((scanner_step h).2.2.2 rfl)
  · exact absurd rfl htkn

lemma Announced.step (h : Announced s) (ha : LeavesStop a) (hstep : step s a=some t) : Announced t := by
  refine ⟨h.1.step ha.1 hstep,fun hmain hend => ?_⟩
  have hwait := (step_eq_some hstep).1
  obtain hscan | hclos | hsend := ended_step hstep hend
  · obtain hclos | hsend | hhand | hstop := h.2 hwait hscan
    · obtain hstay | rfl := (scanner_step hstep).1 hclos
      · exact .inl hstay
      rw [(step_eq_some hstep).2.2]
      exact .inr (.inl rfl)
    · obtain hstay | rfl := (scanner_step hstep).2.1 hsend
      · exact .inr (.inl hstay)
      rw [(step_eq_some hstep).2.2]
      exact .inr (.inr (.inr (Nat.succ_pos _)))
    · obtain hstay | rfl := handler_step hstep hhand
      · exact .inr (.inr (.inl hstay))
      rw [(step_eq_some hstep).2.2]
      exact .inr (.inr (.inr (Nat.succ_pos _)))
    · obtain hpos | rfl | hclos := stopChan_stays ha hstep hstop
      · exact .inr (.inr (.inr hpos))
      · rw [(step_eq_some hstep).2.2] at hmain
        cases hmain
      · exact .inl hclos
  · exact .inl hclos
  · exact .inr (.inr (.inl hsend))

lemma announced_init (pingEnabled : Bool) : Announced (init pingEnabled) := by
  refine ⟨calm_init pingEnabled,fun _ hend => ?_⟩
  unfold Ended init at hend
  simp at hend

lemma Calm.stopChan_lt (h : Calm s) (hleft : s.scanner≠.exited ∨ s.handler≠.exited) : s.stopChan<stopCap := by
  have hstop := h.stopChan
  unfold exits at hstop
  unfold stopCap
  obtain hscan | hhand := hleft
  · rw [if_neg hscan] at hstop
    split at hstop <;> split at hstop <;> omega
  · rw [if_neg hhand] at hstop
    split at hstop <;> split at hstop <;> omega

variable {r : Run step}
def Stopped (s : State) : Prop := s.main=.stopped

def Waits (P : State → Prop) (s : State) : Prop := Calm s ∧ s.main=.waiting ∧ P s

lemma leadsTo_stop {P Q : State → Prop} (hfair : r.Fair a) (hok : r.Only LeavesStop) (ha : LeavesStop a)
    (hnext : r.LeadsTo (Waits Q) Stopped) (henabled : ∀ s, Waits P s → guard s a)
    (heff : ∀ s, Waits P s → Stopped (effect s a) ∨ Q (effect s a))
    (hstep : ∀ s b t, Waits P s → LeavesStop b → b≠a → step s b=some t → P t ∨ Q t) : r.LeadsTo (Waits P) Stopped := by
  have hwts : ∀ s b t, Waits P s → LeavesStop b → step s b=some t → ¬Stopped t → Calm t ∧ t.main=.waiting := by
    intro s b t hs hb h hstop
    have hcalm := hs.1.step hb.1 h
    exact ⟨hcalm,hcalm.main.resolve_right hstop⟩
  have hfrs : ∀ s t, Waits P s → step s a=some t → Stopped t ∨ Waits Q t := by
    intro s t hs h
    by_cases hstop : Stopped t
    · exact .inl hstop
    obtain ⟨hcalm,hmain⟩ := hwts s a t hs ha h hstop
    have ht := (step_eq_some h).2.2
    subst t
    exact .inr ⟨hcalm,hmain,(heff s hs).resolve_left hstop⟩
  refine trans (leadsTo_of_fair hfair hok ?_ hfrs ?_) ((of_imp fun _ => id).or hnext)
  · exact fun s hs => step_isSome hs.2.1 (henabled s hs)
  · intro s b t hs hb h
    by_cases hba : b=a
    · subst b
      exact .inr (hfrs s t hs h)
    by_cases hstop : Stopped t
    · exact .inr (.inl hstop)
    obtain ⟨hcalm,hmain⟩ := hwts s b t hs hb h hstop
    obtain hp | hq := hstep s b t hs hb hba h
    · exact .inl ⟨hcalm,hmain,hp⟩
    · exact .inr (.inr ⟨hcalm,hmain,hq⟩)

section
variable (hfair : ∀ a, Own a → r.Fair a) (hok : r.Only LeavesStop)
include hfair hok
lemma arrived_leadsTo : r.LeadsTo (Waits fun s => s.scanner=.exited ∧ 0<s.stopChan) Stopped := by
  apply leadsTo_stop (hfair .mainStops trivial) hok ⟨⟨nofun,nofun⟩,nofun⟩ (Q := fun _ => False)
  · exact of_imp fun s hs => hs.2.2.elim
  · exact fun s hs => hs.2.2.2
  · exact fun s _ => .inl rfl
  · intro s b t hs hb hne hstep
    have hexit := (scanner_step hstep).2.2.1 hs.2.2.1
    obtain hpos | hmain | hclos := stopChan_stays hb hstep hs.2.2.2
    · exact .inl ⟨hexit,hpos⟩
    · exact absurd hmain hne
    · rw [hexit] at hclos
      cases hclos

lemma sending_leadsTo : r.LeadsTo (Waits fun s => s.scanner=.sending) Stopped := by
  apply leadsTo_stop (hfair .scannerSendsStop trivial) hok ⟨⟨nofun,nofun⟩,nofun⟩ (arrived_leadsTo hfair hok)
  · exact fun s hs => ⟨hs.2.2,hs.1.stopChan_lt (.inl (by rw [hs.2.2]; exact nofun))⟩
  · exact fun s _ => .inr ⟨rfl,Nat.succ_pos _⟩
  · exact fun s b t hs _ hne hstep => .inl (((scanner_step hstep).2.1 hs.2.2).resolve_right hne)

lemma closing_leadsTo : r.LeadsTo (Waits fun s => s.scanner=.closing) Stopped := by
  apply leadsTo_stop (hfair .scannerCloses trivial) hok ⟨⟨nofun,nofun⟩,nofun⟩ (sending_leadsTo hfair hok)
  · exact fun s hs => hs.2.2
  · exact fun s _ => .inr rfl
  · exact fun s b t hs _ hne hstep => .inl (((scanner_step hstep).1 hs.2.2).resolve_right hne)

lemma stopChan_leadsTo : r.LeadsTo (Waits fun s => 0<s.stopChan) Stopped := by
  apply leadsTo_stop (hfair .mainStops trivial) hok ⟨⟨nofun,nofun⟩,nofun⟩ (closing_leadsTo hfair hok)
  · exact fun s hs => hs.2.2
  · exact fun s _ => .inl rfl
  · intro s b t hs hb hne hstep
    obtain hpos | hmain | hclos := stopChan_stays hb hstep hs.2.2
    · exact .inl hpos
    · exact absurd hmain hne
    · exact .inr hclos

lemma handler_leadsTo : r.LeadsTo (Waits fun s => s.handler=.sending) Stopped := by
  apply leadsTo_stop (hfair .handlerSendsStop trivial) hok ⟨⟨nofun,nofun⟩,nofun⟩ (stopChan_leadsTo hfair hok)
  · exact fun s hs => ⟨hs.2.2,hs.1.stopChan_lt (.inr (by rw [hs.2.2]; exact nofun))⟩
  · exact fun s _ => .inr (Nat.succ_pos _)
  · exact fun s b t hs _ hne hstep => .inl ((handler_step hstep hs.2.2).resolve_right hne)

lemma ended_leadsTo {pingEnabled : Bool} (h₀ : r.state 0=init pingEnabled) : r.LeadsTo Ended Stopped := by
  intro n hend
  have hann : Announced (r.state n) :=
    invariant hok (fun s a t hs ha h => hs.step ha h) (h₀ ▸ announced_init pingEnabled) n
  obtain ⟨hcalm,hpending⟩ := hann
  obtain hwait | hstop := hcalm.main
  · obtain hclos | hsend | hhand | hpos := hpending hwait hend
    · exact closing_leadsTo hfair hok n ⟨hcalm,hwait,hclos⟩
    · exact sending_leadsTo hfair hok n ⟨hcalm,hwait,hsend⟩
    · exact handler_leadsTo hfair hok n ⟨hcalm,hwait,hhand⟩
    · exact stopChan_leadsTo hfair hok n ⟨hcalm,hwait,hpos⟩
  · exact ⟨n,le_rfl,hstop⟩
end

lemma leavesStop_of_off (hok : r.Only Undisturbed) (h₀ : r.state 0=init false) : r.Only LeavesStop := by
  have hoff : ∀ n, (r.state n).ping=.off := by
    apply invariant hok (P := fun s => s.ping=.off)
    · intro s a t hs _ h
      obtain ⟨-,hgrd,rfl⟩ := step_eq_some h
      clear h
      cases a <;> simp_all [guard,effect]
    · rw [h₀]
      rfl
  intro n a ha
  refine ⟨hok n a ha,?_⟩
  rintro rfl
  have hnext := r.next n
  rw [ha] at hnext
  obtain ⟨-,⟨hping,-⟩,-⟩ := step_eq_some hnext
  rw [hoff n] at hping
  obtain hping | hping := hping <;> cases hping

/-- The data handler stops the stream, and the ping loop takes the value that should tell the main goroutine; the
scanner waits for the body. -/
def stolen : List Action :=
  [.scans "data: x",.scannerGoesOn,.scannerDelivers,.handlerReceives,.handlerStops,.handlerSendsStop,.pingTakesStop]

def stolenEnd : State := ⟨.waiting,.exited,.exited,.scanning,"x",0,[],false,false,false⟩

lemma exec_stolen : Schedule.exec step (init true) stolen=some stolenEnd := by decide +kernel

lemma stolen_waits (n : ℕ) : ((ofSchedule exec_stolen).state n).main=.waiting := by
  obtain hn | hn := Nat.lt_or_ge n 7
  · have hall : ∀ n<7, ((Schedule.exec step (init true) (stolen.take n)).getD stolenEnd).main=.waiting := by
      decide +kernel
    exact hall n hn
  · rw [ofSchedule_state exec_stolen hn]
    rfl

lemma stolen_fair (ha : Own a) : (ofSchedule exec_stolen).Fair a := by
  apply ofSchedule_fair
  cases a <;> first | rfl | exact ha.elim

lemma stolen_undisturbed : (ofSchedule exec_stolen).Only Undisturbed := by
  have hall : ∀ a∈stolen, a≠.tick ∧ a≠.clientLeaves := by decide
  intro n a ha
  exact hall a (List.mem_of_getElem? ha)

/-- In fair runs that neither the timeout nor the client ends, the end of the stream is noticed if the ping loop
takes no value from the stop channel; and it is always noticed exactly when there is no ping loop. -/
theorem end_noticed_iff (pingEnabled : Bool) :
    (∀ r : Run step, r.state 0=init pingEnabled → (∀ a, Own a → r.Fair a) → r.Only LeavesStop →
        r.LeadsTo Ended Stopped) ∧
      ((∀ r : Run step, r.state 0=init pingEnabled → (∀ a, Own a → r.Fair a) → r.Only Undisturbed →
        r.LeadsTo Ended Stopped) ↔ pingEnabled=false) := by
  refine ⟨fun r h₀ hfair hok => ended_leadsTo hfair hok h₀,?_⟩
  constructor
  · intro hall
    by_contra hping
    rw [Bool.not_eq_false] at hping
    subst pingEnabled
    have hend : (ofSchedule exec_stolen).state 7=stolenEnd := ofSchedule_state exec_stolen (le_refl 7)
    have hended : Ended ((ofSchedule exec_stolen).state 7) := by
      rw [hend]
      exact .inr (.inr (.inr (.inr rfl)))
    obtain ⟨m,-,hstop⟩ := hall (ofSchedule exec_stolen) rfl (fun a => stolen_fair) stolen_undisturbed 7 hended
    rw [Stopped,stolen_waits m] at hstop
    cases hstop
  · rintro rfl r h₀ hfair hok
    exact ended_leadsTo hfair (leavesStop_of_off hok h₀) h₀

/-- A fair run in which the data handler stops the stream and the main goroutine waits for ever. -/
theorem stop_stolen :
    ∃ r : Run step, r.state 0=init true ∧ (∀ a, Own a → r.Fair a) ∧ r.Only Undisturbed ∧
      (∃ n, r.act n=some .handlerStops) ∧ ∀ n, (r.state n).main=.waiting :=
  ⟨ofSchedule exec_stolen,rfl,fun _ => stolen_fair,stolen_undisturbed,⟨4,rfl⟩,stolen_waits⟩

/-! The data on their way through the loops. -/

def payload (line : String) : List String :=
  match classify line with
  | .data text => [text]
  | _ => []

/-- What the scanner has in hand. -/
def State.held (s : State) : List String :=
  match s.scanner with
  | .checking => payload s.text
  | .delivering => [s.text]
  | _ => []

/-- The data of the lines that were read, those that the data handler was called with, and whether the scanner has left
its loop for a stop or for a client that is gone. -/
structure Trace where
  state : State
  read : List String := []
  handed : List String := []
  stopped : Bool := false

/-- An action that is not enabled is passed over. -/
def Trace.next (r : Trace) (a : Action) : Trace :=
  match step r.state a with
  | none => r
  | some t =>
    match a with
    | .scans line => { r with state := t, read := r.read++payload line }
    | .handlerReceives => { r with state := t, handed := r.handed++r.state.dataChan.take 1 }
    | .scannerTakesStop | .scannerSeesClientGone => { r with state := t, stopped := true }
    | _ => { r with state := t }

/-- Only a scanner that was stopped has lost what it had in hand, and it reads no more. -/
def Trace.InOrder (r : Trace) : Prop :=
  (r.stopped=true → r.state.scanner∉[.scanning,.checking,.delivering]) ∧
    ∃ lost, r.read=r.handed++r.state.dataChan++r.state.held++lost ∧ (lost=[] ∨ lost.length=1 ∧ r.stopped=true)

lemma Trace.InOrder.next {r : Trace} (h : r.InOrder) (a : Action) : (r.next a).InOrder := by
  unfold Trace.next
  split
  · exact h
  next t ht =>
  obtain ⟨-,hgrd,rfl⟩ := step_eq_some ht
  obtain ⟨hstop,lost,hread,hlost⟩ := h
  cases a with
  | scannerTakesStop | scannerSeesClientGone =>
    obtain rfl : lost=[] := by grind [guard]
    have hheld : r.state.held=[] ∨ r.state.held.length=1 := by
      unfold held payload
      grind
    exact ⟨fun _ => by simp [effect],_,by simp [hread,effect,held],hheld.imp_right fun h => ⟨h,rfl⟩⟩
  | scannerGoesOn =>
    obtain hrun : r.stopped=false := by grind [guard]
    obtain rfl : lost=[] := by grind
    refine ⟨by simp [hrun],[],?_,.inl rfl⟩
    cases hline : classify r.state.text <;> simp [hread,effect,handleLine,held,payload,hline,hgrd.1]
  | handlerReceives =>
    obtain ⟨text,rest,hchan⟩ := List.exists_cons_of_ne_nil hgrd.2
    exact ⟨hstop,lost,by simp [hread,effect,held,hchan],hlost⟩
  | _ => refine ⟨?_,lost,?_,?_⟩ <;> simp_all [guard,effect,held]

/-- In every interleaving the data handler is called with the data of the lines in their order, each once, and nothing is
lost but what a scanner had in hand when it was told to stop or its client went. -/
theorem data_in_order (pingEnabled : Bool) (as : List Action) :
    (as.foldl Trace.next { state := init pingEnabled }).InOrder :=
  List.foldlRecOn as _ ⟨nofun,[],rfl,.inl rfl⟩ fun _ h a _ => h.next a
end AronaApi.Stream
