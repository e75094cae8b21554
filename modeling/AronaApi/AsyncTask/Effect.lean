import AronaApi.AsyncTask.Workers

/-! What one step of a worker can do, said once. A step either leaves the row and the log alone, or
is one of a few writes and billing calls; every invariant of the task system is a case analysis
over `Effect` and never looks into `next`. -/
namespace AronaApi.AsyncTask
open Phase

def Phase.owing : Phase → Bool
  | .settling _ _ | .refunding _ => true
  | _ => false

/-- The worker has refunded a task whose `FAILURE` it has not stored yet. -/
def Phase.unsaved : Phase → Bool
  | .sunoSave _ _ r => r
  | _ => false

/-- What a worker knows about its own copies, whatever happened to the row since. -/
def Phase.Sound : Phase → Prop
  | .sweeping task | .polled task => ¬task.status.Terminal
  | .videoStore snap task shouldRefund shouldSettle => ¬snap.status.Terminal ∧
      (shouldRefund=true ↔ task.status=.failure ∧ task.quota≠0) ∧
      (shouldSettle=true ↔ task.status=.success)
  | .fetchStore snap task => task.submitTime=snap.submitTime
  | .sunoSave task _ refunded => refunded=true ↔ task.status=.failure
  | .settling _ thenRefund => thenRefund=false
  | _ => True

/-- All copies the worker carries stand for the charge `c`. -/
def Phase.Carries (c : Fund × ℤ) : Phase → Prop
  | .idle | .done => True
  | .sweeping task | .polled task | .fetching task | .settling task _ | .refunding task
  | .sunoItems task _ | .sunoRefund task _ | .sunoSave task _ _ => task.charge=c
  | .videoStore snap task _ _ | .fetchStore snap task => snap.charge=c ∧ task.charge=c

def Phase.fetchCopy : Phase → Option Task
  | .fetching task | .fetchStore task _ => some task
  | _ => none

variable {cfg : Config} {r : SunoDataResponse} {p : Phase} {task : Task}
lemma applyTaskResult_spec {task' : Task} {r : TaskInfo} {now : ℤ} {shouldRefund shouldSettle : Bool}
    (h : applyTaskResult cfg task r now=some (task',shouldRefund,shouldSettle)) : task'.charge=task.charge ∧
      (shouldRefund=true ↔ task'.status=.failure ∧ task'.quota≠0) ∧ (shouldSettle=true ↔ task'.status=.success) := by
  unfold applyTaskResult at h
  cases hr : r.status <;> simp only [hr] at h <;> try cases h
  all_goals
    by_cases hp : r.progress = "" <;> simp [hp,Task.charge,Task.fund]

lemma applySunoResponse_unrefunded
    (h : (applySunoResponse task r).2=false) : (applySunoResponse task r).1.status≠.failure := by
  simp only [applySunoResponse,Bool.or_eq_false_iff,decide_eq_false_iff_not] at h ⊢
  exact h.2

inductive Effect (cfg : Config) (row : Task) : Phase → Act → Task → Phase → List Event → Prop
  -- queries, answers, failed statements and updates that match no row
  | silent {p p' : Phase} {a : Act} (free : p.owing=false ∧ p.unsaved=false)
      (free' : p'.owing=false ∧ p'.unsaved=false)
      (sound : p'.Sound) (carries : ∀ c, row.charge=c → p.Carries c → p'.Carries c)
      (copied : ∀ t, p'.fetchCopy=some t → t=row ∨ p.fetchCopy=some t) :
      Effect cfg row p a row p' []
  | swept {task : Task} {now : ℤ} (matched : row.status=task.status) :
      Effect cfg row (.sweeping task) (.store now false) (timeOut cfg task now)
        (if ¬task.IsLegacy ∧ task.quota≠0 then .refunding (timeOut cfg task now) else .done)
        [.wrote row.status .failure]
  | stored {snap task : Task} {r s : Bool} {now : ℤ} (matched : row.status=snap.status) :
      Effect cfg row (.videoStore snap task r s) (.store now false) task (billingPhase task r s)
        [.wrote row.status task.status]
  | fetched {snap task : Task} {now : ℤ} (matched : row.status=snap.status) :
      Effect cfg row (.fetchStore snap task) (.store now false) task .done
        [.wrote row.status task.status]
  | bulk {task : Task} {a : Act} (reason : Option String)
      (ha : a=.nullUpstream false ∨ a=.channelMissing false) :
      Effect cfg row (.polled task) a (row.taskBulkUpdateByID reason) .done [.wrote row.status .failure]
  | saved {task : Task} {rest : List SunoDataResponse} {r : Bool} {now : ℤ} :
      Effect cfg row (.sunoSave task rest r) (.store now false) task (.sunoItems task rest)
        [.wrote row.status task.status]
  | saveFailed {task : Task} {rest : List SunoDataResponse} {r : Bool} {now : ℤ} :
      Effect cfg row (.sunoSave task rest r) (.store now true) row (.sunoItems task rest) []
  | prepaid {task : Task} {rest : List SunoDataResponse} {ok : Bool} :
      Effect cfg row (.sunoRefund task rest) (.bill ok) row (.sunoSave task rest true)
        [refundTaskQuota task ok]
  | settled {task : Task} {ok : Bool} :
      Effect cfg row (.settling task false) (.bill ok) row .done [.settled]
  | refunded {task : Task} {ok : Bool} :
      Effect cfg row (.refunding task) (.bill ok) row .done [refundTaskQuota task ok]

lemma storeVideoTask_cases (row : Task) {snap : Task} {r s : Bool} (error : Bool)
    (h : (videoStore snap task r s).Sound) : (error=false ∧ row.status=snap.status ∧
        storeVideoTask row snap task r s error=((task,true),r,s)) ∨
      storeVideoTask row snap task r s error=((row,false),false,false) := by
  obtain ⟨hsnap,hr,hs⟩ := h
  have hqt : ¬(task.status.Terminal ∧ snap.status≠task.status) → r=false ∧ s=false := by
    intro hn
    have ht : ¬task.status.Terminal := fun ht => hn ⟨ht,fun he => hsnap (he ▸ ht)⟩
    constructor
    · exact Bool.eq_false_iff.mpr fun hc => ht (.inl (hr.mp hc).1)
    · exact Bool.eq_false_iff.mpr fun hc => ht (.inr (hs.mp hc))
  unfold storeVideoTask
  by_cases hd : task.status.Terminal ∧ snap.status≠task.status
  · rcases row.updateWithStatus_cases task snap.status with ⟨hm,hres⟩ | hres
    · cases error <;> simp [hd,hm,hres]
    · cases error <;> simp [hd,hres]
  obtain ⟨rfl,rfl⟩ := hqt hd
  by_cases he : snap.snapshot=task.snapshot
  · simp [hd,he]
  rcases row.updateWithStatus_cases task snap.status with ⟨hm,hres⟩ | hres
  · cases error <;> simp [hd,he,hm,hres]
  · cases error <;> simp [hd,he,hres]

lemma Effect.stop {row : Task} {a : Act} (free : p.owing=false ∧ p.unsaved=false) : Effect cfg row p a row .done [] :=
  .silent free ⟨rfl,rfl⟩ trivial (fun _ _ _ => trivial) (by simp [fetchCopy])

variable {row row' task snap : Task} {p' : Phase} {now : ℤ} {error : Bool} {ev : List Event} {a : VideoAnswer}
lemma effect_sweep (h : next cfg row (.sweeping task) (.store now error)=some (row',p',ev)) :
    Effect cfg row (.sweeping task) (.store now error) row' p' ev := by
  cases error with
  | true => cases h; exact .stop ⟨rfl,rfl⟩
  | false =>
    rcases row.updateWithStatus_cases (timeOut cfg task now) task.status with ⟨hm,hres⟩ | hres
    · simp only [next,hres,written,Bool.false_eq_true,if_false,if_true,true_and,Option.some.injEq,Prod.mk.injEq] at h
      obtain ⟨rfl,rfl,rfl⟩ := h
      exact .swept hm
    simp only [next,hres,written,Bool.false_eq_true,if_false,false_and,Option.some.injEq,Prod.mk.injEq] at h
    obtain ⟨rfl,rfl,rfl⟩ := h
    exact .stop ⟨rfl,rfl⟩

lemma effect_videoAnswer (hp : (polled task).Sound)
    (h : next cfg row (.polled task) (.answer a now)=some (row',p',ev)) :
    Effect cfg row (.polled task) (.answer a now) row' p' ev := by
  simp only [next,Option.ite_none_right_eq_some] at h
  obtain ⟨-,h⟩ := h
  cases a with
  | unavailable => cases h; exact .stop ⟨rfl,rfl⟩
  | body r e data =>
    simp only at h
    split at h
    next => cases h; exact .stop ⟨rfl,rfl⟩
    next task' shouldRefund shouldSettle hres =>
    cases h
    obtain ⟨r',-,hr'⟩ := Option.bind_eq_some_iff.mp hres
    obtain ⟨hchar,hflg⟩ := applyTaskResult_spec hr'
    exact .silent ⟨rfl,rfl⟩ ⟨rfl,rfl⟩ ⟨hp,hflg⟩ (fun c _ hc => ⟨hc,hchar.trans hc⟩)
      (by simp [fetchCopy])

lemma effect_videoStore {r s : Bool} (hp : (videoStore snap task r s).Sound)
    (h : next cfg row (.videoStore snap task r s) (.store now error)=some (row',p',ev)) :
    Effect cfg row (.videoStore snap task r s) (.store now error) row' p' ev := by
  rcases storeVideoTask_cases row error hp with ⟨rfl,hm,hres⟩ | hres
  · simp only [next,hres,written,if_true,Option.some.injEq,Prod.mk.injEq] at h
    obtain ⟨rfl,rfl,rfl⟩ := h
    exact .stored hm
  simp only [next,hres,written,billingPhase,Bool.false_eq_true,if_false,Option.some.injEq,Prod.mk.injEq] at h
  obtain ⟨rfl,rfl,rfl⟩ := h
  exact .stop ⟨rfl,rfl⟩

lemma effect_sunoNext {rest : List SunoDataResponse}
    (h : next cfg row (.sunoItems task (r::rest)) .sunoNext=some (row',p',ev)) :
    Effect cfg row (.sunoItems task (r::rest)) .sunoNext row' p' ev := by
  simp only [next] at h
  split at h
  next =>
    cases hres : (applySunoResponse task r).2 with
    | true =>
      simp only [hres] at h
      cases h
      exact .silent ⟨rfl,rfl⟩ ⟨rfl,rfl⟩ trivial (fun _ _ hc => hc) (by simp [fetchCopy])
    | false =>
      simp only [hres] at h
      cases h
      exact .silent ⟨rfl,rfl⟩ ⟨rfl,rfl⟩ (by simpa [Phase.Sound] using applySunoResponse_unrefunded hres)
        (fun _ _ hc => hc) (by simp [fetchCopy])
  next =>
    cases h
    exact .silent ⟨rfl,rfl⟩ ⟨rfl,rfl⟩ trivial (fun _ _ hc => hc) (by simp [fetchCopy])

lemma effect_fetchAnswer (h : next cfg row (.fetching task) (.answer a now)=some (row',p',ev)) :
    Effect cfg row (.fetching task) (.answer a now) row' p' ev := by
  cases a with
  | unavailable => cases h; exact .stop ⟨rfl,rfl⟩
  | body r e data =>
    simp only [next] at h
    split at h
    next =>
      cases h
      exact .silent ⟨rfl,rfl⟩ ⟨rfl,rfl⟩ rfl (fun _ _ hc => ⟨hc,hc⟩) (fun t ht => .inr ht)
    next => cases h; exact .stop ⟨rfl,rfl⟩

lemma effect_fetchStore (h : next cfg row (.fetchStore snap task) (.store now error)=some (row',p',ev)) :
    Effect cfg row (.fetchStore snap task) (.store now error) row' p' ev := by
  cases error with
  | true => cases h; exact .stop ⟨rfl,rfl⟩
  | false =>
    rcases row.updateWithStatus_cases task snap.status with ⟨hm,hres⟩ | hres
    · simp only [next,hres,written,Bool.false_eq_true,if_false,if_true,Option.some.injEq,Prod.mk.injEq] at h
      obtain ⟨rfl,rfl,rfl⟩ := h
      exact .fetched hm
    simp only [next,hres,written,Bool.false_eq_true,if_false,Option.some.injEq,Prod.mk.injEq] at h
    obtain ⟨rfl,rfl,rfl⟩ := h
    exact .stop ⟨rfl,rfl⟩

lemma next_effect {a : Act}
    (hp : p.Sound) (h : next cfg row p a=some (row',p',ev)) : Effect cfg row p a row' p' ev := by
  unfold next at h
  split at h
  case h_1 now =>
    simp only [Option.ite_none_right_eq_some,Option.some.injEq,Prod.mk.injEq] at h
    obtain ⟨⟨-,hload,-⟩,rfl,rfl,rfl⟩ := h
    exact .silent ⟨rfl,rfl⟩ ⟨rfl,rfl⟩ hload.2 (fun _ hc _ => hc) (by simp [fetchCopy])
  case h_2 task now error => exact effect_sweep h
  case h_3 =>
    simp only [Option.ite_none_right_eq_some,Option.some.injEq,Prod.mk.injEq] at h
    obtain ⟨hload,rfl,rfl,rfl⟩ := h
    exact .silent ⟨rfl,rfl⟩ ⟨rfl,rfl⟩ hload.2 (fun _ hc _ => hc) (by simp [fetchCopy])
  case h_4 task error =>
    obtain ⟨-,h⟩ := Option.ite_none_right_eq_some.mp h
    cases error with
    | true => cases h; exact .stop ⟨rfl,rfl⟩
    | false => cases h; exact .bulk none (.inl rfl)
  case h_5 task error =>
    obtain ⟨-,h⟩ := Option.ite_none_right_eq_some.mp h
    cases error with
    | true => cases h; exact .stop ⟨rfl,rfl⟩
    | false => cases h; exact .bulk _ (.inr rfl)
  case h_6 task a now => exact effect_videoAnswer hp h
  case h_7 snap task shouldRefund shouldSettle now error => exact effect_videoStore hp h
  case h_8 task items =>
    simp only [Option.ite_none_right_eq_some,Option.some.injEq,Prod.mk.injEq] at h
    obtain ⟨-,rfl,rfl,rfl⟩ := h
    exact .silent ⟨rfl,rfl⟩ ⟨rfl,rfl⟩ trivial (fun _ _ hc => hc) (by simp [fetchCopy])
  case h_9 task r rest => exact effect_sunoNext h
  case h_10 task rest fundingOk => cases h; exact .prepaid
  case h_11 task rest r now error =>
    cases error with
    | true => cases h; exact .saveFailed
    | false => cases h; exact .saved
  case h_12 =>
    cases h
    exact .silent ⟨rfl,rfl⟩ ⟨rfl,rfl⟩ trivial (fun _ hc _ => hc)
      (fun t ht => .inl (Option.some.inj ht).symm)
  case h_13 task a now => exact effect_fetchAnswer h
  case h_14 snap task now error => exact effect_fetchStore h
  case h_15 task thenRefund fundingOk =>
    obtain rfl : thenRefund=false := hp
    cases h
    exact .settled
  case h_16 task fundingOk => cases h; exact .refunded
  case h_17 => cases h
end AronaApi.AsyncTask
