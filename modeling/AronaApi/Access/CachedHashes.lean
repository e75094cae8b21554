import Mathlib

/-! The hashes of users and tokens in Redis, command by command (`common/redis.go`, `model/user_cache.go`,
`model/token_cache.go`). A change of a field asks for the time to live of its key in one command and writes in a later
transaction, which creates the hash if it has gone. `F` is the fields of the struct. -/
namespace AronaApi.CachedHashes
open Function List

variable {K F : Type} [DecidableEq K] [DecidableEq F]
structure State (K F : Type) where
  hash : K → Option (F → Option String) := fun _ => none
  -- the field writes whose key had time to live
  checked : List (K × F × (Option String → String)) := []

inductive Command (K F : Type)
  | hSetObj (key : K) (obj : F → String)
  | del (key : K)
  | expire (key : K)
  | ttl (key : K) (field : F) (change : Option String → String)
  | exec (n : ℕ)

def step (s : State K F) : Command K F → State K F
  | .hSetObj key obj => { s with hash := update s.hash key (some fun field => some (obj field)) }
  | .del key | .expire key => { s with hash := update s.hash key none }
  | .ttl key field change =>
    if (s.hash key).isSome then { s with checked := s.checked++[(key,field,change)] } else s
  | .exec n =>
    match s.checked[n]? with
    | none => s
    | some (key,field,change) =>
      let h := (s.hash key).getD fun _ => none
      ⟨update s.hash key (some (update h field (some (change (h field))))),s.checked.eraseIdx n⟩

def Whole (s : State K F) : Prop := ∀ key h, s.hash key=some h → ∀ field, (h field).isSome

/-- A checked write finds its hash when it is carried out. -/
def Finds (s : State K F) : Command K F → Prop
  | .exec n => ∀ write∈s.checked[n]?, (s.hash write.1).isSome
  | _ => True

variable {s : State K F}
omit [DecidableEq F] in
lemma Whole.update (hs : Whole s) {key : K} {o : Option (F → Option String)}
    (ho : ∀ h, o=some h → ∀ field, (h field).isSome) (l) : Whole ⟨update s.hash key o,l⟩ := by
  intro k h hk
  by_cases heq : k=key
  · subst heq
    exact ho h (by simpa using hk)
  · exact hs k h (by simpa [heq] using hk)

lemma whole_step [Nontrivial F] (hs : Whole s) (c : Command K F) : Whole (step s c) ↔ Finds s c := by
  cases c with
  | hSetObj key obj => exact iff_of_true (hs.update (by rintro _ ⟨⟩ _; rfl) _) trivial
  | del key | expire key => exact iff_of_true (hs.update (o := none) nofun _) trivial
  | ttl key field change =>
    refine iff_of_true ?_ trivial
    simp only [step]
    split <;> exact hs
  | exec n =>
    cases hn : s.checked[n]? with
    | none => simpa [step,Finds,hn] using hs
    | some write =>
      obtain ⟨key,field,change⟩ := write
      simp only [step,Finds,hn,Option.mem_def,Option.some.injEq,forall_eq']
      cases hkey : s.hash key with
      | none =>
        obtain ⟨other,hne⟩ := exists_ne field
        refine iff_of_false (fun hw => ?_) Bool.false_ne_true
        simpa [hne] using hw key _ (update_self ..) other
      | some h =>
        refine iff_of_true (hs.update ?_ _) rfl
        rintro _ ⟨⟩ f
        by_cases hf : f=field
        · simp [hf]
        · simpa [hf] using hs key h hkey f

/-- In every run, all that is read is whole iff no field write comes after its hash has gone. -/
theorem whole_iff_found [Nontrivial F] (cs : List (Command K F)) :
    (∀ run, run <+: cs → Whole (run.foldl step ({} : State K F))) ↔
      ∀ run c, run++[c] <+: cs → Finds (run.foldl step ({} : State K F)) c := by
  constructor
  · intro h run c hrun
    have hnext := h _ hrun
    rw [foldl_append] at hnext
    exact (whole_step (h run ((prefix_append ..).trans hrun)) c).mp hnext
  · intro h run
    induction run using reverseRecOn with
    | nil => exact fun _ => nofun
    | append_singleton run c ih =>
      intro hrun
      rw [foldl_append]
      exact (whole_step (ih ((prefix_append ..).trans hrun)) c).mpr (h run c hrun)

inductive UserField
  | id | group | email | quota | status | username | setting
  deriving DecidableEq

/-- A charge that finds its user keeps all fields. -/
theorem charge_kept : Whole ([.hSetObj 1 fun _ => "1",.ttl 1 .quota fun _ => "0",.exec 0].foldl step ({} :
    State ℕ UserField)) := by
  have : Nontrivial UserField := ⟨.id,.group,nofun⟩
  refine (whole_iff_found _).mpr ?_ _ (prefix_refl _)
  rintro (_|⟨_,_|⟨_,_|_⟩⟩) c h <;> simp_all [Finds,step]

/-- A charge that is overtaken by `InvalidateUserCache` leaves a user with a quota and no status. -/
theorem charge_recreates : let cs : List (Command ℕ UserField) :=
      [.hSetObj 1 fun _ => "1",.ttl 1 .quota fun _ => "0",.del 1,.exec 0]
    ((cs.foldl step {}).hash 1).map (fun h => (h .quota,h .status))=some (some "0",none) := rfl
end AronaApi.CachedHashes
