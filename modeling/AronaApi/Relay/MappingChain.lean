import AronaApi.Relay.ModelNames
import Mathlib

/-! The chain of redirections that `ModelMappedHelper` follows. In a `/v1/responses/compact` request its end is
written back as the client's model, and the next attempt of `Relay` starts from there. -/
namespace AronaApi.Relay
open Function GoStd

/-- The name that a name is mapped to; the end of a chain stays where it is. -/
def nextModel (modelMap : List (String × String)) (modelName : String) : String :=
  match modelMap.lookup modelName with
  | none => modelName
  | some mappedModel => if mappedModel = "" then modelName else mappedModel

/-- The loop has ended with the name `last`, which is the client's unless it says that it has mapped. -/
inductive EndsAt (origin last : String) : Except String Redirected → Prop
  | toItself (h : last=origin) : EndsAt origin last (.ok .toItself)
  | to {isModelMapped : Bool} (h : isModelMapped=false → last=origin) : EndsAt origin last (.ok (.to last isModelMapped))

variable {f : String → String} {x : String}
lemma two_le_minimalPeriod {k : ℕ} (hne : f x≠x) (hk : f^[k] (f x)=x) : 2 ≤ minimalPeriod f x := by
  have hper : IsPeriodicPt f (k+1) x := hk
  have hpos := hper.minimalPeriod_pos (Nat.succ_pos k)
  have hone : minimalPeriod f x≠1 := mt minimalPeriod_eq_one_iff_isFixedPt.mp hne
  omega

variable {modelMap : List (String × String)} {origin : String}
lemma followMapping_spec {current : String} {visited : List String}
    (isModelMapped : Bool) (hmapped : isModelMapped=false → current=origin)
    (hvisited : ∀ x∈visited, ∃ k, (nextModel modelMap)^[k] x=current) :
    (∃ n, IsFixedPt (nextModel modelMap) ((nextModel modelMap)^[n] current) ∧
      EndsAt origin ((nextModel modelMap)^[n] current) (followMapping modelMap origin current isModelMapped visited)) ∨
    (∃ n, 2 ≤ minimalPeriod (nextModel modelMap) ((nextModel modelMap)^[n] current)) ∧
      followMapping modelMap origin current isModelMapped visited=.error "model_mapping_contains_cycle" := by
  fun_induction followMapping modelMap origin current isModelMapped visited with
  | case1 _ _ _ h => exact .inl ⟨0,by simp [IsFixedPt,nextModel,h],.to hmapped⟩
  | case2 _ _ _ h => exact .inl ⟨0,by simp [IsFixedPt,nextModel,h],.to hmapped⟩
  | case3 _ _ _ _ h => exact .inl ⟨0,by simp [IsFixedPt,nextModel,h],.toItself rfl⟩
  | case4 _ _ _ _ _ h => exact .inl ⟨0,by simp [IsFixedPt,nextModel,h],.to nofun⟩
  | case5 current _ _ mapped h hempty hin hne =>
    have hnext : nextModel modelMap current=mapped := by simp [nextModel,h,hempty]
    obtain ⟨k,hk⟩ := hvisited mapped hin
    refine .inr ⟨⟨0,two_le_minimalPeriod (k := k) ?_ ?_⟩,rfl⟩
    · exact hnext.trans_ne hne
    · exact hnext.symm ▸ hk
  | case6 current _ visited mapped h hempty _ ih =>
    have hnext : nextModel modelMap current=mapped := by simp [nextModel,h,hempty]
    have hseen : ∀ x∈mapped::visited, ∃ k, (nextModel modelMap)^[k] x=mapped := by
      refine List.forall_mem_cons.mpr ⟨⟨0,rfl⟩,fun x hx => ?_⟩
      obtain ⟨k,hk⟩ := hvisited x hx
      exact ⟨k+1,by rw [iterate_succ_apply',hk,hnext]⟩
    obtain ⟨n,hend⟩ | ⟨⟨n,hcycle⟩,herr⟩ := ih nofun hseen
    · exact .inl ⟨n+1,by rw [iterate_succ_apply,hnext]; exact hend⟩
    · exact .inr ⟨⟨n+1,by rw [iterate_succ_apply,hnext]; exact hcycle⟩,herr⟩

/-- A chain that ends does not reach a cycle. -/
lemma not_cycle_of_end {n m : ℕ} (hend : IsFixedPt f (f^[n] x)) : ¬2 ≤ minimalPeriod f (f^[m] x) := by
  intro hcycle
  have hper : f^[m] x∈periodicPts f := minimalPeriod_pos_iff_mem_periodicPts.mp (by omega)
  have hmeet : f^[n] (f^[m] x)=f^[n] x := by
    rw [← iterate_add_apply,Nat.add_comm,iterate_add_apply]
    exact hend.iterate m
  rw [← minimalPeriod_apply_iterate hper n,hmeet,minimalPeriod_eq_one_iff_isFixedPt.mpr hend] at hcycle
  omega

/-- The helper fails iff the chain reaches a cycle of at least two names. Otherwise it asks the channel for the
last name of the chain, and that is the client's own iff the chain has no further name. -/
theorem mapping_followed {Request : Type} (setModelName : String → Request → Request)
    (modelMap : List (String × String)) (info : ModelNames) (request : Request) (hmode : info.relayMode≠.responsesCompact)
    (hnew : info.upstreamModelName=info.originModelName ∧ info.isModelMapped=false) :
    let next := nextModel modelMap
    let r := modelMappedHelper setModelName (.pairs modelMap) info request
    (r=.error "model_mapping_contains_cycle" ↔ ∃ n, 2 ≤ minimalPeriod next (next^[n] info.originModelName)) ∧
    (r≠.error "model_mapping_contains_cycle" → ∃ n info' request', r=.ok (info',request') ∧
      IsFixedPt next (next^[n] info.originModelName) ∧ info'.upstreamModelName=next^[n] info.originModelName ∧
      (info'.upstreamModelName=info.originModelName ↔ IsFixedPt next info.originModelName)) := by
  intro next r
  obtain ⟨n,hend,hr⟩ | ⟨hcycle,herr⟩ := followMapping_spec false (fun _ => rfl)
    (List.forall_mem_singleton.mpr ⟨0,rfl⟩ : ∀ x∈[info.originModelName], ∃ k, next^[k] x=info.originModelName)
  · have hok : ∃ info' request', r=.ok (info',request') ∧ info'.upstreamModelName=next^[n] info.originModelName := by
      simp only [r,modelMappedHelper,redirect,hmode,if_false]
      revert hr
      generalize followMapping modelMap info.originModelName info.originModelName false [info.originModelName]=x
      rintro (hlast | hlast)
      · exact ⟨_,_,rfl,hnew.1.trans hlast.symm⟩
      next isModelMapped =>
      refine ⟨_,_,rfl,?_⟩
      cases isModelMapped with
      | true => simp [next]
      | false => simp [next,hnew,hlast rfl]
    obtain ⟨info',request',hok,hup⟩ := hok
    refine ⟨?_,fun _ => ⟨n,info',request',hok,hend,hup,?_⟩⟩
    · rw [hok]
      exact iff_of_false (by simp) (·.elim fun _ => not_cycle_of_end hend)
    · rw [hup]
      exact ⟨fun h => h ▸ hend,fun h => h.iterate n⟩
  · have hfail : r=.error "model_mapping_contains_cycle" := by simp [r,modelMappedHelper,redirect,hmode,herr]
    exact ⟨iff_of_true hfail hcycle,fun h => absurd hfail h⟩

theorem two_names_cycle : let modelMap := [("a","b"),("b","a")]
    modelMappedHelper (fun _ r => r) (.pairs modelMap) ⟨.chatCompletions,"a","a",false⟩ () =
      .error "model_mapping_contains_cycle" ∧
    ∃ n, 2 ≤ minimalPeriod (nextModel modelMap) ((nextModel modelMap)^[n] "a") := by
  have herr : modelMappedHelper (fun _ r => r) (.pairs [("a","b"),("b","a")]) ⟨.chatCompletions,"a","a",false⟩ () =
      .error "model_mapping_contains_cycle" := by simp [modelMappedHelper,redirect,followMapping,List.lookup]
  exact ⟨herr,(mapping_followed _ _ ⟨.chatCompletions,"a","a",false⟩ () (by decide) ⟨rfl,rfl⟩).1.mp herr⟩

/-- `InitChannelMeta`, which takes the upstream model from the origin model, and `ModelMappedHelper`. -/
def mapAttempt (originModelName : String) (modelMapping : ModelMapping) : Except String ModelNames :=
  (modelMappedHelper (fun _ request => request) modelMapping
    ⟨.responsesCompact,originModelName,originModelName,false⟩ ()).map Prod.fst

/-- The attempts on channels with these mappings: the model by which the channel is looked up, which the retry
parameter keeps, and the models it is asked for and bills, if its mapping can be followed. -/
def compactAttempts (modelName : String) : String → List ModelMapping → List (String × Except String ModelNames)
  | _,[] => []
  | originModelName,modelMapping::rest =>
    match mapAttempt originModelName modelMapping with
    -- an error of the channel, which is retried in any case
    | .error e => (modelName,.error e)::compactAttempts modelName originModelName rest
    | .ok info => (modelName,.ok info)::compactAttempts modelName info.originModelName rest

/-- The attempts of a client's request, whose model `Distribute` marks with the suffix. -/
def attemptsFor (model : String) : List ModelMapping → List (String × Except String ModelNames) :=
  compactAttempts (withCompactModelSuffix model) (withCompactModelSuffix model)

/-- The mapping has no other name for this one. -/
def ModelMapping.Leaves (modelName : String) : ModelMapping → Prop
  | .unset | .malformed => True
  | .pairs modelMap => nextModel modelMap modelName=modelName

variable {base : String}
lemma trimSuffix_append (s suf : String) : trimSuffix (s++suf) suf=s := by simp [trimSuffix,hasSuffix]

lemma followMapping_of_next_eq (hne : base≠origin) (h : nextModel modelMap base=base) :
    ∃ mapped, followMapping modelMap origin base false [base]=.ok (.to base mapped) := by
  rw [followMapping]
  unfold nextModel at h
  split
  · exact ⟨false,rfl⟩
  next mapped hmap =>
  rw [hmap] at h
  by_cases hempty : mapped = ""
  · exact ⟨false,if_pos hempty⟩
  · obtain rfl : mapped=base := (if_neg hempty).symm.trans h
    exact ⟨true,by simp [hempty,hne]⟩

lemma origin_of_leaves {modelMapping : ModelMapping} (hbase : hasSuffix base compactModelSuffix=false)
    (h : modelMapping.Leaves base) {info : ModelNames}
    (hinfo : mapAttempt (base++compactModelSuffix) modelMapping=.ok info) :
    info.originModelName=base++compactModelSuffix := by
  have hne : base≠base++compactModelSuffix := by
    intro heq
    simpa [compactModelSuffix] using congrArg String.length heq
  cases modelMapping with
  | malformed => cases hinfo
  | unset =>
    cases hinfo
    simp [trimSuffix_append,withCompactModelSuffix,hbase]
  | pairs modelMap =>
    obtain ⟨mapped,hfollow⟩ := followMapping_of_next_eq hne h
    simp only [mapAttempt,modelMappedHelper,redirect,if_true,trimSuffix_append,hfollow] at hinfo
    cases hinfo
    cases mapped <;> simp [withCompactModelSuffix,hbase]

/-- After channels that leave the client's model as it is, an attempt is what it would be as the first one. -/
theorem attempts_independent (hbase : hasSuffix base compactModelSuffix=false) (tried : List ModelMapping)
    (htried : ∀ m∈tried, m.Leaves base) (m : ModelMapping) :
    attemptsFor base (tried++[m])=attemptsFor base tried++attemptsFor base [m] := by
  have hmodel : withCompactModelSuffix base=base++compactModelSuffix := by simp [withCompactModelSuffix,hbase]
  rw [attemptsFor,hmodel]
  induction tried with
  | nil => rfl
  | cons first tried ih =>
    obtain ⟨hfirst,htried⟩ := List.forall_mem_cons.mp htried
    simp only [List.cons_append,compactAttempts] at ih ⊢
    split
    · rw [ih htried,List.cons_append]
    next info hinfo => rw [origin_of_leaves hbase hfirst hinfo,ih htried,List.cons_append]

theorem mapped_after_unmapped : attemptsFor "a" ([.unset]++[.pairs [("a","b")]]) =
    attemptsFor "a" [.unset]++attemptsFor "a" [.pairs [("a","b")]] :=
  attempts_independent (by decide) [.unset] (by simp [ModelMapping.Leaves]) _

/-- A channel without a mapping is asked for, and bills, the name that the channel before it has mapped to. -/
theorem unmapped_after_mapped :
    attemptsFor "a" [.unset]=[("a-openai-compact",.ok ⟨.responsesCompact,"a-openai-compact","a",false⟩)] ∧
    (attemptsFor "a" [.pairs [("a","b")],.unset])[1]? =
      some ("a-openai-compact",.ok ⟨.responsesCompact,"b-openai-compact","b",false⟩) := by
  have ha : withCompactModelSuffix "a"="a"++compactModelSuffix := by decide
  have hb : withCompactModelSuffix "b"="b"++compactModelSuffix := by decide
  simp [attemptsFor,compactAttempts,mapAttempt,modelMappedHelper,redirect,followMapping,trimSuffix_append,
    List.lookup,Except.map,ha,hb]
  decide
end AronaApi.Relay
