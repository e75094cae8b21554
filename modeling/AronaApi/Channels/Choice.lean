import AronaApi.Channels.Cache

/-! What a choice from the cache can be: among the channels that are offered for a request, those of the
priority that the retry number asks for, and of these the ones that have weight. -/
namespace AronaApi.Channels
open Relay Selection List Channel

structure ChannelTable extends ChannelCache where
  listed : ∀ group model, ∀ id∈group2model2channels group model, ∃ c, channelsIDM id=some c ∧ c.id=id

def ChannelTable.offered (t : ChannelTable) (group model requestPath : String) : List Channel :=
  (candidates t.toChannelCache group model requestPath).filterMap t.channelsIDM

def targets (channels : List Channel) (retry : ℕ) : List Channel :=
  channels.filter fun c => c.getPriority=level getPriority channels retry

variable {l : List Channel} {c : Channel} {retry : ℕ}
lemma targets_ne_nil (h : l≠[]) (retry : ℕ) : targets l retry≠[] := by
  have hlvl : level getPriority l retry∈levels getPriority l := level_mem h retry
  obtain ⟨c,hc,hpri⟩ := mem_levels.mp hlvl
  apply ne_nil_of_mem (a := c)
  rw [targets,mem_filter]
  exact ⟨hc,by simpa using hpri⟩

lemma totalWeight_eq (l : List Channel) : totalWeight l=(l.map (smoothedWeight l)).sum := by
  have hsum (f a : ℕ) : ∀ l : List Channel,
      (l.map fun c => c.getWeight*f+a).sum=(l.map getWeight).sum*f+l.length*a := by
    intro l
    induction l with
    | nil => simp
    | cons c l ih =>
      simp only [map_cons,sum_cons,length_cons,ih]
      rw [Nat.add_mul,Nat.succ_mul]
      omega
  unfold totalWeight smoothedWeight
  rw [hsum]
  by_cases h : (l.map getWeight).sum=0 <;> simp [h]

lemma totalWeight_pos (h : l≠[]) : 0<totalWeight l := by
  have hlen : 0<l.length := length_pos_iff.mpr h
  unfold totalWeight
  by_cases hsum : (l.map getWeight).sum=0
  · simp [hsum,hlen]
  simp only [hsum,if_false]
  apply Nat.mul_pos (Nat.pos_of_ne_zero hsum)
  split <;> omega

lemma smoothedWeight_pos_iff : 0<smoothedWeight l c ↔ (∀ d∈l, d.getWeight=0) ∨ 0<c.getWeight := by
  have hzero : (l.map getWeight).sum=0 ↔ ∀ d∈l, d.getWeight=0 := by simp [List.sum_eq_zero_iff_forall_eq_nat]
  unfold smoothedWeight
  rw [← hzero]
  by_cases h : (l.map getWeight).sum=0
  · simp [h]
  simp only [h,if_false,Nat.add_zero,false_or]
  constructor
  · exact Nat.pos_of_mul_pos_right
  · intro hc
    apply Nat.mul_pos hc
    split <;> omega

lemma exists_draw_of_ne_nil (h : l≠[]) (rand : Rand) :
    ∃ c, draw (smoothedWeight l) (rand.intn (totalWeight l)) l=some c := by
  apply exists_draw
  rw [← totalWeight_eq]
  exact rand.intn_lt _ (totalWeight_pos h)

lemma clamp_eq_min (n k : ℕ) : (if n≤k then n-1 else k)=min k (n-1) := by split <;> omega

lemma chooseChannel_eq {rand : Rand} (group model : String) (h : l≠[])
    (hc : draw (smoothedWeight (targets l retry)) (rand.intn (totalWeight (targets l retry))) (targets l retry) =
      some c) : chooseChannel rand group model retry l=.ok (some c) := by
  have htarg : l.filter (fun c => c.getPriority=(levels getPriority l).getD
      (if (levels getPriority l).length ≤ retry then (levels getPriority l).length-1 else retry) 0) =
      targets l retry := by
    rw [clamp_eq_min]
    rfl
  unfold chooseChannel
  simp only [htarg,targets_ne_nil h,if_false,hc]

variable {t : ChannelTable} {group model requestPath : String} {cache : ChannelCache} {ids : List ℕ} {id : ℕ}
lemma mem_of_mem_filterChannelsByRequestPath (h : id∈filterChannelsByRequestPath cache ids requestPath) : id∈ids := by
  unfold filterChannelsByRequestPath at h
  split at h
  · exact h
  · exact mem_of_mem_filter h

lemma exists_of_mem_candidates (h : id∈candidates t.toChannelCache group model requestPath) :
    ∃ c, t.channelsIDM id=some c ∧ c.id=id := by
  unfold candidates at h
  dsimp only at h
  split at h <;> exact t.listed _ _ id (mem_of_mem_filterChannelsByRequestPath h)

lemma cachedChannels_eq (h : ∀ id∈ids, ∃ c, cache.channelsIDM id=some c) :
    cachedChannels cache ids=.ok (ids.filterMap cache.channelsIDM) := by
  induction ids with
  | nil => rfl
  | cons id ids ih =>
    obtain ⟨c,hc⟩ := h id mem_cons_self
    have hrest := ih fun i hi => h i (mem_cons_of_mem _ hi)
    simp only [cachedChannels,hc,hrest,filterMap_cons,Except.map]

lemma getRandomSatisfiedChannel_of_offered (rand : Rand) (retry : ℕ) (h : t.offered group model requestPath≠[]) :
    ∃ c, draw (smoothedWeight (targets (t.offered group model requestPath) retry))
        (rand.intn (totalWeight (targets (t.offered group model requestPath) retry)))
        (targets (t.offered group model requestPath) retry)=some c ∧
      getRandomSatisfiedChannel t.toChannelCache rand group model retry requestPath=.ok (some c) := by
  obtain ⟨c,hc⟩ := exists_draw_of_ne_nil (targets_ne_nil h retry) rand
  refine ⟨c,hc,?_⟩
  have hthr : ∀ id∈candidates t.toChannelCache group model requestPath, ∃ c, t.channelsIDM id=some c := by
    intro id hid
    obtain ⟨d,hd,-⟩ := exists_of_mem_candidates hid
    exact ⟨d,hd⟩
  unfold getRandomSatisfiedChannel
  split
  next hnil => simp [ChannelTable.offered,hnil] at h
  next id hid =>
    -- a single channel is returned without a draw, and a draw would fall on it
    obtain ⟨d,hd⟩ := hthr id (by simp [hid])
    have hoff : t.offered group model requestPath=[d] := by simp [ChannelTable.offered,hid,hd]
    rw [hoff] at hc
    have hmem := mem_of_mem_filter (mem_of_draw hc)
    rw [mem_singleton] at hmem
    simp only [hd,hmem]
  · rw [cachedChannels_eq hthr]
    exact chooseChannel_eq group model h hc

lemma getRandomSatisfiedChannel_of_nil (rand : Rand) (retry : ℕ) (h : t.offered group model requestPath=[]) :
    getRandomSatisfiedChannel t.toChannelCache rand group model retry requestPath=.ok none := by
  have hnil : candidates t.toChannelCache group model requestPath=[] := by
    rw [eq_nil_iff_forall_not_mem]
    intro id hid
    obtain ⟨c,hc,-⟩ := exists_of_mem_candidates hid
    have hmem : c∈t.offered group model requestPath := mem_filterMap.mpr ⟨id,hid,hc⟩
    rw [h] at hmem
    cases hmem
  simp only [getRandomSatisfiedChannel,hnil]

lemma canReturn_iff :
    (∃ rand, getRandomSatisfiedChannel t.toChannelCache rand group model retry requestPath=.ok (some c)) ↔
      c∈targets (t.offered group model requestPath) retry ∧
        ((∀ d∈targets (t.offered group model requestPath) retry, d.getWeight=0) ∨ 0<c.getWeight) := by
  rw [← smoothedWeight_pos_iff]
  by_cases hnil : t.offered group model requestPath=[]
  · simp [getRandomSatisfiedChannel_of_nil,hnil,targets]
  constructor
  · rintro ⟨rand,hrand⟩
    obtain ⟨d,hd,hget⟩ := getRandomSatisfiedChannel_of_offered rand retry hnil
    rw [hget] at hrand
    cases hrand
    exact ⟨mem_of_draw hd,pos_of_draw hd⟩
  · rintro ⟨hmem,hpos⟩
    obtain ⟨r,hr,hdraw⟩ := exists_draw_eq hmem hpos
    rw [← totalWeight_eq] at hr
    have hlt : r<totalWeight (targets (t.offered group model requestPath) retry) := by omega
    refine ⟨Rand.giving hlt,?_⟩
    obtain ⟨d,hd,hget⟩ := getRandomSatisfiedChannel_of_offered (Rand.giving hlt) retry hnil
    rw [Rand.giving_intn,hdraw] at hd
    cases hd
    exact hget
end AronaApi.Channels
