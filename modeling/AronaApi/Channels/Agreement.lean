import AronaApi.Channels.Database

/-! Whether the choice of a channel depends on the memory cache. The cache drops the channels that do not serve
the path before it looks at priorities, knows a model by its normalized name too, and gives no chance to a
channel of weight 0 beside others; the database does none of this. -/
namespace AronaApi.Channels
open Relay Selection List

section
variable (channels : List Channel) (group model requestPath : String)
def served : List Channel := (enabledChannels channels group model).filter fun c => c.servesPath requestPath

/-- The channels that the cache offers: those of the exact name, or else of the normalized one. -/
def offeredChannels : List Channel :=
  if served channels group model requestPath=[] then
    served channels group (formatMatchingModelName model) requestPath
  else served channels group model requestPath

/-- The request has a channel: some enabled one of the group has the model, by either name, and serves the
path. -/
def Servable : Prop :=
  ∃ c∈channels, c.status=statusEnabled ∧
    (c.Offers group model ∨ c.Offers group (formatMatchingModelName model)) ∧ c.servesPath requestPath=true

/-- The choice is the same with and without the cache: nothing is found by the normalized name only, no path
shifts the priorities, and no weight of 0 stands beside another. -/
def SameChoice (retry : ℕ) : Prop :=
  (served channels group model requestPath=[] → served channels group (formatMatchingModelName model) requestPath=[]) ∧
    (served channels group model requestPath≠[] →
      level Channel.getPriority (enabledChannels channels group model) retry =
          level Channel.getPriority (served channels group model requestPath) retry ∧
        ((∀ c∈targets (served channels group model requestPath) retry, c.getWeight=0) ∨
          ∀ c∈targets (served channels group model requestPath) retry, 0<c.getWeight))

/-- The channels that the cache can return. -/
abbrev Drawn (retry : ℕ) (c : Channel) : Prop :=
  c∈targets (offeredChannels channels group model requestPath) retry ∧
    ((∀ d∈targets (offeredChannels channels group model requestPath) retry, d.getWeight=0) ∨ 0<c.getWeight)
end

variable {channels : List Channel} {abilities : List Ability} {cache : ChannelCache}
  {group model requestPath : String} {retry : ℕ}

variable {c : Channel}
lemma mem_served : c∈served channels group model requestPath ↔
      (c∈channels ∧ c.status=statusEnabled ∧ c.Offers group model) ∧ c.servesPath requestPath=true := by
  simp only [served,enabledChannels,mem_filter,decide_eq_true_eq]

lemma servable_iff :
    Servable channels group model requestPath ↔ offeredChannels channels group model requestPath≠[] := by
  unfold Servable offeredChannels
  constructor
  · rintro ⟨c,hc,hstatus,hoff,hserv⟩
    split
    next hnil =>
      obtain hexc | hnorm := hoff
      · have hmem := mem_served.mpr ⟨⟨hc,hstatus,hexc⟩,hserv⟩
        rw [hnil] at hmem
        cases hmem
      · exact ne_nil_of_mem (mem_served.mpr ⟨⟨hc,hstatus,hnorm⟩,hserv⟩)
    next hne => exact hne
  · intro hne
    split at hne
    · obtain ⟨c,hc⟩ := exists_mem_of_ne_nil _ hne
      obtain ⟨⟨hc,hstatus,hoff⟩,hserv⟩ := mem_served.mp hc
      exact ⟨c,hc,hstatus,.inr hoff,hserv⟩
    obtain ⟨c,hc⟩ := exists_mem_of_ne_nil _ hne
    obtain ⟨⟨hc,hstatus,hoff⟩,hserv⟩ := mem_served.mp hc
    exact ⟨c,hc,hstatus,.inl hoff,hserv⟩

lemma mem_filterChannels_init (hkeys : (channels.map Channel.id).Nodup)
    (h : initChannelCache channels abilities=some cache) {id : ℕ} :
    id∈filterChannelsByRequestPath cache (cache.group2model2channels group model) requestPath ↔
      ∃ c∈served channels group model requestPath, c.id=id := by
  have hlook : ∀ c∈channels, Table.lookup Channel.id c.id channels=some c :=
    fun c hc => Table.lookup_of_mem hkeys hc
  simp only [mem_served]
  unfold filterChannelsByRequestPath Channel.servesPath
  split
  next hpath =>
    rw [mem_initChannelCache h]
    simp [hpath,and_assoc]
  next hpath =>
  rw [mem_filter,mem_initChannelCache h]
  constructor
  · rintro ⟨⟨c,hc,hstatus,hoff,rfl⟩,hserv⟩
    refine ⟨c,⟨⟨hc,hstatus,hoff⟩,?_⟩,rfl⟩
    rw [initChannelCache_channelsIDM h,initChannelCache_config h,hlook c hc] at hserv
    by_cases htype : c.type=typeAdvancedCustom
    · simpa [hpath,htype] using hserv
    · simp [htype]
  · rintro ⟨c,⟨⟨hc,hstatus,hoff⟩,hserv⟩,rfl⟩
    refine ⟨⟨c,hc,hstatus,hoff,rfl⟩,?_⟩
    rw [initChannelCache_channelsIDM h,initChannelCache_config h,hlook c hc]
    by_cases htype : c.type=typeAdvancedCustom
    · simpa [hpath,htype] using hserv
    · simp [htype]

section
variable (hkeys : (channels.map Channel.id).Nodup)
include hkeys
section
variable (h : initChannelCache channels abilities=some cache)
include h
lemma mem_offered_init : c∈(⟨cache,listed_of_initChannelCache h⟩ : ChannelTable).offered group model requestPath ↔
      c∈offeredChannels channels group model requestPath := by
  have hlook : ∀ {group model : String} {c : Channel}, c∈served channels group model requestPath →
      cache.channelsIDM c.id=some c := by
    intro group model c hc
    rw [initChannelCache_channelsIDM h]
    exact Table.lookup_of_mem hkeys (mem_served.mp hc).1.1
  have hnil : filterChannelsByRequestPath cache (cache.group2model2channels group model) requestPath=[] ↔
      served channels group model requestPath=[] := by
    rw [eq_nil_iff_forall_not_mem,eq_nil_iff_forall_not_mem]
    constructor
    · intro hnone c hc
      exact hnone c.id ((mem_filterChannels_init hkeys h).mpr ⟨c,hc,rfl⟩)
    · intro hnone id hid
      obtain ⟨c,hc,-⟩ := (mem_filterChannels_init hkeys h).mp hid
      exact hnone c hc
  have hmem : ∀ group model, (∃ id∈filterChannelsByRequestPath cache (cache.group2model2channels group model)
      requestPath, cache.channelsIDM id=some c) ↔ c∈served channels group model requestPath := by
    intro group model
    constructor
    · rintro ⟨id,hid,hc⟩
      obtain ⟨d,hd,rfl⟩ := (mem_filterChannels_init hkeys h).mp hid
      rw [hlook hd] at hc
      cases hc
      exact hd
    · intro hc
      exact ⟨c.id,(mem_filterChannels_init hkeys h).mpr ⟨c,hc,rfl⟩,hlook hc⟩
  rw [ChannelTable.offered,mem_filterMap,candidates,offeredChannels]
  dsimp only
  by_cases hexc : served channels group model requestPath=[]
  · rw [if_pos hexc,if_pos (hnil.mpr hexc)]
    exact hmem group (formatMatchingModelName model)
  · rw [if_neg hexc,if_neg (mt hnil.mp hexc)]
    exact hmem group model

lemma cacheCanReturn_iff : (∃ rand, getRandomSatisfiedChannel cache rand group model retry requestPath=.ok (some c)) ↔
      Drawn channels group model requestPath retry c := by
  have hoff : ∀ c, c∈(⟨cache,listed_of_initChannelCache h⟩ : ChannelTable).offered group model requestPath ↔
      c∈offeredChannels channels group model requestPath := fun c => mem_offered_init hkeys h
  have hlvl : level Channel.getPriority
      ((⟨cache,listed_of_initChannelCache h⟩ : ChannelTable).offered group model requestPath) retry =
        level Channel.getPriority (offeredChannels channels group model requestPath) retry := by
    apply level_congr
    simp only [hoff,implies_true]
  have htarg : ∀ c, c∈targets
      ((⟨cache,listed_of_initChannelCache h⟩ : ChannelTable).offered group model requestPath) retry ↔
        c∈targets (offeredChannels channels group model requestPath) retry := by
    intro c
    simp only [targets,mem_filter,hoff,hlvl]
  refine (canReturn_iff (t := ⟨cache,listed_of_initChannelCache h⟩)).trans ?_
  simp only [Drawn,htarg]

lemma cache_returns (hne : offeredChannels channels group model requestPath≠[]) (rand : Rand) :
    ∃ c, getRandomSatisfiedChannel cache rand group model retry requestPath=.ok (some c) := by
  obtain ⟨c,hc⟩ := exists_mem_of_ne_nil _ hne
  have hoff := ne_nil_of_mem ((mem_offered_init hkeys h).mpr hc)
  obtain ⟨d,-,hd⟩ := getRandomSatisfiedChannel_of_offered rand retry hoff
  exact ⟨d,hd⟩
end
end

lemma exists_init_of_mirrors (h : Mirrors channels abilities) :
    ∃ cache, initChannelCache channels abilities=some cache := by
  rw [← Option.isSome_iff_exists,initChannelCache_isSome_iff]
  rintro c hc - ⟨g,m⟩ hp
  have hrow : c.ability g m∈abilities := (h.rows _).mpr ⟨c,hc,g,m,mem_pairs.mp hp,rfl⟩
  exact mem_map.mpr ⟨_,hrow,rfl⟩

lemma databaseTargets_subset (h : c∈databaseTargets channels group model retry requestPath) :
    c∈served channels group model requestPath := by
  obtain ⟨hc,-,hserv⟩ := mem_databaseTargets.mp h
  rw [enabledChannels,mem_filter,decide_eq_true_eq] at hc
  exact mem_served.mpr ⟨hc,hserv⟩

lemma mem_databaseTargets_of_level (h : level Channel.getPriority (enabledChannels channels group model) retry =
    level Channel.getPriority (served channels group model requestPath) retry) :
    c∈databaseTargets channels group model retry requestPath ↔
      c∈targets (served channels group model requestPath) retry := by
  rw [mem_databaseTargets,targets,mem_filter,decide_eq_true_eq,h]
  constructor
  · rintro ⟨hc,hpri,hserv⟩
    exact ⟨mem_filter.mpr ⟨hc,hserv⟩,hpri⟩
  · rintro ⟨hc,hpri⟩
    obtain ⟨hc,hserv⟩ := mem_filter.mp hc
    exact ⟨hc,hpri,hserv⟩

lemma databaseCanReturn_iff (hkeys : (channels.map Channel.id).Nodup) (h : Mirrors channels abilities) :
    (∃ rand, getChannel channels abilities rand group model retry requestPath=.ok (some c)) ↔
      c∈databaseTargets channels group model retry requestPath := by
  by_cases hnil : databaseTargets channels group model retry requestPath=[]
  · rw [hnil]
    constructor
    · rintro ⟨rand,hrand⟩
      exact absurd hrand (getChannel_of_nil hkeys h rand hnil c)
    · intro hc
      cases hc
  obtain ⟨halw,heach⟩ := getChannel_of_ne_nil hkeys h hnil
  constructor
  · rintro ⟨rand,hrand⟩
    obtain ⟨d,hd,hget⟩ := halw rand
    rw [hget] at hrand
    cases hrand
    exact hd
  · exact heach c

lemma sameChoice_of_agree (h : ∀ c, c∈databaseTargets channels group model retry requestPath ↔
    Drawn channels group model requestPath retry c) : SameChoice channels group model requestPath retry := by
  -- an offer always leads to some channel, which the database must have as well
  have hsome : offeredChannels channels group model requestPath≠[] →
      ∃ c∈targets (offeredChannels channels group model requestPath) retry,
        c∈databaseTargets channels group model retry requestPath := by
    intro hne
    have htarg := targets_ne_nil hne retry
    by_cases hzero : ∀ d∈targets (offeredChannels channels group model requestPath) retry, d.getWeight=0
    · obtain ⟨c,hc⟩ := exists_mem_of_ne_nil _ htarg
      exact ⟨c,hc,(h c).mpr ⟨hc,.inl hzero⟩⟩
    push Not at hzero
    obtain ⟨c,hc,hweig⟩ := hzero
    exact ⟨c,hc,(h c).mpr ⟨hc,.inr (Nat.pos_of_ne_zero hweig)⟩⟩
  constructor
  · intro hnil
    by_contra hne
    have hoff : offeredChannels channels group model requestPath≠[] := by
      rw [offeredChannels,if_pos hnil]
      exact hne
    obtain ⟨c,-,hc⟩ := hsome hoff
    have hserv := databaseTargets_subset hc
    rw [hnil] at hserv
    cases hserv
  · intro hne
    have hoff : offeredChannels channels group model requestPath=served channels group model requestPath :=
      if_neg hne
    simp only [Drawn,hoff] at h hsome
    obtain ⟨c,htar,hc⟩ := hsome hne
    have hlvl : level Channel.getPriority (enabledChannels channels group model) retry =
        level Channel.getPriority (served channels group model requestPath) retry := by
      rw [← (mem_databaseTargets.mp hc).2.1]
      simpa [targets] using (mem_filter.mp htar).2
    refine ⟨hlvl,?_⟩
    by_cases hzero : ∀ d∈targets (served channels group model requestPath) retry, d.getWeight=0
    · exact .inl hzero
    right
    intro d hd
    obtain ⟨-,hall | hpos⟩ := (h d).mp ((mem_databaseTargets_of_level hlvl).mpr hd)
    · exact absurd hall hzero
    · exact hpos

lemma agree_of_sameChoice (h : SameChoice channels group model requestPath retry) (c : Channel) :
    c∈databaseTargets channels group model retry requestPath ↔ Drawn channels group model requestPath retry c := by
  by_cases hserv : served channels group model requestPath=[]
  · have hoff : offeredChannels channels group model requestPath=[] := by
      rw [offeredChannels,if_pos hserv]
      exact h.1 hserv
    rw [Drawn,hoff]
    constructor
    · intro hc
      have hmem := databaseTargets_subset hc
      rw [hserv] at hmem
      cases hmem
    · rintro ⟨hc,-⟩
      cases hc
  · have hoff : offeredChannels channels group model requestPath=served channels group model requestPath :=
      if_neg hserv
    obtain ⟨hlvl,hweig⟩ := h.2 hserv
    rw [Drawn,hoff,mem_databaseTargets_of_level hlvl]
    constructor
    · intro hc
      obtain hzero | hpos := hweig
      · exact ⟨hc,.inl hzero⟩
      · exact ⟨hc,.inr (hpos c hc)⟩
    · rintro ⟨hc,-⟩
      exact hc

/-- The channels that can be chosen are the same with the cache and without it, and none is chosen only if the
request has none, exactly when names, paths and weights make no difference. -/
theorem choice_agrees_iff (hkeys : (channels.map Channel.id).Nodup) (h : Mirrors channels abilities)
    (group model requestPath : String) (retry : ℕ) :
    ∃ cache, initChannelCache channels abilities=some cache ∧
      (((∀ c, (∃ rand, getChannel channels abilities rand group model retry requestPath=.ok (some c)) ↔
            ∃ rand, getRandomSatisfiedChannel cache rand group model retry requestPath=.ok (some c)) ∧
          ((∃ rand, ∀ c, getChannel channels abilities rand group model retry requestPath≠.ok (some c)) →
            ¬Servable channels group model requestPath) ∧
          ((∃ rand, ∀ c, getRandomSatisfiedChannel cache rand group model retry requestPath≠.ok (some c)) →
            ¬Servable channels group model requestPath)) ↔
        SameChoice channels group model requestPath retry) := by
  obtain ⟨cache,hch⟩ := exists_init_of_mirrors h
  refine ⟨cache,hch,?_⟩
  simp only [databaseCanReturn_iff hkeys h,cacheCanReturn_iff hkeys hch]
  constructor
  · rintro ⟨hagr,-,-⟩
    exact sameChoice_of_agree hagr
  · intro hsame
    refine ⟨agree_of_sameChoice hsame,?_,?_⟩
    · rintro ⟨rand,hnone⟩ hserv
      -- an offer leads to a target of the cache, which is one of the database
      obtain ⟨c,hc⟩ := cache_returns hkeys hch (servable_iff.mp hserv) rand
      have htarg := (agree_of_sameChoice hsame c).mpr ((cacheCanReturn_iff hkeys hch).mp ⟨rand,hc⟩)
      obtain ⟨d,-,hd⟩ := (getChannel_of_ne_nil hkeys h (ne_nil_of_mem htarg)).1 rand
      exact hnone d hd
    · rintro ⟨rand,hnone⟩ hserv
      obtain ⟨c,hc⟩ := cache_returns hkeys hch (servable_iff.mp hserv) rand
      exact hnone c hc

lemma mirrors_of_single (hkeys : (channels.map Channel.id).Nodup)
    (hpairs : ∀ c∈channels, c.groups=[c.group] ∧ c.modelNames=[c.models]) :
    Mirrors channels (channels.map fun c => c.ability c.group c.models) where
  rows a := by
    rw [mem_map]
    constructor
    · rintro ⟨c,hc,rfl⟩
      refine ⟨c,hc,c.group,c.models,?_,rfl⟩
      simp [Channel.Offers,hpairs c hc]
    · rintro ⟨c,hc,g,m,hoff,rfl⟩
      simp only [Channel.Offers,hpairs c hc,mem_singleton] at hoff
      obtain ⟨rfl,rfl⟩ := hoff
      exact ⟨c,hc,rfl⟩
  nodup := by
    apply List.Nodup.of_map Ability.channelId
    rw [map_map]
    exact hkeys

def embeddingsFirst : List Channel :=
  [⟨1,typeAdvancedCustom,1,none,"gpt-4o","default",some 10,none,some ⟨["/v1/embeddings"]⟩,⟨false,[],[]⟩⟩,
    ⟨2,1,1,none,"gpt-4o","default",some 0,none,none,⟨false,[],[]⟩⟩]

lemma mirrors_embeddingsFirst : Mirrors embeddingsFirst (embeddingsFirst.map fun c => c.ability c.group c.models) :=
  mirrors_of_single (by decide) (by decide +kernel)

/-- For embeddings the two ways agree. -/
theorem embeddings_agree :
    ∃ cache, initChannelCache embeddingsFirst (embeddingsFirst.map fun c => c.ability c.group c.models)=some cache ∧
      ∀ c, (∃ rand, getChannel embeddingsFirst (embeddingsFirst.map fun c => c.ability c.group c.models) rand
          "default" "gpt-4o" 0 "/v1/embeddings" = .ok (some c)) ↔
        ∃ rand, getRandomSatisfiedChannel cache rand "default" "gpt-4o" 0 "/v1/embeddings" = .ok (some c) := by
  obtain ⟨cache,hch,hiff⟩ :=
    choice_agrees_iff (by decide) mirrors_embeddingsFirst "default" "gpt-4o" "/v1/embeddings" 0
  have hsame : SameChoice embeddingsFirst "default" "gpt-4o" "/v1/embeddings" 0 := by
    unfold SameChoice
    decide +kernel
  exact ⟨cache,hch,(hiff.mpr hsame).1⟩

/-- For a chat the database finds only the first channel, which does not serve it, where the cache gives the
second. -/
theorem chat_withoutCache_fails :
    Servable embeddingsFirst "default" "gpt-4o" "/v1/chat/completions" ∧
      (∀ rand c, getChannel embeddingsFirst (embeddingsFirst.map fun c => c.ability c.group c.models) rand
        "default" "gpt-4o" 0 "/v1/chat/completions" ≠ .ok (some c)) ∧
      ∃ cache, initChannelCache embeddingsFirst (embeddingsFirst.map fun c => c.ability c.group c.models)=some cache ∧
        ∀ rand, ∃ c,
          getRandomSatisfiedChannel cache rand "default" "gpt-4o" 0 "/v1/chat/completions" = .ok (some c) := by
  have hserv : Servable embeddingsFirst "default" "gpt-4o" "/v1/chat/completions" := by
    unfold Servable
    decide +kernel
  have hnil : databaseTargets embeddingsFirst "default" "gpt-4o" 0 "/v1/chat/completions" = [] := by decide +kernel
  obtain ⟨cache,hch⟩ := exists_init_of_mirrors mirrors_embeddingsFirst
  refine ⟨hserv,fun rand => getChannel_of_nil (by decide) mirrors_embeddingsFirst rand hnil,cache,hch,?_⟩
  exact cache_returns (by decide) hch (servable_iff.mp hserv)
end AronaApi.Channels
