import AronaApi.Channels.Operations

/-! Whether a disabled channel can still be chosen from the memory cache, and when a rebuild panics. A status
change takes one entry of the channel out of each list, and a channel that names a pair twice has two. -/
namespace AronaApi.Channels
open Selection

/-- A sequence of calls of `CacheUpdateChannelStatus`. -/
def updateStatuses (cache : ChannelCache) (updates : List (ℕ × ℤ)) : ChannelCache :=
  updates.foldl (fun cache u => cacheUpdateChannelStatus cache u.1 u.2) cache

structure EnabledCache extends ChannelTable where
  nodup : ∀ group model, (group2model2channels group model).Nodup
  enabled : ∀ group model, ∀ id∈group2model2channels group model, ∀ c, channelsIDM id=some c → c.status=statusEnabled

variable {cache : ChannelCache} {id : ℕ} {status : ℤ}
lemma lists_disable (h : status≠statusEnabled) (group model : String) :
    (cacheUpdateChannelStatus cache id status).group2model2channels group model =
      (cache.group2model2channels group model).erase id := if_pos h

lemma channelsIDM_update (i : ℕ) :
    (cacheUpdateChannelStatus cache id status).channelsIDM i =
      if i=id then (cache.channelsIDM i).map fun c => { c with status := status } else cache.channelsIDM i := rfl

def ChannelTable.disable (t : ChannelTable) (id : ℕ) (h : status≠statusEnabled) : ChannelTable where
  toChannelCache := cacheUpdateChannelStatus t.toChannelCache id status
  listed group model i hi := by
    rw [lists_disable h] at hi
    obtain ⟨c,hc,hid⟩ := t.listed group model i (List.mem_of_mem_erase hi)
    rw [channelsIDM_update,hc]
    split
    · exact ⟨_,rfl,hid⟩
    · exact ⟨c,rfl,hid⟩

def EnabledCache.disable (t : EnabledCache) (id : ℕ) (h : status≠statusEnabled) : EnabledCache where
  toChannelTable := t.toChannelTable.disable id h
  nodup group model := by
    show ((cacheUpdateChannelStatus t.toChannelCache id status).group2model2channels group model).Nodup
    rw [lists_disable h]
    exact (t.nodup group model).erase id
  enabled group model i hi c hc := by
    replace hi : i∈(cacheUpdateChannelStatus t.toChannelCache id status).group2model2channels group model := hi
    replace hc : (cacheUpdateChannelStatus t.toChannelCache id status).channelsIDM i=some c := hc
    rw [lists_disable h,(t.nodup group model).mem_erase_iff] at hi
    rw [channelsIDM_update,if_neg hi.1] at hc
    exact t.enabled group model i hi.2 c hc

variable {updates : List (ℕ × ℤ)}
lemma exists_enabledCache (t : EnabledCache) (h : ∀ u∈updates, u.2≠statusEnabled) :
    ∃ t' : EnabledCache, t'.toChannelCache=updateStatuses t.toChannelCache updates := by
  induction updates generalizing t with
  | nil => exact ⟨t,rfl⟩
  | cons u updates ih =>
    rw [List.forall_mem_cons] at h
    obtain ⟨t',ht'⟩ := ih (t.disable u.1 h.1) h.2
    exact ⟨t',ht'⟩

lemma exists_channelTable (t : ChannelTable) (h : ∀ u∈updates, u.2≠statusEnabled) :
    ∃ t' : ChannelTable, t'.toChannelCache=updateStatuses t.toChannelCache updates := by
  induction updates generalizing t with
  | nil => exact ⟨t,rfl⟩
  | cons u updates ih =>
    rw [List.forall_mem_cons] at h
    obtain ⟨t',ht'⟩ := ih (t.disable u.1 h.1) h.2
    exact ⟨t',ht'⟩

lemma lists_updateStatuses (h : ∀ u∈updates, u.2≠statusEnabled) (group model : String) :
    (updateStatuses cache updates).group2model2channels group model =
      (cache.group2model2channels group model).diff (updates.map Prod.fst) := by
  induction updates generalizing cache with
  | nil => exact (List.diff_nil _).symm
  | cons u updates ih =>
    rw [List.forall_mem_cons] at h
    rw [List.map_cons,List.diff_cons,← lists_disable h.1]
    exact ih h.2

lemma status_updateStatuses (h : ∀ u∈updates, u.2≠statusEnabled) {i : ℕ}
    (hi : i∈updates.map Prod.fst ∨ ∀ c, cache.channelsIDM i=some c → c.status≠statusEnabled) :
    ∀ c, (updateStatuses cache updates).channelsIDM i=some c → c.status≠statusEnabled := by
  induction updates generalizing cache with
  | nil =>
    obtain hi | hi := hi
    · cases hi
    · exact hi
  | cons u updates ih =>
    rw [List.forall_mem_cons] at h
    apply ih h.2
    rw [List.map_cons,List.mem_cons,or_assoc] at hi
    obtain rfl | hi | hi := hi
    · right
      intro c hc
      rw [channelsIDM_update,if_pos rfl] at hc
      obtain ⟨d,-,rfl⟩ := Option.map_eq_some_iff.mp hc
      exact h.1
    · exact .inl hi
    · right
      intro c hc
      rw [channelsIDM_update] at hc
      split at hc
      · obtain ⟨d,-,rfl⟩ := Option.map_eq_some_iff.mp hc
        exact h.1
      · exact hi c hc

variable {t : ChannelTable} {rand : Rand} {group model requestPath : String} {retry : ℕ} {c : Channel}
lemma exists_listed_of_chosen
    (h : getRandomSatisfiedChannel t.toChannelCache rand group model retry requestPath=.ok (some c)) :
    ∃ group model, ∃ id∈t.group2model2channels group model, t.channelsIDM id=some c := by
  have htarg := (canReturn_iff.mp ⟨rand,h⟩).1
  obtain ⟨id,hid,hc⟩ := List.mem_filterMap.mp (List.mem_of_mem_filter htarg)
  unfold candidates at hid
  dsimp only at hid
  split at hid <;> exact ⟨_,_,id,mem_of_mem_filterChannelsByRequestPath hid,hc⟩

lemma exists_chosen (h : id∈t.group2model2channels group model) (rand : Rand) :
    ∃ c, getRandomSatisfiedChannel t.toChannelCache rand group model 0 "" = .ok (some c) := by
  obtain ⟨c,hc,-⟩ := t.listed group model id h
  have hcand : id∈candidates t.toChannelCache group model "" := by
    unfold candidates filterChannelsByRequestPath
    simp only [if_true]
    rw [if_neg (List.ne_nil_of_mem h)]
    exact h
  have hoff : t.offered group model "" ≠ [] := List.ne_nil_of_mem (List.mem_filterMap.mpr ⟨id,hcand,hc⟩)
  obtain ⟨d,-,hd⟩ := getRandomSatisfiedChannel_of_offered rand 0 hoff
  exact ⟨d,hd⟩

variable {channels : List Channel} {abilities : List Ability} {cache : ChannelCache}
lemma entries_eq_replicate (h : c.status=statusEnabled) (group model : String) :
    c.entries group model=List.replicate (c.pairs.count (group,model)) c.id := by
  rw [Channel.entries,if_pos h,List.map_const',List.count,List.countP_eq_length_filter]
  simp only [beq_eq_decide]

lemma nodup_rebuilt (hkeys : (channels.map Channel.id).Nodup) (h : initChannelCache channels abilities=some cache)
    (hpairs : ∀ c∈channels, c.status=statusEnabled → c.pairs.Nodup) (group model : String) :
    (cache.group2model2channels group model).Nodup := by
  rw [(initChannelCache_lists h group model).nodup_iff,List.nodup_flatMap]
  constructor
  · intro c hc
    by_cases hstatus : c.status=statusEnabled
    · rw [entries_eq_replicate hstatus,List.nodup_replicate]
      exact List.nodup_iff_count_le_one.mp (hpairs c hc hstatus) _
    · rw [Channel.entries,if_neg hstatus]
      exact List.nodup_nil
  · refine (List.pairwise_map.mp hkeys).imp fun {c d} hne => ?_
    intro id hc hd
    exact hne ((mem_entries.mp hc).2.2.symm.trans (mem_entries.mp hd).2.2)

/-- A rebuilt cache lists enabled channels, and each once if no channel names a pair twice. -/
def rebuiltCache (hkeys : (channels.map Channel.id).Nodup) (h : initChannelCache channels abilities=some cache)
    (hpairs : ∀ c∈channels, c.status=statusEnabled → c.pairs.Nodup) : EnabledCache where
  toChannelCache := cache
  listed := listed_of_initChannelCache h
  nodup := nodup_rebuilt hkeys h hpairs
  enabled group model id hid c hc := by
    obtain ⟨d,hd,hstatus,-,rfl⟩ := (mem_initChannelCache h).mp hid
    rw [initChannelCache_channelsIDM h,Table.lookup_of_mem hkeys hd] at hc
    cases hc
    exact hstatus

def disableAll (channels : List Channel) : List (ℕ × ℤ) := channels.map fun c => (c.id,statusManuallyDisabled)

lemma disableAll_ne_enabled (channels : List Channel) : ∀ u∈disableAll channels, u.2≠statusEnabled := by
  intro u hu
  obtain ⟨c,-,rfl⟩ := List.mem_map.mp hu
  show statusManuallyDisabled≠statusEnabled
  decide

lemma exists_listed_of_repeated (hkeys : (channels.map Channel.id).Nodup)
    (h : initChannelCache channels abilities=some cache) (hc : c∈channels)
    (hstatus : c.status=statusEnabled) (hpairs : ¬c.pairs.Nodup) :
    ∃ group model, c.id∈(updateStatuses cache (disableAll channels)).group2model2channels group model := by
  rw [List.nodup_iff_count_le_one] at hpairs
  push Not at hpairs
  obtain ⟨⟨group,model⟩,hcnt⟩ := hpairs
  refine ⟨group,model,?_⟩
  have hids : (disableAll channels).map Prod.fst=channels.map Channel.id := by
    rw [disableAll,List.map_map]
    rfl
  have hentr : c.pairs.count (group,model)≤(cache.group2model2channels group model).count c.id := by
    rw [(initChannelCache_lists h group model).count_eq]
    calc c.pairs.count (group,model)
      _=(c.entries group model).count c.id := by rw [entries_eq_replicate hstatus,List.count_replicate_self]
      _≤(channels.flatMap fun c => c.entries group model).count c.id :=
        List.Sublist.count_le _ (List.sublist_flatten_of_mem (List.mem_map_of_mem hc))
  rw [lists_updateStatuses (disableAll_ne_enabled _),hids,← List.count_pos_iff,List.count_diff]
  have honce := List.nodup_iff_count_le_one.mp hkeys c.id
  omega

/-- A rebuild panics exactly when an enabled channel names a group that no ability has. After it, and after any
calls that disable channels, only enabled channels are chosen exactly when no enabled channel names a pair twice. -/
theorem rebuild_disable_iff (hkeys : (channels.map Channel.id).Nodup) (abilities : List Ability) :
    ((initChannelCache channels abilities).isSome ↔ ∀ c∈channels, Grouped (abilities.map Ability.group) c) ∧
      ∀ cache, initChannelCache channels abilities=some cache →
        ((∀ updates : List (ℕ × ℤ), (∀ u∈updates, u.2≠statusEnabled) → ∀ rand group model retry requestPath c,
            getRandomSatisfiedChannel (updateStatuses cache updates) rand group model retry requestPath =
              .ok (some c) → c.status=statusEnabled) ↔
          ∀ c∈channels, c.status=statusEnabled → c.pairs.Nodup) := by
  refine ⟨initChannelCache_isSome_iff,fun cache h => ⟨?_,?_⟩⟩
  · intro hchos c hc hstatus
    by_contra hpairs
    obtain ⟨group,model,hlisted⟩ := exists_listed_of_repeated hkeys h hc hstatus hpairs
    obtain ⟨t,ht⟩ := exists_channelTable ⟨cache,listed_of_initChannelCache h⟩ (disableAll_ne_enabled channels)
    rw [← ht] at hlisted
    obtain ⟨d,hd⟩ := exists_chosen hlisted ⟨fun _ => 0,fun _ hn => hn⟩
    -- whatever is chosen has been disabled
    obtain ⟨g,m,id,hid,hd'⟩ := exists_listed_of_chosen hd
    rw [ht] at hd hid hd'
    rw [lists_updateStatuses (disableAll_ne_enabled _)] at hid
    obtain ⟨e,he,-,-,rfl⟩ := (mem_initChannelCache h).mp (List.diff_subset _ _ hid)
    have hmem : e.id∈(disableAll channels).map Prod.fst := List.mem_map_of_mem (List.mem_map_of_mem he)
    exact status_updateStatuses (disableAll_ne_enabled _) (.inl hmem) d hd'
      (hchos _ (disableAll_ne_enabled _) _ _ _ _ _ d hd)
  · intro hpairs updates hupd rand group model retry requestPath c hc
    obtain ⟨t,ht⟩ := exists_enabledCache (rebuiltCache hkeys h hpairs) hupd
    have hc' : getRandomSatisfiedChannel t.toChannelCache rand group model retry requestPath=.ok (some c) := by
      rw [ht]
      exact hc
    obtain ⟨g,m,id,hid,hget⟩ := exists_listed_of_chosen hc'
    exact t.enabled g m id hid c hget

def chatChannel (models : String) : Channel := ⟨1,1,1,none,models,"default",some 0,none,none,⟨false,[],[]⟩⟩

/-- A channel that names each model once is not chosen when it has been disabled. -/
theorem disabled_notChosen :
    ∃ cache, initChannelCache [chatChannel "gpt-4o,gpt-4o-mini"]
        [(chatChannel "").ability "default" "gpt-4o",(chatChannel "").ability "default" "gpt-4o-mini"]=some cache ∧
      ∀ rand group model retry requestPath c,
        getRandomSatisfiedChannel (updateStatuses cache [(1,statusAutoDisabled)]) rand group model retry requestPath =
          .ok (some c) → c.status=statusEnabled := by
  have hkeys : ([chatChannel "gpt-4o,gpt-4o-mini"].map Channel.id).Nodup := by decide
  have h := rebuild_disable_iff hkeys
    [(chatChannel "").ability "default" "gpt-4o",(chatChannel "").ability "default" "gpt-4o-mini"]
  obtain ⟨cache,hch⟩ := Option.isSome_iff_exists.mp (h.1.mpr (by decide +kernel))
  exact ⟨cache,hch,(h.2 cache hch).mpr (by decide +kernel) _ (by decide)⟩

/-- Between the two statements of an insertion a rebuild panics, and a channel that names a model twice is chosen
after it has been disabled. -/
theorem rebuild_panics_and_disabled_chosen :
    (∃ t, Tables.empty.create (chatChannel "gpt-4o")=some t ∧ initChannelCache t.channels.rows t.abilities.rows=none) ∧
      ∃ cache, initChannelCache [chatChannel "gpt-4o,gpt-4o"] [(chatChannel "").ability "default" "gpt-4o"] =
          some cache ∧
        ∀ rand, getRandomSatisfiedChannel (updateStatuses cache [(1,statusAutoDisabled)]) rand "default" "gpt-4o" 0
          "/v1/chat/completions" = .ok (some { chatChannel "gpt-4o,gpt-4o" with status := statusAutoDisabled }) := by
  constructor
  · have hnone : ((Tables.empty.create (chatChannel "gpt-4o")).any fun t =>
        (initChannelCache t.channels.rows t.abilities.rows).isNone)=true := by decide +kernel
    obtain ⟨t,ht,hinit⟩ := (Option.any_eq_true _ _).mp hnone
    exact ⟨t,ht,Option.isNone_iff_eq_none.mp hinit⟩
  · exact ⟨_,rfl,fun _ => rfl⟩
end AronaApi.Channels
