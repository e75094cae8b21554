import AronaApi.Channels.Mirror

/-! Which operations keep the abilities a mirror of the channels, and what that means for a whole history of them. -/
namespace AronaApi.Channels
open List KeyedTable Schedule GoStd
namespace Tables
variable {t t' : Tables} {c : Channel}
lemma rows_create (h : t.create c=some t') :
    t'.channels.rows=t.channels.rows++[withDefaults c] ∧ t'.abilities=t.abilities := by
  unfold create at h
  split at h
  · cases h
  obtain ⟨channels,hinsert,rfl⟩ := Option.map_eq_some_iff.mp h
  exact ⟨(insert_eq_some hinsert).2,rfl⟩

variable {l : List Channel} {chunks : List (List Channel)}
lemma rows_foldlM_create (h : l.foldlM create t=some t') :
    t'.channels.rows=t.channels.rows++l.map withDefaults ∧ t'.abilities=t.abilities := by
  induction l generalizing t with
  | nil =>
    cases h
    simp
  | cons c l ih =>
    rw [foldlM_cons] at h
    obtain ⟨u,hu,hrest⟩ := Option.bind_eq_some_iff.mp h
    obtain ⟨hrows,habil⟩ := rows_create hu
    obtain ⟨hrws',habl'⟩ := ih hrest
    rw [hrws',habl',hrows,habil]
    simp

def Owned (t : Tables) : Prop := ∀ a∈t.abilities, ∃ c∈t.channels, c.id=a.channelId

lemma insertChunk_eq (hown : t.Owned) (h : t.insertChunk l=some t') :
    t'.channels.rows=t.channels.rows++l.map withDefaults ∧
      ∀ a, a∈t'.abilities ↔ a∈t.abilities ∨ ∃ c∈l.map withDefaults, a∈newAbilities c := by
  obtain ⟨u,hu,rfl⟩ := Option.map_eq_some_iff.mp h
  obtain ⟨hrows,habil⟩ := rows_foldlM_create hu
  obtain ⟨-,hids,hdisj⟩ := nodup_append.mp (map_append ▸ hrows ▸ u.channels.distinct)
  have hfresh : ∀ a∈u.abilities, a.channelId∉(l.map withDefaults).map Channel.id := by
    intro a ha hmem
    rw [habil] at ha
    obtain ⟨c,hc,hid⟩ := hown a ha
    exact hdisj _ (mem_map_of_mem hc) _ hmem hid
  refine ⟨?_,fun a => ?_⟩
  · rw [channels_foldl (f := addAbilities) fun _ _ => rfl]
    exact hrows
  · rw [mem_foldl_addAbilities hids hfresh,habil]

lemma Owned.insertChunk (hown : t.Owned) (h : t.insertChunk l=some t') : t'.Owned := by
  obtain ⟨hrows,habil⟩ := insertChunk_eq hown h
  have hmem : ∀ c, c∈t.channels ∨ c∈l.map withDefaults → c∈t'.channels := by
    intro c hc
    show c∈t'.channels.rows
    rw [hrows]
    exact mem_append.mpr hc
  intro a ha
  obtain ha | ⟨c,hc,ha⟩ := (habil a).mp ha
  · obtain ⟨c,hc,hid⟩ := hown a ha
    exact ⟨c,hmem c (.inl hc),hid⟩
  · exact ⟨c,hmem c (.inr hc),(isRow_of_mem_newAbilities ha).channelId.symm⟩

lemma foldlM_insertChunk_eq (hown : t.Owned)
    (h : chunks.foldlM insertChunk t=some t') : t'.channels.rows=t.channels.rows++chunks.flatten.map withDefaults ∧
      ∀ a, a∈t'.abilities ↔ a∈t.abilities ∨ ∃ c∈chunks.flatten.map withDefaults, a∈newAbilities c := by
  induction chunks generalizing t with
  | nil =>
    cases h
    simp
  | cons l chunks ih =>
    rw [foldlM_cons] at h
    obtain ⟨u,hu,hrest⟩ := Option.bind_eq_some_iff.mp h
    obtain ⟨hrows,habil⟩ := insertChunk_eq hown hu
    obtain ⟨hrws',habl'⟩ := ih (hown.insertChunk hu) hrest
    rw [hrws',hrows,flatten_cons,map_append,append_assoc]
    refine ⟨rfl,fun a => ?_⟩
    rw [habl',habil,or_assoc]
    simp only [mem_append,or_and_right,exists_or]

lemma batchInsert_mirrored_iff (h : t.Mirrored) (hrun : t.batchInsertChannels l=some t') :
    t'.Mirrored ↔ ∀ c∈l, DistinctKeys (withDefaults c) := by
  have hown : t.Owned := fun a ha => h.exists_channel ha
  obtain ⟨hrows,habil⟩ := foldlM_insertChunk_eq hown hrun
  rw [flatten_chunk] at hrows habil
  rw [mirrored_append_iff h hrows habil,forall_mem_map]

lemma insert_mirrored_iff (h : t.Mirrored) (hrun : t.insert c=some t') :
    t'.Mirrored ↔ DistinctKeys (withDefaults c) := by
  have hown : t.Owned := fun a ha => h.exists_channel ha
  have hchn : t.insertChunk [c]=some t' := by
    rw [← hrun]
    unfold insertChunk insert
    rw [foldlM_cons]
    cases t.create c with
    | none | some u => rfl
  obtain ⟨hrows,habil⟩ := insertChunk_eq hown hchn
  rw [mirrored_append_iff h hrows habil]
  simp

@[simp] lemma id_cleanStatusList (t : Tables) (u : ChannelUpdate) : (t.cleanStatusList u).id=u.id := by
  unfold cleanStatusList
  split <;> rfl

variable {c d : Channel} {u : ChannelUpdate}
lemma distinctKeys_congr (hgrp : c.group=d.group) (hmod : c.models=d.models) :
    DistinctKeys c ↔ DistinctKeys d := by simp only [DistinctKeys,Channel.pairs,Channel.groups,Channel.modelNames,hgrp,hmod]

lemma distinctKeys_clean (t : Tables) (u : ChannelUpdate) (c : Channel) :
    DistinctKeys ((t.cleanStatusList u).apply c) ↔ DistinctKeys (u.apply c) := by
  apply distinctKeys_congr
  · unfold cleanStatusList
    split <;> rfl
  · unfold cleanStatusList
    split <;> rfl

lemma mem_updates :
    d∈(t.updates u).channels ↔ ∃ c∈t.channels, (if c.id=u.id then u.apply c else c)=d := mem_map

lemma getChannelById_of_mem (hc : c∈t.channels) : t.getChannelById c.id=some c :=
  Table.lookup_of_mem t.channels.distinct hc

lemma not_mirrored_updateAbilities (h : t.getChannelById c.id=none) : ¬(t.updateAbilities c).Mirrored := by
  intro hmirr
  obtain ⟨a,ha⟩ := exists_newAbility c
  obtain ⟨d,hd,hid⟩ := hmirr.exists_channel (mem_updateAbilities.mpr (.inr ha))
  have hget := getChannelById_of_mem (t := t) hd
  rw [hid,(isRow_of_mem_newAbilities ha).channelId,h] at hget
  cases hget

lemma updates_mirrored_iff (h : t.Mirrored) (hc : c∈t.channels) (hid : c.id=u.id) :
    ((t.updates u).updateAbilities (u.apply c)).Mirrored ↔ DistinctKeys (u.apply c) := by
  have hf : ∀ d : Channel, (if d.id=u.id then u.apply d else d).id=d.id := by
    intro d
    split <;> rfl
  have hrest : ∀ d∈t.channels, d.id∉[u.apply c].map Channel.id → (if d.id=u.id then u.apply d else d)=d := by
    intro d _ hne
    apply if_neg
    intro hdu
    exact hne (mem_singleton.mpr (hdu.trans hid.symm))
  have hchan : ∀ d, d∈((t.updates u).updateAbilities (u.apply c)).channels ↔
      ∃ c∈t.channels, (if c.id=u.id then u.apply c else c)=d := fun d => mem_updates
  have habil : ∀ a, a∈((t.updates u).updateAbilities (u.apply c)).abilities ↔
      (a∈t.abilities ∧ a.channelId∉[u.apply c].map Channel.id) ∨ ∃ d∈[u.apply c], a∈newAbilities d := by
    intro a
    rw [mem_updateAbilities,map_singleton,mem_singleton]
    simp only [mem_singleton,exists_eq_left]
    rfl
  have hids : ([u.apply c].map Channel.id).Nodup := nodup_singleton _
  rw [mirrored_remake_iff h hf hids hrest hchan habil ?_,forall_mem_singleton]
  intro d hd
  rw [mem_singleton.mp hd]
  exact (hchan _).mpr ⟨c,hc,if_pos hid⟩

lemma update_mirrored_iff (h : t.Mirrored) (hrun : t.update u=some t') :
    t'.Mirrored ↔ ∃ c∈t.channels.rows, c.id=u.id ∧ DistinctKeys (u.apply c) := by
  unfold update at hrun
  split at hrun
  · cases hrun
  dsimp only at hrun
  simp only [← distinctKeys_clean t u]
  have hid := id_cleanStatusList t u
  generalize t.cleanStatusList u=v at hrun hid ⊢
  rw [← hid]
  cases hget : (t.updates v).getChannelById v.id with
  | none =>
    rw [hget,Option.getD_none,Option.some.injEq] at hrun
    subst t'
    constructor
    · exact fun hmirr => absurd hmirr (not_mirrored_updateAbilities hget)
    · rintro ⟨c,hc,hcid,-⟩
      have hmem : v.apply c∈(t.updates v).channels := mem_updates.mpr ⟨c,hc,if_pos hcid⟩
      have hrow : (t.updates v).getChannelById c.id=some (v.apply c) := getChannelById_of_mem hmem
      rw [hcid,hget] at hrow
      cases hrow
  | some d =>
    rw [hget,Option.getD_some,Option.some.injEq] at hrun
    subst t'
    obtain ⟨c,hc,hcd⟩ := mem_updates.mp (Table.mem_of_lookup hget)
    have hcid : c.id=v.id := by
      rw [← Table.key_of_lookup hget,← hcd]
      split <;> rfl
    rw [if_pos hcid] at hcd
    subst d
    rw [updates_mirrored_iff h hc hcid]
    constructor
    · exact fun hkeys => ⟨c,hc,hcid,hkeys⟩
    · rintro ⟨c',hc',hcid',hkeys⟩
      rwa [eq_of_key hc' hc (hcid'.trans hcid.symm)] at hkeys

lemma delete_mirrored (h : t.Mirrored) {id : ℕ} (hrun : t.delete id=some t') : t'.Mirrored := by
  unfold delete at hrun
  split at hrun
  · cases hrun
  cases hrun
  simp only [deleteAbilities,mem_singleton]
  exact mirrored_delete h fun i => i=id

lemma batchDelete_mirrored (h : t.Mirrored) (ids : List ℕ) : (t.batchDeleteChannels ids).Mirrored := by
  unfold batchDeleteChannels
  generalize chunk 200 ids=chunks
  induction chunks generalizing t with
  | nil => exact h
  | cons l chunks ih =>
    rw [foldl_cons]
    exact ih (mirrored_delete h fun i => i∈l)

structure SameBut (c d : Channel) : Prop where
  id : d.id=c.id
  group : d.group=c.group
  models : d.models=c.models
  priority : d.priority=c.priority
  weight : d.weight=c.weight
  tag : d.tag=c.tag

variable {d : Channel} {a : Ability} {i : ℕ}
lemma SameBut.ability (h : SameBut c d) (group model : String) :
    d.ability group model={ c.ability group model with enabled := d.status=statusEnabled } := by
  simp [Channel.ability,Channel.getPriority,Channel.getWeight,h.id,h.priority,h.weight,h.tag]

lemma hasEnabled_of_absent {keys : List String} {statusList : List (ℕ × ℤ)} (hi : i<keys.length)
    (h : ∀ s∈statusList, s.1≠i) : hasEnabledMultiKey keys statusList=true := by
  unfold hasEnabledMultiKey
  rw [any_eq_true]
  refine ⟨i,mem_range.mpr hi,?_⟩
  have hnone : statusList.lookup i=none := by
    rw [lookup_eq_none_iff]
    intro s hs
    simpa using Ne.symm (h s hs)
  rw [hnone]

lemma setKeyStatus_spec (c : Channel) (hi : i<c.channelInfo.keys.length) (status : ℤ) :
    SameBut c (setKeyStatus c i status) ∧ ((setKeyStatus c i status).status=c.status ∨
      ((setKeyStatus c i status).status=statusEnabled ↔ status=statusEnabled)) := by
  unfold setKeyStatus
  dsimp only
  by_cases henabled : status=statusEnabled
  · -- the key is off the list, so some key is enabled
    have hsome : hasEnabledMultiKey c.channelInfo.keys
        (c.channelInfo.multiKeyStatusList.filter fun s => s.1≠i)=true := by
      apply hasEnabled_of_absent hi
      intro s hs
      simpa using (mem_filter.mp hs).2
    simp only [henabled,if_true,hsome]
    exact ⟨⟨rfl,rfl,rfl,rfl,rfl,rfl⟩,.inr trivial⟩
  · simp only [henabled,if_false]
    split
    · exact ⟨⟨rfl,rfl,rfl,rfl,rfl,rfl⟩,.inl rfl⟩
    have hdis : statusAutoDisabled≠statusEnabled := by decide
    exact ⟨⟨rfl,rfl,rfl,rfl,rfl,rfl⟩,.inr ⟨fun h => hdis h,False.elim⟩⟩

lemma handlerMultiKeyUpdate_spec (c : Channel) (usingKey : String) (status : ℤ) :
    SameBut c (handlerMultiKeyUpdate c usingKey status) ∧ ((handlerMultiKeyUpdate c usingKey status).status=c.status ∨
      ((handlerMultiKeyUpdate c usingKey status).status=statusEnabled ↔ status=statusEnabled)) := by
  unfold handlerMultiKeyUpdate
  split
  · exact ⟨⟨rfl,rfl,rfl,rfl,rfl,rfl⟩,.inr Iff.rfl⟩
  split
  · split
    · exact ⟨⟨rfl,rfl,rfl,rfl,rfl,rfl⟩,.inl rfl⟩
    · exact ⟨⟨rfl,rfl,rfl,rfl,rfl,rfl⟩,.inr Iff.rfl⟩
  next i hi =>
  obtain ⟨hlt,-⟩ := List.findIdx?_eq_some_iff_getElem.mp hi
  exact setKeyStatus_spec c hlt status

lemma mem_saveWithoutKey :
    d∈(t.saveWithoutKey c).channels ↔ ∃ e∈t.channels, (if e.id=c.id then c else e)=d := mem_map

lemma save_mirrored (h : t.Mirrored) (hc : c∈t.channels) (hd : SameBut c d) :
    (d.status=c.status → (t.saveWithoutKey d).Mirrored) ∧
      ((t.saveWithoutKey d).updateAbilityStatus c.id (d.status=statusEnabled)).Mirrored := by
  have hf : ∀ e∈t.channels, (if e.id=d.id then d else e).id=e.id := by
    intro e _
    split
    next heq => exact heq.symm
    · rfl
  have heq : ∀ e∈t.channels, e.id=d.id → e=c := fun e he hid =>
    eq_of_key he hc (hid.trans hd.id)
  have hpairs : ∀ e∈t.channels, (if e.id=d.id then d else e).group=e.group ∧
      (if e.id=d.id then d else e).models=e.models := by
    intro e he
    split
    next hid =>
      rw [heq e he hid]
      exact ⟨hd.group,hd.models⟩
    · exact ⟨rfl,rfl⟩
  constructor
  · intro hstatus
    rw [mirrored_update_iff h (g := id) hf (fun _ => rfl) hpairs (fun e => mem_saveWithoutKey)
      (by intro b; simp only [id,exists_eq_right]; rfl)]
    intro e he group model _
    split
    next hid =>
      rw [heq e he hid,hd.ability,hstatus]
      rfl
    · rfl
  · have habil : ∀ b, b∈((t.saveWithoutKey d).updateAbilityStatus c.id (d.status=statusEnabled)).abilities ↔
        ∃ a∈t.abilities, (if a.channelId=c.id then { a with enabled := d.status=statusEnabled } else a)=b :=
      fun b => mem_map
    have hchan : ∀ e, e∈((t.saveWithoutKey d).updateAbilityStatus c.id (d.status=statusEnabled)).channels ↔
        ∃ c∈t.channels, (if c.id=d.id then d else c)=e := fun e => mem_saveWithoutKey
    rw [mirrored_update_iff h hf (by intro a; split <;> rfl) hpairs hchan habil]
    intro e he group model _
    by_cases hid : e.id=d.id
    · have hec := heq e he hid
      subst e
      rw [if_pos hid,hd.ability]
      exact if_pos rfl
    · rw [if_neg hid]
      exact if_neg fun hcid => hid (hcid.trans hd.id.symm)

lemma updateStoredStatus_mirrored (h : t.Mirrored) (channelId : ℕ) (usingKey : String) (status : ℤ) :
    (t.updateStoredStatus channelId usingKey status).Mirrored := by
  unfold updateStoredStatus
  cases hget : t.getChannelById channelId with
  | none => exact h
  | some c =>
    have hc : c∈t.channels := Table.mem_of_lookup hget
    obtain rfl : c.id=channelId := Table.key_of_lookup hget
    dsimp only
    split
    · exact h
    split
    · obtain ⟨hbut,hstatus⟩ := handlerMultiKeyUpdate_spec c usingKey status
      obtain ⟨hsame,hset⟩ := save_mirrored h hc hbut
      split
      next hne =>
        obtain heq | hiff := hstatus
        · exact absurd heq.symm hne
        · simpa only [hiff] using hset
      next heq => exact hsame (not_not.mp heq).symm
    · have hbut : SameBut c { c with status := status } := ⟨rfl,rfl,rfl,rfl,rfl,rfl⟩
      exact (save_mirrored h hc hbut).2

lemma updateChannelStatus_mirrored (h : t.Mirrored) (cache : Option ChannelCache) (channelId : ℕ)
    (usingKey : String) (status : ℤ) : (t.updateChannelStatus cache channelId usingKey status).2.Mirrored := by
  unfold updateChannelStatus
  split
  · exact updateStoredStatus_mirrored h channelId usingKey status
  split
  · exact h
  · exact updateStoredStatus_mirrored h channelId usingKey status

lemma setStatusByTag_mirrored (h : t.Mirrored) (tag : String) (status : ℤ) :
    ((t.setStatusByTag tag status).updateAbilityStatusByTag tag (status=statusEnabled)).Mirrored := by
  have hchan : ∀ d,d∈((t.setStatusByTag tag status).updateAbilityStatusByTag tag (status=statusEnabled)).channels ↔
        ∃ c∈t.channels, (if c.tag=some tag then { c with status := status } else c)=d := fun d => mem_map
  have habil : ∀ b,b∈((t.setStatusByTag tag status).updateAbilityStatusByTag tag (status=statusEnabled)).abilities ↔
        ∃ a∈t.abilities, (if a.tag=some tag then { a with enabled := status=statusEnabled } else a)=b :=
    fun b => mem_map
  rw [mirrored_update_iff h (by intro c _; split <;> rfl) (by intro a; split <;> rfl)
    (by intro c _; split <;> exact ⟨rfl,rfl⟩) hchan habil]
  intro c _ group model _
  by_cases htag : c.tag=some tag
  · rw [if_pos htag]
    exact if_pos htag
  · rw [if_neg htag]
    exact if_neg htag

lemma editAbility_iff (e : TagEdit) (c : Channel) (group model : String) :
    e.editAbility (c.ability group model)=(e.editChannel c).ability group model ↔
      (c.tag=some e.tag → e.weight=some 0 → c.getWeight=0) := by
  unfold TagEdit.editAbility TagEdit.editChannel
  by_cases htag : c.tag=some e.tag
  · have habil : (c.ability group model).tag=some e.tag := htag
    rw [if_pos htag,if_pos habil]
    have hpri : e.priority.getD c.getPriority=(e.priority.or c.priority).getD 0 := by
      cases e.priority <;> rfl
    have hnewT : e.newTag.or c.tag=some e.updatedTag := by
      rw [htag,TagEdit.updatedTag]
      cases e.newTag <;> rfl
    have hweig : (e.weight.filter (· ≠ 0)).getD c.getWeight=(e.weight.or c.weight).getD 0 ↔
        (e.weight=some 0 → c.getWeight=0) := by
      cases e.weight with
      | none => simp [Channel.getWeight]
      | some w => by_cases hw : w=0 <;> simp [Option.filter,hw]
    rw [show c.tag=some e.tag ↔ True from iff_of_true htag trivial,true_implies,← hweig]
    constructor
    · exact fun heq => congrArg Ability.weight heq
    · intro heq
      exact Ability.mk.injEq .. ▸ ⟨rfl,rfl,rfl,rfl,hpri,heq,hnewT⟩
  · have habil : (c.ability group model).tag≠some e.tag := htag
    rw [if_neg htag,if_neg habil]
    simp [htag]

lemma editAbilities_mirrored_iff (h : t.Mirrored) (e : TagEdit) (hkeep : e.shouldReCreateAbilities=false) :
    (t.editChannelByTag e).Mirrored ↔ (e.weight=some 0 → ∀ c∈t.channels.rows, c.tag=some e.tag → c.getWeight=0) := by
  have hpairs : ∀ c∈t.channels, (e.editChannel c).group=c.group ∧ (e.editChannel c).models=c.models := by
    intro c _
    unfold TagEdit.editChannel
    simp only [TagEdit.shouldReCreateAbilities,Bool.or_eq_false_iff] at hkeep
    split
    · have hnone : ∀ o : Option String, o.any (· ≠ "")=false → o.filter (· ≠ "")=none := by
        intro o ho
        cases o with
        | none => rfl
        | some x => simpa using ho
      simp only [hnone _ hkeep.1,hnone _ hkeep.2,Option.getD_none,and_self]
    · exact ⟨rfl,rfl⟩
  unfold editChannelByTag
  dsimp only
  rw [hkeep,if_neg Bool.false_ne_true,mirrored_update_iff h (fun c _ => e.id_editChannel c) e.key_editAbility hpairs
    (fun d => mem_update e.id_editChannel) (fun b => mem_update e.key_editAbility)]
  simp only [editAbility_iff]
  constructor
  · intro hall hweig c hc htag
    obtain ⟨-,group,model,hoff,-⟩ := exists_isRow c
    exact hall c hc group model hoff htag hweig
  · intro hall c hc group model _ htag hweig
    exact hall hweig c hc htag

lemma recreate_mirrored_iff (h : t.Mirrored) (e : TagEdit) (hnew : e.shouldReCreateAbilities=true) :
    (t.editChannelByTag e).Mirrored ↔
      ∀ c∈t.channels.rows, (e.editChannel c).tag=some e.updatedTag → DistinctKeys (e.editChannel c) := by
  let edited : KeyedTable Channel Channel.id := t.channels.update e.editChannel e.id_editChannel
  let l := edited.rows.filter fun c => c.tag=some e.updatedTag
  have hl : ∀ d, d∈l ↔ d∈edited ∧ d.tag=some e.updatedTag := by
    intro d
    show d∈edited.rows.filter _ ↔ d∈edited.rows ∧ _
    rw [mem_filter,decide_eq_true_eq]
  have hrun : t.editChannelByTag e=l.foldl updateAbilities ⟨edited,t.abilities⟩ := by
    unfold editChannelByTag
    dsimp only
    rw [hnew,if_pos rfl]
  have hchan : ∀ d, d∈(t.editChannelByTag e).channels ↔ ∃ c∈t.channels, e.editChannel c=d := by
    intro d
    rw [hrun,channels_foldl (f := updateAbilities) fun _ _ => rfl]
    exact mem_update e.id_editChannel
  have hids : (l.map Channel.id).Nodup := edited.distinct.sublist (filter_sublist.map _)
  have hrest : ∀ c∈t.channels, c.id∉l.map Channel.id → e.editChannel c=c := by
    intro c hc hnot
    by_cases htag : c.tag=some e.tag
    · -- an edited channel has the new tag
      refine absurd ?_ hnot
      rw [← e.id_editChannel c]
      apply mem_map_of_mem
      refine (hl _).mpr ⟨(mem_update e.id_editChannel).mpr ⟨c,hc,rfl⟩,?_⟩
      rw [TagEdit.editChannel,if_pos htag]
    · rw [TagEdit.editChannel,if_neg htag]
  rw [mirrored_remake_iff h e.id_editChannel hids hrest hchan ?_ ?_]
  · constructor
    · intro hall c hc htag
      exact hall _ ((hl _).mpr ⟨(mem_update e.id_editChannel).mpr ⟨c,hc,rfl⟩,htag⟩)
    · intro hall d hd
      obtain ⟨hd,htag⟩ := (hl d).mp hd
      obtain ⟨c,hc,rfl⟩ := (mem_update e.id_editChannel).mp hd
      exact hall c hc htag
  · intro a
    rw [hrun,mem_foldl_updateAbilities hids]
  · intro d hd
    exact (hchan d).mpr ((mem_update e.id_editChannel).mp ((hl d).mp hd).1)

lemma setTag_mirrored_iff (h : t.Mirrored) (ids : List ℕ) (tag : Option String) :
    (t.batchSetChannelTag ids tag).Mirrored ↔ ∀ c∈t.channels.rows, c.id∈ids → c.tag=tag ∧ DistinctKeys c := by
  let l := t.channels.rows.filter fun c => c.id∈ids
  have hl : ∀ d, d∈l ↔ d∈t.channels ∧ d.id∈ids := by
    intro d
    show d∈t.channels.rows.filter _ ↔ d∈t.channels.rows ∧ _
    rw [mem_filter,decide_eq_true_eq]
  have hids : (l.map Channel.id).Nodup := t.channels.distinct.sublist (filter_sublist.map _)
  have hchan : ∀ d, d∈(t.batchSetChannelTag ids tag).channels ↔
      ∃ c∈t.channels, (if c.id∈ids then { c with tag := tag } else c)=d := by
    intro d
    rw [batchSetChannelTag,channels_foldl (f := updateAbilities) fun _ _ => rfl]
    exact mem_map
  have hrest : ∀ c∈t.channels, c.id∉l.map Channel.id → (if c.id∈ids then { c with tag := tag } else c)=c := by
    intro c hc hnot
    apply if_neg
    intro hmem
    exact hnot (mem_map_of_mem ((hl c).mpr ⟨hc,hmem⟩))
  rw [mirrored_recreate_iff h (by intro c; split <;> rfl) hids hrest hchan
    (fun a => mem_foldl_updateAbilities hids) fun d hd => ⟨d,((hl d).mp hd).1,rfl⟩]
  constructor
  · intro hall c hc hmem
    have hrows := hall c hc c ((hl c).mpr ⟨hc,hmem⟩) rfl
    rw [if_pos hmem] at hrows
    obtain ⟨a,ha⟩ := exists_newAbility c
    obtain ⟨g,m,-,hold⟩ := isRow_of_mem_newAbilities ha
    obtain ⟨g',m',-,hnew⟩ := (hrows a).mp ha
    have htag : c.tag=tag := by
      rw [show c.tag=a.tag by rw [hold]; rfl,hnew]
      rfl
    subst tag
    exact ⟨rfl,newAbilities_iff.mp hrows⟩
  · intro hall c hc d hd hid
    obtain ⟨hd,hmem⟩ := (hl d).mp hd
    obtain rfl : d=c := eq_of_key hd hc hid
    obtain ⟨htag,hkeys⟩ := hall d hd hmem
    rw [if_pos hmem,← htag]
    exact newAbilities_iff.mpr hkeys

lemma mem_fixChunk (hids : (l.map Channel.id).Nodup) : a∈(t.fixChunk l).abilities ↔
      (a∈t.abilities ∧ a.channelId∉l.map Channel.id) ∨ ∃ c∈l, a∈newAbilities c := by
  rw [fixChunk,mem_foldl_addAbilities hids fun a ha => (mem_deleteAbilities.mp ha).2,mem_deleteAbilities]

lemma mem_foldl_fixChunk (hids : (chunks.flatten.map Channel.id).Nodup)
    (hfresh : ∀ a∈t.abilities, a.channelId∉chunks.flatten.map Channel.id) :
    a∈(chunks.foldl fixChunk t).abilities ↔ a∈t.abilities ∨ ∃ c∈chunks.flatten, a∈newAbilities c := by
  induction chunks generalizing t with
  | nil => simp
  | cons l chunks ih =>
    rw [flatten_cons,map_append] at hids hfresh
    obtain ⟨hl,hrest,hdisj⟩ := nodup_append.mp hids
    have hold : ∀ a∈t.abilities, a.channelId∉l.map Channel.id ∧ a.channelId∉chunks.flatten.map Channel.id := by
      intro a ha
      simpa only [mem_append,not_or] using hfresh a ha
    have hmem : ∀ a, a∈(t.fixChunk l).abilities ↔ a∈t.abilities ∨ ∃ c∈l, a∈newAbilities c := by
      intro a
      rw [mem_fixChunk hl,and_iff_left_of_imp fun ha => (hold a ha).1]
    rw [foldl_cons,ih hrest,hmem,or_assoc]
    · simp only [flatten_cons,mem_append,or_and_right,exists_or]
    · intro b hb
      obtain hb | ⟨c,hc,hb⟩ := (hmem b).mp hb
      · exact (hold b hb).2
      rw [(isRow_of_mem_newAbilities hb).channelId]
      exact fun hin => hdisj _ (mem_map_of_mem hc) _ hin rfl

lemma fixAbility_mirrored_iff (t : Tables) : t.fixAbility.Mirrored ↔ ∀ c∈t.channels.rows, DistinctKeys c := by
  have hrows : t.fixAbility.channels.rows=empty.channels.rows++t.channels.rows := by
    rw [fixAbility,channels_foldl (f := fixChunk) fun t l => channels_foldl (f := addAbilities) (fun _ _ => rfl) l _]
    rfl
  refine mirrored_append_iff mirrored_empty hrows fun a => ?_
  rw [fixAbility,mem_foldl_fixChunk,flatten_chunk]
  · rfl
  · rw [flatten_chunk]
    exact t.channels.distinct
  · exact fun b hb => absurd hb (not_mem_empty b)

/-- The operation leaves the abilities a mirror: no channel has two pairs that are taken for the same, an update
finds its row, a weight set to 0 was 0 before, a tag that is set was set before, and a deletion by status finds
nothing. -/
def Keeps (t : Tables) : Operation → Prop
  | .insert c => DistinctKeys (withDefaults c)
  | .batchInsertChannels channels => ∀ c∈channels, DistinctKeys (withDefaults c)
  | .update u => ∃ c∈t.channels.rows, c.id=u.id ∧ DistinctKeys (u.apply c)
  | .editChannelByTag e =>
    if e.shouldReCreateAbilities then
      ∀ c∈t.channels.rows, (e.editChannel c).tag=some e.updatedTag → DistinctKeys (e.editChannel c)
    else e.weight=some 0 → ∀ c∈t.channels.rows, c.tag=some e.tag → c.getWeight=0
  | .batchSetChannelTag ids tag => ∀ c∈t.channels.rows, c.id∈ids → c.tag=tag ∧ DistinctKeys c
  | .deleteChannelByStatus status => ∀ c∈t.channels.rows, c.status≠status
  | .deleteDisabledChannel => ∀ c∈t.channels.rows, c.status≠statusAutoDisabled ∧ c.status≠statusManuallyDisabled
  | .fixAbility => ∀ c∈t.channels.rows, DistinctKeys c
  | .delete _ | .batchDeleteChannels _ | .updateChannelStatus .. | .enableChannelByTag _ | .disableChannelByTag _ => True

instance (t : Tables) (op : Operation) : Decidable (t.Keeps op) := by
  cases op <;> (unfold Keeps; infer_instance)

lemma run_mirrored_iff (h : t.Mirrored) {op : Operation} (hrun : t.run op=some t') : t'.Mirrored ↔ t.Keeps op := by
  cases op with
  | insert c => exact insert_mirrored_iff h hrun
  | batchInsertChannels channels => exact batchInsert_mirrored_iff h hrun
  | update u => exact update_mirrored_iff h hrun
  | delete id => exact iff_of_true (delete_mirrored h hrun) trivial
  | batchDeleteChannels ids =>
    cases hrun
    exact iff_of_true (batchDelete_mirrored h ids) trivial
  | updateChannelStatus cache channelId usingKey status =>
    cases hrun
    exact iff_of_true (updateChannelStatus_mirrored h cache channelId usingKey status) trivial
  | enableChannelByTag tag =>
    cases hrun
    exact iff_of_true (setStatusByTag_mirrored h tag statusEnabled) trivial
  | disableChannelByTag tag =>
    cases hrun
    exact iff_of_true (setStatusByTag_mirrored h tag statusManuallyDisabled) trivial
  | editChannelByTag e =>
    cases hrun
    by_cases hnew : e.shouldReCreateAbilities=true
    · rw [Keeps,if_pos hnew]
      exact recreate_mirrored_iff h e hnew
    · rw [Keeps,if_neg hnew]
      exact editAbilities_mirrored_iff h e (Bool.eq_false_iff.mpr hnew)
  | batchSetChannelTag ids tag =>
    cases hrun
    exact setTag_mirrored_iff h ids tag
  | deleteChannelByStatus status =>
    cases hrun
    refine (mirrored_orphan_iff h _).trans (forall₂_congr fun c _ => ?_)
    rw [decide_eq_false_iff_not]
  | deleteDisabledChannel =>
    cases hrun
    refine (mirrored_orphan_iff h _).trans (forall₂_congr fun c _ => ?_)
    rw [decide_eq_false_iff_not,not_or]
  | fixAbility =>
    cases hrun
    exact fixAbility_mirrored_iff t

/-- From an empty database the abilities mirror the channels after each of a sequence of operations exactly when
all of these keep them so. -/
theorem history_mirrored_iff {ops : List Operation} (h : exec run empty ops=some t) :
    (∀ done t, done <+: ops → exec run empty done=some t → t.Mirrored) ↔ Schedule.Runs run Keeps empty ops t :=
  always_iff (fun _ _ _ hmirr hrun => run_mirrored_iff hmirr hrun) h mirrored_empty

def gpt4o : Channel :=
  ⟨1,1,1,none,"gpt-4o,gpt-4o-mini","default,vip",some 10,some "main",none,⟨false,[],[]⟩⟩

def astray (t : Tables) : Bool :=
  (t.abilities.rows.any fun a => t.channels.rows.all fun c => c.ability a.group a.model≠a) ||
    t.channels.rows.any fun c => c.pairs.any fun p => c.ability p.1 p.2∉t.abilities.rows

lemma not_mirrored_of_astray (h : t.astray=true) : ¬t.Mirrored := by
  intro hmirr
  obtain ⟨hown,hall⟩ := mirrored_iff.mp hmirr
  simp only [astray,Bool.or_eq_true,any_eq_true,all_eq_true,decide_eq_true_eq] at h
  obtain ⟨a,ha,hnone⟩ | ⟨c,hc,p,hp,hnot⟩ := h
  · obtain ⟨c,hc,group,model,-,rfl⟩ := hown a ha
    exact hnone c hc rfl
  · exact hnot (hall c hc _ ⟨p.1,p.2,mem_pairs.mp hp,rfl⟩)

/-- A channel that is added, edited by its tag, disabled and enabled again has its abilities all along. -/
theorem tagged_history_mirrored :
    ∃ t, exec run empty [.insert gpt4o,.editChannelByTag ⟨"main",some "spare",none,none,some 5,some 3⟩,
        .updateChannelStatus none 1 "" statusAutoDisabled,.enableChannelByTag "spare"]=some t ∧ t.Mirrored := by
  obtain ⟨t,ht,hruns⟩ := runs_of_check run Keeps empty [.insert gpt4o,
    .editChannelByTag ⟨"main",some "spare",none,none,some 5,some 3⟩,
    .updateChannelStatus none 1 "" statusAutoDisabled,.enableChannelByTag "spare"] (by decide +kernel)
  exact ⟨t,ht,(history_mirrored_iff ht).mpr hruns _ t (prefix_refl _) ht⟩

/-- Histories after which the abilities are no mirror: a channel that was disabled is deleted by its status, a
channel is given another tag, the weight of a tag is set to 0, a channel is updated after it was deleted, and a
channel has the group `a|b` with the model `c` beside the group `a` with the model `b|c`. -/
theorem histories_astray :
    Forall (fun ops => ∃ t, exec run empty ops=some t ∧ ¬t.Mirrored)
      ([[.insert gpt4o,.updateChannelStatus none 1 "" statusManuallyDisabled,.deleteDisabledChannel],
        [.insert gpt4o,.batchSetChannelTag [1] (some "spare")],
        [.insert { gpt4o with weight := some 7 },.editChannelByTag ⟨"main",none,none,none,none,some 0⟩],
        [.insert gpt4o,.delete 1,.update ⟨1,0,0,none,"gpt-4o","",none,none,none,[],none⟩],
        [.insert { gpt4o with group := "a|b,a",models := "c,b|c" }]] : List (List Operation)) := by
  have hastr : ∀ ops : List Operation, (exec run empty ops).any astray=true →
      ∃ t, exec run empty ops=some t ∧ ¬t.Mirrored := by
    intro ops h
    obtain ⟨t,ht,hstr⟩ := (Option.any_eq_true _ _).mp h
    exact ⟨t,ht,not_mirrored_of_astray hstr⟩
  refine ⟨hastr _ ?_,hastr _ ?_,hastr _ ?_,hastr _ ?_,hastr _ ?_⟩ <;> decide +kernel
end Tables
end AronaApi.Channels
