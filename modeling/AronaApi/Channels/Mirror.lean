import AronaApi.Channels.Operations
import AronaApi.Lib.Schedule

/-! When the operations on channels keep the abilities table a mirror of the channels table. Each of them edits
both tables, or makes the abilities of some channels anew, or forgets one of the two. -/
namespace AronaApi.Channels
open List KeyedTable
namespace Tables

variable {c : Channel} {a : Ability} {pairs : List (String × String)} {p : String × String}
def IsRow (c : Channel) (a : Ability) : Prop := ∃ group model, c.Offers group model ∧ a=c.ability group model

lemma IsRow.channelId (h : IsRow c a) : a.channelId=c.id := by
  obtain ⟨group,model,-,rfl⟩ := h
  rfl

lemma exists_isRow (c : Channel) : ∃ a, IsRow c a := by
  have hsplit : ∀ s : String, ∃ x, x∈GoStd.split s ',' := fun s =>
    exists_mem_of_ne_nil _ (by simp [GoStd.split,splitOn_ne_nil])
  obtain ⟨group,hgrp⟩ := hsplit c.group
  obtain ⟨model,hmdl⟩ := hsplit c.models
  exact ⟨_,group,model,⟨hgrp,hmdl⟩,rfl⟩

def DistinctKeys (c : Channel) : Prop :=
  ∀ p∈c.pairs, ∀ q∈c.pairs, abilityKey p.1 p.2=abilityKey q.1 q.2 → p=q

instance : Decidable (DistinctKeys c) := by
  unfold DistinctKeys
  infer_instance

lemma mem_collectAbilities {seen : List String} (h : a∈collectAbilities c pairs seen) :
    (a.group,a.model)∈pairs ∧ abilityKey a.group a.model∉seen ∧ a=c.ability a.group a.model := by
  induction pairs generalizing seen with
  | nil => cases h
  | cons p pairs ih =>
    unfold collectAbilities at h
    split at h
    · obtain ⟨hmem,hseen,ha⟩ := ih h
      exact ⟨mem_cons_of_mem _ hmem,hseen,ha⟩
    next hp =>
    obtain rfl | h := mem_cons.mp h
    · exact ⟨mem_cons_self,hp,rfl⟩
    obtain ⟨hmem,hseen,ha⟩ := ih h
    exact ⟨mem_cons_of_mem _ hmem,fun hin => hseen (mem_cons_of_mem _ hin),ha⟩

lemma nodup_collectAbilities (c : Channel) (pairs : List (String × String)) (seen : List String) :
    ((collectAbilities c pairs seen).map fun a => abilityKey a.group a.model).Nodup := by
  induction pairs generalizing seen with
  | nil => exact nodup_nil
  | cons p pairs ih =>
    unfold collectAbilities
    split
    · exact ih seen
    rw [map_cons,nodup_cons]
    refine ⟨fun hmem => ?_,ih _⟩
    obtain ⟨a,ha,hkey⟩ := mem_map.mp hmem
    apply (mem_collectAbilities ha).2.1
    rw [hkey]
    exact mem_cons_self

lemma exists_mem_collectAbilities (c : Channel) (seen : List String) (hp : p∈pairs) :
    abilityKey p.1 p.2∈seen ∨ ∃ q∈pairs, abilityKey q.1 q.2=abilityKey p.1 p.2 ∧
      c.ability q.1 q.2∈collectAbilities c pairs seen := by
  induction pairs generalizing seen with
  | nil => cases hp
  | cons r pairs ih =>
    unfold collectAbilities
    split
    next hr =>
      obtain rfl | hp := mem_cons.mp hp
      · exact .inl hr
      obtain hseen | ⟨q,hq,hkey,hmem⟩ := ih seen hp
      · exact .inl hseen
      · exact .inr ⟨q,mem_cons_of_mem _ hq,hkey,hmem⟩
    obtain rfl | hp := mem_cons.mp hp
    · exact .inr ⟨p,mem_cons_self,rfl,mem_cons_self⟩
    obtain hseen | ⟨q,hq,hkey,hmem⟩ := ih (abilityKey r.1 r.2::seen) hp
    · obtain hkey | hseen := mem_cons.mp hseen
      · exact .inr ⟨r,mem_cons_self,hkey.symm,mem_cons_self⟩
      · exact .inl hseen
    · exact .inr ⟨q,mem_cons_of_mem _ hq,hkey,mem_cons_of_mem _ hmem⟩

lemma mem_modelPairs :
    (p∈c.modelNames.flatMap fun model => c.groups.map fun group => (group,model)) ↔ c.Offers p.1 p.2 := by
  obtain ⟨group,model⟩ := p
  simp [Channel.Offers,and_comm]

lemma isRow_of_mem_newAbilities (h : a∈newAbilities c) : IsRow c a := by
  obtain ⟨hmem,-,ha⟩ := mem_collectAbilities h
  exact ⟨a.group,a.model,mem_modelPairs.mp hmem,ha⟩

lemma nodup_newAbilities (c : Channel) : ((newAbilities c).map Ability.key).Nodup := by
  have hndp := nodup_collectAbilities c (c.modelNames.flatMap fun model => c.groups.map fun group => (group,model)) []
  apply List.Nodup.of_map fun k : String × String × ℕ => abilityKey k.1 k.2.1
  rw [map_map]
  exact hndp

lemma newAbilities_complete_iff : (∀ a, IsRow c a → a∈newAbilities c) ↔ DistinctKeys c := by
  constructor
  · rintro hall ⟨g,m⟩ hp ⟨g',m'⟩ hq hkey
    have hrow := hall _ ⟨g,m,mem_pairs.mp hp,rfl⟩
    have hrow' := hall _ ⟨g',m',mem_pairs.mp hq,rfl⟩
    have heq : c.ability g m=c.ability g' m' :=
      inj_on_of_nodup_map (nodup_collectAbilities c _ _) hrow hrow' hkey
    injection heq with hg hm
    rw [hg,hm]
  · rintro hkeys a ⟨g,m,hoff,rfl⟩
    obtain hseen | ⟨q,hq,hkey,hmem⟩ := exists_mem_collectAbilities c [] (mem_modelPairs (p := (g,m)).mpr hoff)
    · cases hseen
    have heq := hkeys q (mem_pairs.mpr (mem_modelPairs.mp hq)) (g,m) (mem_pairs.mpr hoff) hkey
    rw [heq] at hmem
    exact hmem

lemma newAbilities_iff : (∀ a, a∈newAbilities c ↔ IsRow c a) ↔ DistinctKeys c := by
  rw [← newAbilities_complete_iff]
  constructor
  · exact fun hall a => (hall a).mpr
  · exact fun hall a => ⟨isRow_of_mem_newAbilities,hall a⟩

lemma exists_newAbility (c : Channel) : ∃ a, a∈newAbilities c := by
  obtain ⟨-,group,model,hoff,-⟩ := exists_isRow c
  obtain hseen | ⟨q,-,-,hmem⟩ := exists_mem_collectAbilities c [] (mem_modelPairs (p := (group,model)).mpr hoff)
  · cases hseen
  · exact ⟨_,hmem⟩

variable {t : Tables} {l : List Channel}
lemma mem_deleteAbilities {ids : List ℕ} : a∈(t.deleteAbilities ids).abilities ↔ a∈t.abilities ∧ a.channelId∉ids := by
  rw [deleteAbilities,mem_delete,decide_eq_false_iff_not]

lemma mem_addAbilities (h : ∀ a∈t.abilities, a.channelId≠c.id) :
    a∈(t.addAbilities c).abilities ↔ a∈t.abilities ∨ a∈newAbilities c := by
  apply mem_insertIgnore (nodup_newAbilities c)
  intro r hr s hs hkey
  apply h s hs
  rw [← (isRow_of_mem_newAbilities hr).channelId]
  exact congrArg (·.2.2) hkey

lemma mem_foldl_addAbilities (hids : (l.map Channel.id).Nodup) (h : ∀ a∈t.abilities, a.channelId∉l.map Channel.id) :
    a∈(l.foldl addAbilities t).abilities ↔ a∈t.abilities ∨ ∃ c∈l, a∈newAbilities c := by
  induction l generalizing t with
  | nil => simp
  | cons c l ih =>
    rw [map_cons,nodup_cons] at hids
    have hc : ∀ a∈t.abilities, a.channelId≠c.id := fun a ha heq => h a ha (heq ▸ mem_cons_self)
    rw [foldl_cons,ih hids.2,mem_addAbilities hc,exists_mem_cons_iff,or_assoc]
    intro b hb
    obtain hb | hb := (mem_addAbilities hc).mp hb
    · exact fun hmem => h b hb (mem_cons_of_mem _ hmem)
    rw [(isRow_of_mem_newAbilities hb).channelId]
    exact hids.1

lemma mem_updateAbilities :
    a∈(t.updateAbilities c).abilities ↔ (a∈t.abilities ∧ a.channelId≠c.id) ∨ a∈newAbilities c := by
  have hgone : ∀ a∈(t.deleteAbilities [c.id]).abilities, a.channelId≠c.id := by
    intro a ha
    simpa using (mem_deleteAbilities.mp ha).2
  rw [updateAbilities,mem_addAbilities hgone,mem_deleteAbilities,mem_singleton]

lemma mem_foldl_updateAbilities (hids : (l.map Channel.id).Nodup) : a∈(l.foldl updateAbilities t).abilities ↔
      (a∈t.abilities ∧ a.channelId∉l.map Channel.id) ∨ ∃ c∈l, a∈newAbilities c := by
  induction l generalizing t with
  | nil => simp
  | cons c l ih =>
    rw [map_cons,nodup_cons] at hids
    rw [foldl_cons,ih hids.2,mem_updateAbilities,exists_mem_cons_iff,map_cons,mem_cons]
    constructor
    · rintro (⟨⟨ha,hc⟩ | ha,hl⟩ | ha)
      · exact .inl ⟨ha,not_or.mpr ⟨hc,hl⟩⟩
      · exact .inr (.inl ha)
      · exact .inr (.inr ha)
    · rintro (⟨ha,hids'⟩ | ha | ha)
      · rw [not_or] at hids'
        exact .inl ⟨.inl ⟨ha,hids'.1⟩,hids'.2⟩
      · refine .inl ⟨.inr ha,?_⟩
        rw [(isRow_of_mem_newAbilities ha).channelId]
        exact hids.1
      · exact .inr ha

lemma channels_foldl {β : Type*} {f : Tables → β → Tables} (hf : ∀ t b, (f t b).channels=t.channels)
    (l : List β) (t : Tables) : (l.foldl f t).channels=t.channels := by
  induction l generalizing t with
  | nil => rfl
  | cons b l ih => rw [foldl_cons,ih,hf]

def Mirrored (t : Tables) : Prop := Mirrors t.channels.rows t.abilities.rows

variable {t' : Tables}
lemma mirrored_iff : t.Mirrored ↔ (∀ a∈t.abilities, ∃ c∈t.channels, IsRow c a) ∧
      ∀ c∈t.channels, ∀ a, IsRow c a → a∈t.abilities := by
  constructor
  · intro h
    exact ⟨fun a ha => (h.rows a).mp ha,fun c hc a ha => (h.rows a).mpr ⟨c,hc,ha⟩⟩
  · rintro ⟨hown,hall⟩
    exact ⟨fun a => ⟨hown a,fun ⟨c,hc,ha⟩ => hall c hc a ha⟩,t.abilities.nodup_rows⟩

lemma mirrored_empty : empty.Mirrored :=
  mirrored_iff.mpr ⟨fun _ ha => absurd ha (not_mem_empty _),fun _ hc => absurd hc (not_mem_empty _)⟩

lemma Mirrored.exists_channel (h : t.Mirrored) (ha : a∈t.abilities) : ∃ c∈t.channels, c.id=a.channelId := by
  obtain ⟨c,hc,hrow⟩ := (mirrored_iff.mp h).1 a ha
  exact ⟨c,hc,hrow.channelId.symm⟩

variable {f : Channel → Channel}
variable (h : t.Mirrored)
include h
lemma mirrored_append_iff (hrows : t'.channels.rows=t.channels.rows++l)
    (habil : ∀ a, a∈t'.abilities ↔ a∈t.abilities ∨ ∃ c∈l, a∈newAbilities c) : t'.Mirrored ↔ ∀ c∈l, DistinctKeys c := by
  obtain ⟨hown,hall⟩ := mirrored_iff.mp h
  have hchan : ∀ c, c∈t'.channels ↔ c∈t.channels ∨ c∈l := by
    intro c
    show c∈t'.channels.rows ↔ c∈t.channels.rows ∨ c∈l
    rw [hrows,mem_append]
  -- the ids of the table are distinct, so the new ones are
  obtain ⟨-,hids,hdisj⟩ := nodup_append.mp (map_append ▸ hrows ▸ t'.channels.distinct)
  have hfresh : ∀ c∈l, ∀ d∈t.channels, d.id≠c.id := fun c hc d hd =>
    hdisj _ (mem_map_of_mem hd) _ (mem_map_of_mem hc)
  rw [mirrored_iff]
  constructor
  · rintro ⟨-,hall'⟩ c hc
    rw [← newAbilities_complete_iff]
    intro a ha
    obtain hold | ⟨d,hd,hnew⟩ := (habil a).mp (hall' c ((hchan c).mpr (.inr hc)) a ha)
    · obtain ⟨d,hd,hid⟩ := h.exists_channel hold
      exact absurd (hid.trans ha.channelId) (hfresh c hc d hd)
    · have hdc : d.id=c.id := (isRow_of_mem_newAbilities hnew).channelId.symm.trans ha.channelId
      rwa [inj_on_of_nodup_map hids hd hc hdc] at hnew
  · intro hkeys
    constructor
    · intro a ha
      obtain hold | ⟨c,hc,hnew⟩ := (habil a).mp ha
      · obtain ⟨c,hc,hrow⟩ := hown a hold
        exact ⟨c,(hchan c).mpr (.inl hc),hrow⟩
      · exact ⟨c,(hchan c).mpr (.inr hc),isRow_of_mem_newAbilities hnew⟩
    · intro c hc a ha
      obtain hc | hc := (hchan c).mp hc
      · exact (habil a).mpr (.inl (hall c hc a ha))
      · exact (habil a).mpr (.inr ⟨c,hc,newAbilities_complete_iff.mpr (hkeys c hc) a ha⟩)

section
variable (hf : ∀ c, (f c).id=c.id) (hids : (l.map Channel.id).Nodup)
  (hrest : ∀ c∈t.channels, c.id∉l.map Channel.id → f c=c) (hchan : ∀ d, d∈t'.channels ↔ ∃ c∈t.channels, f c=d)
  (habil : ∀ a, a∈t'.abilities ↔ (a∈t.abilities ∧ a.channelId∉l.map Channel.id) ∨ ∃ c∈l, a∈newAbilities c)
include hf hids hrest hchan habil
lemma mirrored_recreate_iff (hl : ∀ d∈l, ∃ c∈t.channels, c.id=d.id) :
    t'.Mirrored ↔ ∀ c∈t.channels, ∀ d∈l, d.id=c.id → ∀ a, a∈newAbilities d ↔ IsRow (f c) a := by
  obtain ⟨hown,hall⟩ := mirrored_iff.mp h
  rw [mirrored_iff]
  constructor
  · rintro ⟨hown',hall'⟩ c hc d hd hid a
    constructor
    · intro ha
      obtain ⟨c',hc',hrow⟩ := hown' a ((habil a).mpr (.inr ⟨d,hd,ha⟩))
      obtain ⟨e,he,rfl⟩ := (hchan c').mp hc'
      have hec : e.id=c.id := by rw [← hf e,← hrow.channelId,(isRow_of_mem_newAbilities ha).channelId,hid]
      rwa [eq_of_key he hc hec] at hrow
    · intro ha
      have hac : a.channelId=d.id := by rw [ha.channelId,hf,hid]
      obtain ⟨-,hnot⟩ | ⟨e,he,hnew⟩ := (habil a).mp (hall' (f c) ((hchan _).mpr ⟨c,hc,rfl⟩) a ha)
      · exact absurd (hac ▸ mem_map_of_mem hd) hnot
      have hed : e.id=d.id := (isRow_of_mem_newAbilities hnew).channelId.symm.trans hac
      rwa [inj_on_of_nodup_map hids he hd hed] at hnew
  · intro hnew
    constructor
    · intro a ha
      obtain ⟨hold,hnot⟩ | ⟨d,hd,ha⟩ := (habil a).mp ha
      · obtain ⟨c,hc,hrow⟩ := hown a hold
        exact ⟨c,(hchan c).mpr ⟨c,hc,hrest c hc (hrow.channelId ▸ hnot)⟩,hrow⟩
      · obtain ⟨c,hc,hid⟩ := hl d hd
        exact ⟨f c,(hchan _).mpr ⟨c,hc,rfl⟩,(hnew c hc d hd hid.symm a).mp ha⟩
    · intro c' hc' a ha
      obtain ⟨c,hc,rfl⟩ := (hchan c').mp hc'
      by_cases hid : c.id∈l.map Channel.id
      · obtain ⟨d,hd,hdc⟩ := mem_map.mp hid
        exact (habil a).mpr (.inr ⟨d,hd,(hnew c hc d hd hdc a).mpr ha⟩)
      · rw [hrest c hc hid] at ha
        exact (habil a).mpr (.inl ⟨hall c hc a ha,ha.channelId ▸ hid⟩)

lemma mirrored_remake_iff (hmem : ∀ d∈l, d∈t'.channels) : t'.Mirrored ↔ ∀ d∈l, DistinctKeys d := by
  have hl : ∀ d∈l, ∃ c∈t.channels, f c=d := fun d hd => (hchan d).mp (hmem d hd)
  have hl' : ∀ d∈l, ∃ c∈t.channels, c.id=d.id := by
    intro d hd
    obtain ⟨c,hc,rfl⟩ := hl d hd
    exact ⟨c,hc,(hf c).symm⟩
  rw [mirrored_recreate_iff h hf hids hrest hchan habil hl']
  constructor
  · intro hall d hd
    obtain ⟨c,hc,rfl⟩ := hl d hd
    exact newAbilities_iff.mp (hall c hc (f c) hd (hf c))
  · intro hkeys c hc d hd hid
    obtain ⟨e,he,rfl⟩ := hl d hd
    obtain rfl : e=c := eq_of_key he hc ((hf e).symm.trans hid)
    exact newAbilities_iff.mpr (hkeys _ hd)
end

lemma mirrored_update_iff {g : Ability → Ability} (hf : ∀ c∈t.channels, (f c).id=c.id)
    (hg : ∀ a, (g a).key=a.key) (hpairs : ∀ c∈t.channels, (f c).group=c.group ∧ (f c).models=c.models)
    (hchan : ∀ d, d∈t'.channels ↔ ∃ c∈t.channels, f c=d) (habil : ∀ b, b∈t'.abilities ↔ ∃ a∈t.abilities, g a=b) :
    t'.Mirrored ↔
      ∀ c∈t.channels, ∀ group model, c.Offers group model → g (c.ability group model)=(f c).ability group model := by
  obtain ⟨hown,hall⟩ := mirrored_iff.mp h
  have hoff : ∀ c∈t.channels, ∀ group model, (f c).Offers group model ↔ c.Offers group model := by
    intro c hc group model
    obtain ⟨hgrp,hmod⟩ := hpairs c hc
    simp only [Channel.Offers,Channel.groups,Channel.modelNames,hgrp,hmod]
  rw [mirrored_iff]
  simp only [hchan,habil]
  constructor
  · rintro ⟨-,hall'⟩ c hc group model hofr
    obtain ⟨a,ha,heq⟩ := hall' (f c) ⟨c,hc,rfl⟩ _ ⟨group,model,(hoff c hc group model).mpr hofr,rfl⟩
    have hkey : a.key=(c.ability group model).key := by
      rw [← hg a,heq]
      simp [Ability.key,Channel.ability,hf c hc]
    rw [← heq,eq_of_key ha (hall c hc _ ⟨group,model,hofr,rfl⟩) hkey]
  · intro hrow
    constructor
    · rintro b ⟨a,ha,rfl⟩
      obtain ⟨c,hc,group,model,hofr,rfl⟩ := hown a ha
      exact ⟨f c,⟨c,hc,rfl⟩,group,model,(hoff c hc group model).mpr hofr,hrow c hc group model hofr⟩
    · rintro d ⟨c,hc,rfl⟩ b ⟨group,model,hofr,rfl⟩
      have hoff' := (hoff c hc group model).mp hofr
      exact ⟨c.ability group model,hall c hc _ ⟨group,model,hoff',rfl⟩,hrow c hc group model hoff'⟩

lemma mirrored_delete (p : ℕ → Bool) :
    (Tables.mk (t.channels.delete fun c => p c.id) (t.abilities.delete fun a => p a.channelId)).Mirrored := by
  obtain ⟨hown,hall⟩ := mirrored_iff.mp h
  rw [mirrored_iff]
  simp only [mem_delete]
  constructor
  · rintro a ⟨ha,hp⟩
    obtain ⟨c,hc,hrow⟩ := hown a ha
    exact ⟨c,⟨hc,hrow.channelId ▸ hp⟩,hrow⟩
  · rintro c ⟨hc,hp⟩ a hrow
    exact ⟨hall c hc a hrow,hrow.channelId.symm ▸ hp⟩

lemma mirrored_orphan_iff (p : Channel → Bool) :
    { t with channels := t.channels.delete p }.Mirrored ↔ ∀ c∈t.channels, p c=false := by
  obtain ⟨hown,hall⟩ := mirrored_iff.mp h
  rw [mirrored_iff]
  simp only [mem_delete]
  constructor
  · rintro ⟨hown',-⟩ c hc
    obtain ⟨a,ha⟩ := exists_isRow c
    obtain ⟨d,⟨hd,hp⟩,hrow⟩ := hown' a (hall c hc a ha)
    rwa [eq_of_key hd hc (hrow.channelId.symm.trans ha.channelId)] at hp
  · intro hnone
    constructor
    · intro a ha
      obtain ⟨c,hc,hrow⟩ := hown a ha
      exact ⟨c,⟨hc,hnone c hc⟩,hrow⟩
    · rintro c ⟨hc,-⟩ a hrow
      exact hall c hc a hrow
end Tables
end AronaApi.Channels
