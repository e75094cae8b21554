import AronaApi.Channels.Choice

/-! What a rebuild of the cache makes of the two tables: it panics when an enabled channel names a group that no
ability has, and otherwise lists every enabled channel once for each time its pairs say so.

The choice of a channel straight from the database (`model/ability.go`), which is made when the memory cache
is off: by priority first, then by request path, and by weight among what is left. -/
namespace AronaApi.Channels
open Selection List

variable {groups : List String}
lemma foldlM_addToIndex (id : ℕ) (pairs : List (String × String)) (index : Index) :
    pairs.foldlM (addToIndex groups id) index = if ∀ p∈pairs, p.1∈groups then
        some fun group model => index group model++(pairs.filter (· = (group,model))).map fun _ => id
      else none := by
  induction pairs generalizing index with
  | nil => simp
  | cons p pairs ih =>
    rw [foldlM_cons,addToIndex]
    by_cases hp : p.1∈groups
    · rw [if_pos hp,Option.bind_eq_bind,Option.bind_some,ih]
      simp only [forall_mem_cons,hp,true_and]
      split
      · congr 1
        funext group model
        by_cases hpair : (group,model)=p
        · simp [hpair]
        · simp [hpair,Ne.symm hpair]
      · rfl
    · rw [if_neg hp,if_neg]
      · rfl
      · intro hall
        exact hp (hall p mem_cons_self)

def Grouped (groups : List String) (c : Channel) : Prop := c.status=statusEnabled → ∀ p∈c.pairs, p.1∈groups

instance (c : Channel) : Decidable (Grouped groups c) := by
  unfold Grouped
  infer_instance

def Channel.entries (c : Channel) (group model : String) : List ℕ :=
  if c.status=statusEnabled then (c.pairs.filter (· = (group,model))).map fun _ => c.id else []

lemma foldlM_indexChannel (channels : List Channel) (index : Index) :
    channels.foldlM (indexChannel groups) index = if ∀ c∈channels, Grouped groups c then
        some fun group model => index group model++channels.flatMap fun c => c.entries group model
      else none := by
  induction channels generalizing index with
  | nil => simp
  | cons c channels ih =>
    have hstep : indexChannel groups index c =
        if Grouped groups c then some fun group model => index group model++c.entries group model else none := by
      unfold indexChannel Grouped Channel.entries
      by_cases hstatus : c.status=statusEnabled
      · simp only [hstatus,if_true,true_implies]
        exact foldlM_addToIndex c.id c.pairs index
      · simp [hstatus]
    rw [foldlM_cons,hstep]
    by_cases hc : Grouped groups c
    · rw [if_pos hc,Option.bind_eq_bind,Option.bind_some,ih]
      simp only [forall_mem_cons,hc,true_and]
      split
      · congr 1
        funext group model
        simp
      · rfl
    · rw [if_neg hc,if_neg]
      · rfl
      · intro hall
        exact hc (hall c mem_cons_self)

variable {channels : List Channel} {abilities : List Ability} {cache : ChannelCache} {group model : String}
    {c : Channel} {id : ℕ}

lemma initChannelCache_isSome_iff :
    (initChannelCache channels abilities).isSome ↔ ∀ c∈channels, Grouped (abilities.map Ability.group) c := by
  rw [initChannelCache,foldlM_indexChannel]
  by_cases h : ∀ c∈channels, Grouped (abilities.map Ability.group) c
  · simp only [if_pos h,Option.map_some,Option.isSome_some,true_iff]
    exact h
  · simp only [if_neg h,Option.map_none,Option.isSome_none,Bool.false_eq_true,false_iff]
    exact h

lemma sortByPriority_perm (ids : List ℕ) : (sortByPriority channels ids).Perm ids := perm_insertionSort _ _

section
variable (h : initChannelCache channels abilities=some cache)
include h
lemma initChannelCache_lists (group model : String) :
    (cache.group2model2channels group model).Perm (channels.flatMap fun c => c.entries group model) := by
  rw [initChannelCache,foldlM_indexChannel] at h
  split at h
  · cases h
    exact sortByPriority_perm _
  · cases h

lemma initChannelCache_channelsIDM (id : ℕ) : cache.channelsIDM id=Table.lookup Channel.id id channels := by
  rw [initChannelCache] at h
  obtain ⟨index,-,rfl⟩ := Option.map_eq_some_iff.mp h
  rfl

lemma initChannelCache_config (id : ℕ) :
    cache.channel2advancedCustomConfig id=(Table.lookup Channel.id id channels).bind fun c =>
      if c.type=typeAdvancedCustom then c.advancedCustom else none := by
  rw [initChannelCache] at h
  obtain ⟨index,-,rfl⟩ := Option.map_eq_some_iff.mp h
  rfl
end

lemma mem_pairs : (group,model)∈c.pairs ↔ c.Offers group model := by simp [Channel.pairs,Channel.Offers]

lemma mem_entries : id∈c.entries group model ↔ c.status=statusEnabled ∧ c.Offers group model ∧ id=c.id := by
  rw [Channel.entries,← mem_pairs]
  split
  next hstatus =>
    simp only [hstatus,true_and,mem_map,mem_filter,decide_eq_true_eq]
    constructor
    · rintro ⟨p,⟨hp,rfl⟩,rfl⟩
      exact ⟨hp,rfl⟩
    · rintro ⟨hp,rfl⟩
      exact ⟨(group,model),⟨hp,rfl⟩,rfl⟩
  next hstatus => simp [hstatus]

lemma mem_initChannelCache (h : initChannelCache channels abilities=some cache) :
    id∈cache.group2model2channels group model ↔
      ∃ c∈channels, c.status=statusEnabled ∧ c.Offers group model ∧ c.id=id := by
  rw [(initChannelCache_lists h group model).mem_iff,mem_flatMap]
  constructor
  · rintro ⟨c,hc,hid⟩
    obtain ⟨hstatus,hoff,rfl⟩ := mem_entries.mp hid
    exact ⟨c,hc,hstatus,hoff,rfl⟩
  · rintro ⟨c,hc,hstatus,hoff,rfl⟩
    exact ⟨c,hc,mem_entries.mpr ⟨hstatus,hoff,rfl⟩⟩

lemma listed_of_initChannelCache (h : initChannelCache channels abilities=some cache) :
    ∀ group model, ∀ id∈cache.group2model2channels group model, ∃ c, cache.channelsIDM id=some c ∧ c.id=id := by
  intro group model id hid
  obtain ⟨c,hc,-,-,rfl⟩ := (mem_initChannelCache h).mp hid
  obtain ⟨d,hd⟩ := Table.exists_lookup Channel.id hc
  exact ⟨d,(initChannelCache_channelsIDM h c.id).trans hd,Table.key_of_lookup hd⟩

open Ability

section
variable (abilities : List Ability) (group model : String)
def enabledAbilities : List Ability := abilities.filter fun a => a.group=group ∧ a.model=model ∧ a.enabled

/-- `getPriority`. -/
def getPriority (retry : ℕ) : Except String ℤ :=
  let priorities := levels priority (enabledAbilities abilities group model)
  if priorities=[] then .error "数据库一致性被破坏"
  else if priorities.length ≤ retry then .ok (priorities.getD (priorities.length-1) 0)
  else .ok (priorities.getD retry 0)

/-- `getChannelQuery` and its result: the rows of the highest priority at first, of the one that the retry asks
for later on. -/
def channelQuery (retry : ℕ) : Except String (List Ability) :=
  let rows := enabledAbilities abilities group model
  let byWeight (l : List Ability) := l.insertionSort fun a b => b.weight≤a.weight
  if retry≠0 then
    match getPriority abilities group model retry with
    | .error e => .error e
    | .ok priority => .ok (byWeight (rows.filter (·.priority=priority)))
  else .ok (byWeight (rows.filter fun a => (rows.map priority).max? = some a.priority))
end

def filterAbilitiesByRequestPath (channels : List Channel) (abilities : List Ability) (requestPath : String) :
    List Ability :=
  if requestPath = "" then abilities
  else abilities.filter fun a =>
    match Table.lookup Channel.id a.channelId channels with
    | none => true
    | some channel =>
      channel.type≠typeAdvancedCustom || channel.advancedCustom.any fun config => config.supportsPath requestPath

def drawWeight (a : Ability) : ℕ := a.weight+10

def pickAbility : ℕ → List Ability → Option Ability
  | _,[] => none
  | weight,a::as => if weight≤drawWeight a then some a else pickAbility (weight-drawWeight a) as

/-- `GetChannel`. -/
def getChannel (channels : List Channel) (abilities : List Ability) (rand : Rand) (group model : String)
    (retry : ℕ) (requestPath : String) : Except String (Option Channel) :=
  match channelQuery abilities group model retry with
  | .error e => .error e
  | .ok abilities =>
    let abilities := filterAbilitiesByRequestPath channels abilities requestPath
    if abilities=[] then .ok none
    else
      let weightSum := (abilities.map drawWeight).sum
      match (pickAbility (rand.intn weightSum) abilities).bind fun a => Table.lookup Channel.id a.channelId channels with
      | some channel => .ok (some channel)
      | none => .error "record not found"

def Channel.ability (c : Channel) (group model : String) : Ability :=
  ⟨group,model,c.id,c.status=statusEnabled,c.getPriority,c.getWeight,c.tag⟩

/-- The abilities table has one row for each pair of each channel and no others. -/
structure Mirrors (channels : List Channel) (abilities : List Ability) : Prop where
  rows : ∀ a, a∈abilities ↔ ∃ c∈channels, ∃ group model, c.Offers group model ∧ a=c.ability group model
  nodup : abilities.Nodup

def enabledChannels (channels : List Channel) (group model : String) : List Channel :=
  channels.filter fun c => c.status=statusEnabled ∧ c.Offers group model

variable {channels : List Channel} {abilities l : List Ability} {group model requestPath : String} {retry : ℕ}
    {a : Ability}

lemma mem_enabledAbilities (h : Mirrors channels abilities) : a∈enabledAbilities abilities group model ↔
      ∃ c∈enabledChannels channels group model, a=c.ability group model := by
  simp only [enabledAbilities,enabledChannels,mem_filter,h.rows,decide_eq_true_eq]
  constructor
  · rintro ⟨⟨c,hc,g,m,hoff,rfl⟩,rfl,rfl,henabled⟩
    exact ⟨c,⟨hc,by simpa [Channel.ability] using henabled,hoff⟩,rfl⟩
  · rintro ⟨c,⟨hc,hstatus,hoff⟩,rfl⟩
    exact ⟨⟨c,hc,group,model,hoff,rfl⟩,rfl,rfl,by simpa [Channel.ability] using hstatus⟩

lemma level_enabledAbilities (h : Mirrors channels abilities) (retry : ℕ) :
    level priority (enabledAbilities abilities group model) retry =
      level Channel.getPriority (enabledChannels channels group model) retry := by
  apply level_congr
  intro p
  constructor
  · rintro ⟨a,ha,rfl⟩
    obtain ⟨c,hc,rfl⟩ := (mem_enabledAbilities h).mp ha
    exact ⟨c,hc,rfl⟩
  · rintro ⟨c,hc,rfl⟩
    exact ⟨c.ability group model,(mem_enabledAbilities h).mpr ⟨c,hc,rfl⟩,rfl⟩

lemma getPriority_eq (h : enabledAbilities abilities group model≠[]) : getPriority abilities group model retry =
      .ok (level priority (enabledAbilities abilities group model) retry) := by
  unfold getPriority level
  rw [if_neg (mt levels_eq_nil_iff.mp h),← clamp_eq_min]
  split <;> rfl

lemma channelQuery_of_ne_nil (h : enabledAbilities abilities group model≠[]) :
    ∃ l, channelQuery abilities group model retry=.ok l ∧ l.Perm ((enabledAbilities abilities group model).filter
      (·.priority=level priority (enabledAbilities abilities group model) retry)) := by
  unfold channelQuery
  dsimp only
  split
  · rw [getPriority_eq h]
    exact ⟨_,rfl,perm_insertionSort _ _⟩
  next hzero =>
  have hrtr : retry=0 := not_not.mp hzero
  refine ⟨_,rfl,(perm_insertionSort _ _).trans (List.Perm.of_eq ?_)⟩
  apply filter_congr
  intro a _
  rw [max?_eq_level_zero h,hrtr]
  simp [eq_comm]

lemma pickAbility_eq_draw (r : ℕ) (l : List Ability) : pickAbility r l=draw drawWeight (r-1) l := by
  induction l generalizing r with
  | nil => rfl
  | cons a l ih =>
    unfold pickAbility draw
    rw [ih,Nat.sub_right_comm]
    have hiff : r≤drawWeight a ↔ r-1<drawWeight a := by
      unfold drawWeight
      omega
    simp only [hiff]

lemma sum_drawWeight_pos (h : l≠[]) : 0<(l.map drawWeight).sum := by
  cases l with
  | nil => exact absurd rfl h
  | cons a l =>
    rw [map_cons,sum_cons,drawWeight]
    omega

lemma mem_filterAbilities (hkeys : (channels.map Channel.id).Nodup) (h : Mirrors channels abilities)
    (hl : l.Perm ((enabledAbilities abilities group model).filter
      (·.priority=level priority (enabledAbilities abilities group model) retry))) :
    a∈filterAbilitiesByRequestPath channels l requestPath ↔ ∃ c∈enabledChannels channels group model, c.getPriority =
        level Channel.getPriority (enabledChannels channels group model) retry ∧
        c.servesPath requestPath=true ∧ a=c.ability group model := by
  have hmem : a∈l ↔ ∃ c∈enabledChannels channels group model, c.getPriority =
      level Channel.getPriority (enabledChannels channels group model) retry ∧ a=c.ability group model := by
    rw [hl.mem_iff,mem_filter,mem_enabledAbilities h,decide_eq_true_eq,level_enabledAbilities h]
    constructor
    · rintro ⟨⟨c,hc,rfl⟩,hpri⟩
      exact ⟨c,hc,hpri,rfl⟩
    · rintro ⟨c,hc,hpri,rfl⟩
      exact ⟨⟨c,hc,rfl⟩,hpri⟩
  have hlook : ∀ c∈enabledChannels channels group model,
      Table.lookup Channel.id (c.ability group model).channelId channels=some c := by
    intro c hc
    exact Table.lookup_of_mem hkeys (mem_of_mem_filter hc)
  unfold filterAbilitiesByRequestPath Channel.servesPath
  split
  next hpath => simp [hmem,hpath]
  next hpath =>
  rw [mem_filter,hmem]
  constructor
  · rintro ⟨⟨c,hc,hpri,rfl⟩,hserv⟩
    rw [hlook c hc] at hserv
    refine ⟨c,hc,hpri,?_,rfl⟩
    simpa [hpath] using hserv
  · rintro ⟨c,hc,hpri,hserv,rfl⟩
    refine ⟨⟨c,hc,hpri,rfl⟩,?_⟩
    rw [hlook c hc]
    simpa [hpath] using hserv

/-- The channels that the database can give: those of the asked priority that serve the path. -/
def databaseTargets (channels : List Channel) (group model : String) (retry : ℕ) (requestPath : String) :
    List Channel :=
  (enabledChannels channels group model).filter fun c =>
    c.getPriority=level Channel.getPriority (enabledChannels channels group model) retry ∧ c.servesPath requestPath

lemma mem_databaseTargets {c : Channel} :
    c∈databaseTargets channels group model retry requestPath ↔ c∈enabledChannels channels group model ∧
      c.getPriority=level Channel.getPriority (enabledChannels channels group model) retry ∧
      c.servesPath requestPath=true := by simp [databaseTargets]

lemma getChannel_of_nil (hkeys : (channels.map Channel.id).Nodup) (h : Mirrors channels abilities) (rand : Rand)
    (hnil : databaseTargets channels group model retry requestPath=[]) (c : Channel) :
    getChannel channels abilities rand group model retry requestPath≠.ok (some c) := by
  unfold getChannel
  by_cases hrows : enabledAbilities abilities group model=[]
  · -- nothing is enabled: an error on a retry, no row on the first attempt
    by_cases hrtr : retry=0
    · simp [channelQuery,hrows,hrtr,filterAbilitiesByRequestPath]
    · simp [channelQuery,hrows,hrtr,getPriority,levels]
  obtain ⟨l,hqry,hperm⟩ := channelQuery_of_ne_nil hrows
  have hfilt : filterAbilitiesByRequestPath channels l requestPath=[] := by
    rw [eq_nil_iff_forall_not_mem]
    intro a ha
    obtain ⟨d,hd,hpri,hserv,-⟩ := (mem_filterAbilities hkeys h hperm).mp ha
    have hmem := mem_databaseTargets.mpr ⟨hd,hpri,hserv⟩
    rw [hnil] at hmem
    cases hmem
  rw [hqry]
  simp [hfilt]

lemma getChannel_of_ne_nil (hkeys : (channels.map Channel.id).Nodup) (h : Mirrors channels abilities)
    (hne : databaseTargets channels group model retry requestPath≠[]) :
    (∀ rand, ∃ c∈databaseTargets channels group model retry requestPath,
        getChannel channels abilities rand group model retry requestPath=.ok (some c)) ∧
      ∀ c∈databaseTargets channels group model retry requestPath,
        ∃ rand, getChannel channels abilities rand group model retry requestPath=.ok (some c) := by
  obtain ⟨d,hd⟩ := exists_mem_of_ne_nil _ hne
  obtain ⟨hd,hpri,hserv⟩ := mem_databaseTargets.mp hd
  have hrows : enabledAbilities abilities group model≠[] :=
    ne_nil_of_mem ((mem_enabledAbilities h).mpr ⟨d,hd,rfl⟩)
  obtain ⟨l,hqry,hperm⟩ := channelQuery_of_ne_nil hrows
  have hmem : ∀ a, a∈filterAbilitiesByRequestPath channels l requestPath ↔
      ∃ c∈enabledChannels channels group model, c.getPriority =
        level Channel.getPriority (enabledChannels channels group model) retry ∧
        c.servesPath requestPath=true ∧ a=c.ability group model := fun a => mem_filterAbilities hkeys h hperm
  have hfilt : filterAbilitiesByRequestPath channels l requestPath≠[] :=
    ne_nil_of_mem ((hmem _).mpr ⟨d,hd,hpri,hserv,rfl⟩)
  -- a drawn row leads to its channel
  have hget : ∀ rand, ∀ c∈enabledChannels channels group model,
      draw drawWeight (rand.intn ((filterAbilitiesByRequestPath channels l requestPath).map drawWeight).sum-1)
        (filterAbilitiesByRequestPath channels l requestPath)=some (c.ability group model) →
      getChannel channels abilities rand group model retry requestPath=.ok (some c) := by
    intro rand c hc hdraw
    unfold getChannel
    have hlook : Table.lookup Channel.id (c.ability group model).channelId channels=some c :=
      Table.lookup_of_mem hkeys (mem_of_mem_filter hc)
    simp only [hqry,hfilt,if_false,pickAbility_eq_draw,hdraw,Option.bind_some,hlook]
  generalize hfilteredEq : filterAbilitiesByRequestPath channels l requestPath=rows at hmem hfilt hget
  constructor
  · intro rand
    have hlt := rand.intn_lt _ (sum_drawWeight_pos hfilt)
    have hdra : rand.intn (rows.map drawWeight).sum-1<(rows.map drawWeight).sum := by omega
    obtain ⟨a,hdraw⟩ := exists_draw hdra
    obtain ⟨c,hc,hpri,hserv,rfl⟩ := (hmem a).mp (mem_of_draw hdraw)
    exact ⟨c,mem_databaseTargets.mpr ⟨hc,hpri,hserv⟩,hget rand c hc hdraw⟩
  · intro c hc
    obtain ⟨hc,hpri,hserv⟩ := mem_databaseTargets.mp hc
    have ha : c.ability group model∈rows := (hmem _).mpr ⟨c,hc,hpri,hserv,rfl⟩
    have hweig : 10≤drawWeight (c.ability group model) := Nat.le_add_left 10 _
    have hpos : 0<drawWeight (c.ability group model) := by omega
    obtain ⟨r,hr,hdraw⟩ := exists_draw_eq ha hpos
    have hlt : r+1<(rows.map drawWeight).sum := by omega
    refine ⟨Rand.giving hlt,hget _ c hc ?_⟩
    rw [Rand.giving_intn,Nat.add_sub_cancel]
    exact hdraw
end AronaApi.Channels
