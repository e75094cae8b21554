import AronaApi.Channels.Choice
import AronaApi.Relay.Retry

/-! The order in which the retries of a request go through the auto groups (`service/channel_select.go`,
`controller/relay.go`). A choice from a group never fails once the group has the model, since a retry number
beyond its priorities is taken for the lowest one; so a group is left only when the retries are used up. -/
namespace AronaApi.Channels
open Relay Selection List

/-- The draws of one selection, as the loop over the auto groups sees them; errors are dropped there. -/
def pick (t : ChannelTable) (model requestPath : String) (rand : Rand) (group : String) (retry : ℕ) : Option ℕ :=
  match getRandomSatisfiedChannel t.toChannelCache rand group model retry requestPath with
  | .ok (some c) => some c.id
  | _ => none

section
variable (cfg : RetryConfig)
/-- The selections of a request whose attempts all fail and are retried, one per source of random numbers; the
loop ends when its condition fails or no channel is found. -/
def retrySelections : List (String → ℕ → Option ℕ) → RetryState → List Selected
  | [],_ => []
  | pick::picks,st =>
    if cfg.retryTimes<st.increaseRetry.retry then []
    else
      match cacheGetRandomSatisfiedChannel cfg pick st.increaseRetry with
      | (.ok (some selected),st) => selected::retrySelections picks st
      | _ => []

/-- The first selection is made by `Distribute`, whose retry parameter is not the one of the retries. -/
def selections : List (String → ℕ → Option ℕ) → List Selected
  | [] => []
  | pick::picks =>
    match distribute cfg none pick with
    | none => []
    | some (selected,st) => selected::retrySelections cfg picks { st with retry := 0, resetNextTry := false }
end

section
variable (t : ChannelTable) (model requestPath : String)
def selectedPriority (selected : Selected) : String × ℤ :=
  (selected.2,((t.channelsIDM selected.1).map Channel.getPriority).getD 0)

/-- The distinct priorities of a group's channels for the model, from high to low. -/
def groupPriorities (group : String) : List ℤ := levels Channel.getPriority (t.offered group model requestPath)

def documented (groups : List String) : List (String × ℤ) :=
  groups.flatMap fun group => (groupPriorities t model requestPath group).map fun priority => (group,priority)

/-- What is tried instead: each group that has the model as often as there are retries and one more. -/
def attemptsIn (retryTimes : ℕ) (group : String) : List (String × ℤ) :=
  if t.offered group model requestPath=[] then []
  else (List.range (retryTimes+1)).map fun k =>
    (group,level Channel.getPriority (t.offered group model requestPath) k)

def attempted (retryTimes : ℕ) (groups : List String) : List (String × ℤ) :=
  groups.flatMap (attemptsIn t model requestPath retryTimes)
end

variable {t : ChannelTable} {model requestPath : String} {group : String}
lemma pick_of_nil (rand : Rand) (retry : ℕ) (h : t.offered group model requestPath=[]) :
    pick t model requestPath rand group retry=none := by rw [pick,getRandomSatisfiedChannel_of_nil rand retry h]

lemma pick_of_offered (rand : Rand) (retry : ℕ) (h : t.offered group model requestPath≠[]) :
    ∃ id, pick t model requestPath rand group retry=some id ∧
      selectedPriority t (id,group)=(group,level Channel.getPriority (t.offered group model requestPath) retry) := by
  obtain ⟨c,hdraw,hget⟩ := getRandomSatisfiedChannel_of_offered rand retry h
  have htarg := mem_of_draw hdraw
  rw [targets,mem_filter] at htarg
  obtain ⟨id,hid,hc⟩ := mem_filterMap.mp htarg.1
  obtain ⟨d,hd,hdid⟩ := exists_of_mem_candidates hid
  -- the cache lists the channel under its own id
  have hcd : c=d := Option.some.inj (hc.symm.trans hd)
  have hcid : t.channelsIDM c.id=some c := by rw [hcd,hdid,hd]
  refine ⟨c.id,?_,?_⟩
  · rw [pick,hget]
  · rw [selectedPriority,hcid]
    simpa using htarg.2

variable {retryTimes : ℕ} {groups : List String}
lemma attempted_cons (group : String) (groups : List String) :
    attempted t model requestPath retryTimes (group::groups) =
      attemptsIn t model requestPath retryTimes group++attempted t model requestPath retryTimes groups := rfl

lemma attempted_cons_of_nil (h : t.offered group model requestPath=[]) :
    attempted t model requestPath retryTimes (group::groups)=attempted t model requestPath retryTimes groups := by
  rw [attempted_cons,attemptsIn,if_pos h,nil_append]

section
variable (h : t.offered group model requestPath≠[])
include h
lemma length_attemptsIn :
    (attemptsIn t model requestPath retryTimes group).length=retryTimes+1 := by rw [attemptsIn,if_neg h,length_map,length_range]

lemma drop_attempted {k : ℕ} (hk : k ≤ retryTimes) : (attempted t model requestPath retryTimes (group::groups)).drop k =
      (group,level Channel.getPriority (t.offered group model requestPath) k)::
        (attempted t model requestPath retryTimes (group::groups)).drop (k+1) := by
  have hlen : (attemptsIn t model requestPath retryTimes group).length=retryTimes+1 := length_attemptsIn h
  have hlt : k<(attempted t model requestPath retryTimes (group::groups)).length := by
    rw [attempted_cons,length_append,hlen]
    omega
  rw [drop_eq_getElem_cons hlt]
  congr 1
  have hget : (attempted t model requestPath retryTimes (group::groups))[k] =
      (attemptsIn t model requestPath retryTimes group)[k] := by
    simp only [attempted_cons]
    rw [getElem_append_left]
  rw [hget]
  simp [attemptsIn,h]

lemma drop_attempted_last : (attempted t model requestPath retryTimes (group::groups)).drop (retryTimes+1) =
      attempted t model requestPath retryTimes groups := by rw [attempted_cons,← length_attemptsIn h,drop_left]
end

lemma drop_succ_of_drop_eq_cons {α : Type} {l rest : List α} {a : α} {i : ℕ} (h : l.drop i=a::rest) :
    l.drop (i+1)=rest := by
  rw [← drop_drop,h]
  rfl

section
variable (t : ChannelTable) (model requestPath : String) (cfg : RetryConfig)
structure Position (todo : List (String × ℤ)) (st : RetryState) : Prop where
  noReset : st.resetNextTry=false
  retry_le : (st.retry : ℤ) ≤ cfg.retryTimes
  here : st.retry=0 ∨ ∃ group rest, cfg.userAutoGroups.drop (st.autoGroupIndex.getD 0)=group::rest ∧
    t.offered group model requestPath≠[]
  ahead : (attempted t model requestPath cfg.retryTimes.toNat
    (cfg.userAutoGroups.drop (st.autoGroupIndex.getD 0))).drop st.retry=todo

variable {t model requestPath cfg} {st : RetryState} {todo : List (String × ℤ)} {start i : ℕ}
variable {rest : List String}
lemma Position.skip (h : Position t model requestPath cfg todo st)
    (hgro : cfg.userAutoGroups.drop i=group::rest) (hi : st.autoGroupIndex.getD 0=i)
    (hnone : t.offered group model requestPath=[]) :
    Position t model requestPath cfg todo { st with autoGroupIndex := some (i+1), retry := 0 } := by
  have hrtr : st.retry=0 := by
    obtain hzero | ⟨group',rest',hgro',hsome⟩ := h.here
    · exact hzero
    rw [hi,hgro] at hgro'
    cases hgro'
    exact absurd hnone hsome
  have hnext := drop_succ_of_drop_eq_cons hgro
  have hahd := h.ahead
  rw [hi,hgro,hrtr,attempted_cons_of_nil hnone] at hahd
  have hle := h.retry_le
  refine ⟨h.noReset,?_,.inl rfl,?_⟩
  · show ((0 : ℕ) : ℤ) ≤ cfg.retryTimes
    omega
  · show (attempted t model requestPath _ (cfg.userAutoGroups.drop (i+1))).drop 0=todo
    rw [hnext]
    exact hahd

/-- The state after a selection from a group that has the model: the last retry moves on to the next group. -/
def chosenState (cfg : RetryConfig) (st : RetryState) (i : ℕ) (group : String) : RetryState :=
  if cfg.retryTimes ≤ st.retry then
    { st with autoGroup := some group, autoGroupIndex := some (i+1), retry := 0, resetNextTry := true }
  else { st with autoGroup := some group, autoGroupIndex := some i }

variable {x : String × ℤ}
lemma Position.chosen (h : Position t model requestPath cfg (x::todo) st)
    (hgro : cfg.userAutoGroups.drop i=group::rest) (hi : st.autoGroupIndex.getD 0=i)
    (hsome : t.offered group model requestPath≠[]) :
    x=(group,level Channel.getPriority (t.offered group model requestPath) st.retry) ∧
      Position t model requestPath cfg todo (chosenState cfg st i group).increaseRetry := by
  have hle := h.retry_le
  have hrtr : st.retry ≤ cfg.retryTimes.toNat := by omega
  have hahd := h.ahead
  rw [hi,hgro,drop_attempted hsome hrtr] at hahd
  obtain ⟨hx,htodo⟩ := List.cons.inj hahd
  refine ⟨hx.symm,?_⟩
  unfold chosenState
  split
  next hlast =>
    have hnext := drop_succ_of_drop_eq_cons hgro
    have heq : st.retry=cfg.retryTimes.toNat := by omega
    rw [heq,drop_attempted_last hsome] at htodo
    refine ⟨rfl,?_,.inl rfl,?_⟩
    · show ((0 : ℕ) : ℤ) ≤ cfg.retryTimes
      omega
    · show (attempted t model requestPath _ (cfg.userAutoGroups.drop (i+1))).drop 0=todo
      rw [hnext]
      exact htodo
  next hmore =>
  have hinc : ({ st with autoGroup := some group, autoGroupIndex := some i } : RetryState).increaseRetry =
      { st with autoGroup := some group, autoGroupIndex := some i, retry := st.retry+1 } := by
    rw [RetryState.increaseRetry,if_neg]
    show ¬st.resetNextTry=true
    rw [h.noReset]
    exact Bool.false_ne_true
  rw [hinc]
  refine ⟨h.noReset,?_,.inr ⟨group,rest,hgro,hsome⟩,?_⟩
  · show ((st.retry+1 : ℕ) : ℤ) ≤ cfg.retryTimes
    omega
  · show (attempted t model requestPath _ (cfg.userAutoGroups.drop i)).drop (st.retry+1)=todo
    rw [hgro]
    exact htodo

variable (rand : Rand)
lemma selectGroup_cons_of_none (hnone : t.offered group model requestPath=[]) :
    selectGroup cfg (pick t model requestPath rand) start i (group::rest) st =
      selectGroup cfg (pick t model requestPath rand) start (i+1) rest
        { st with autoGroupIndex := some (i+1), retry := 0 } := by rw [selectGroup,pick_of_nil rand _ hnone]

lemma selectGroup_cons_of_some (hcrs : cfg.crossGroupRetry=true)
    (hzero : start < i → st.retry=0) (hsome : t.offered group model requestPath≠[]) :
    ∃ id, selectGroup cfg (pick t model requestPath rand) start i (group::rest) st =
        (some (id,group),chosenState cfg st i group) ∧ selectedPriority t (id,group) =
        (group,level Channel.getPriority (t.offered group model requestPath) st.retry) := by
  have hrtr : (if start < i then 0 else st.retry)=st.retry := by
    split
    next hlt => rw [hzero hlt]
    · rfl
  obtain ⟨id,hid,hpri⟩ := pick_of_offered rand st.retry hsome
  refine ⟨id,?_,hpri⟩
  rw [selectGroup]
  simp only [hrtr,hid,hcrs,true_and,chosenState]
  split <;> rfl

lemma selectGroup_of_ahead (hcrs : cfg.crossGroupRetry=true)
    (hgro : cfg.userAutoGroups.drop i=groups) (hi : st.autoGroupIndex.getD 0=i)
    (hzero : start < i → st.retry=0) (h : Position t model requestPath cfg (x::todo) st) :
    ∃ selected st', selectGroup cfg (pick t model requestPath rand) start i groups st=(some selected,st') ∧
      selectedPriority t selected=x ∧ Position t model requestPath cfg todo st'.increaseRetry ∧
      (1 ≤ cfg.retryTimes → st.retry=0 → st'.retry=0 ∧ st'.resetNextTry=false) := by
  induction groups generalizing i st with
  | nil =>
    have hahd := h.ahead
    rw [hi,hgro] at hahd
    simp [attempted] at hahd
  | cons group rest ih =>
    by_cases hoff : t.offered group model requestPath=[]
    · have hnext := drop_succ_of_drop_eq_cons hgro
      rw [selectGroup_cons_of_none rand hoff]
      obtain ⟨selected,st',hsel,hx,hpos,hfrs⟩ :=
        ih hnext rfl (fun _ => rfl) (h.skip hgro hi hoff)
      exact ⟨selected,st',hsel,hx,hpos,fun hR _ => hfrs hR rfl⟩
    obtain ⟨id,hsel,hpri⟩ := selectGroup_cons_of_some rand hcrs hzero hoff
    obtain ⟨hx,hpos⟩ := h.chosen hgro hi hoff
    refine ⟨(id,group),chosenState cfg st i group,hsel,hpri.trans hx.symm,hpos,?_⟩
    intro hR hrtr
    have hmore : ¬cfg.retryTimes ≤ st.retry := by omega
    rw [chosenState,if_neg hmore]
    exact ⟨hrtr,h.noReset⟩

lemma selectGroup_of_nothing (start : ℕ) (hgro : cfg.userAutoGroups.drop i=groups)
    (hi : st.autoGroupIndex.getD 0=i) (h : Position t model requestPath cfg [] st) :
    (selectGroup cfg (pick t model requestPath rand) start i groups st).1=none := by
  induction groups generalizing i st with
  | nil => rfl
  | cons group rest ih =>
    by_cases hoff : t.offered group model requestPath=[]
    · have hnext := drop_succ_of_drop_eq_cons hgro
      rw [selectGroup_cons_of_none rand hoff]
      exact ih hnext rfl (h.skip hgro hi hoff)
    have hle := h.retry_le
    have hrtr : st.retry ≤ cfg.retryTimes.toNat := by omega
    have hahd := h.ahead
    rw [hi,hgro,drop_attempted hoff hrtr] at hahd
    cases hahd

lemma cacheGet_of_ahead (hcrs : cfg.crossGroupRetry=true) (h : Position t model requestPath cfg (x::todo) st) :
    ∃ selected st', cacheGetRandomSatisfiedChannel cfg (pick t model requestPath rand) st=(.ok (some selected),st') ∧
      selectedPriority t selected=x ∧ Position t model requestPath cfg todo st'.increaseRetry ∧
      (1 ≤ cfg.retryTimes → st.retry=0 → st'.retry=0 ∧ st'.resetNextTry=false) := by
  have hgro : cfg.autoGroups≠[] := by
    intro hnil
    have hahd := h.ahead
    simp [RetryConfig.userAutoGroups,hnil,attempted] at hahd
  have hzero : st.autoGroupIndex.getD 0<st.autoGroupIndex.getD 0 → st.retry=0 := fun hlt => absurd hlt (lt_irrefl _)
  obtain ⟨selected,st',hsel,hrest⟩ := selectGroup_of_ahead rand hcrs rfl rfl hzero h
  refine ⟨selected,st',?_,hrest⟩
  rw [cacheGetRandomSatisfiedChannel,if_neg hgro]
  dsimp only
  rw [hsel]

lemma cacheGet_of_nothing (h : Position t model requestPath cfg [] st) (selected : Selected) :
    (cacheGetRandomSatisfiedChannel cfg (pick t model requestPath rand) st).1≠.ok (some selected) := by
  rw [cacheGetRandomSatisfiedChannel]
  split
  · exact nofun
  dsimp only
  rw [selectGroup_of_nothing rand _ rfl rfl h]
  exact nofun

lemma retrySelections_eq (hcrs : cfg.crossGroupRetry=true) (rands : List Rand)
    (h : Position t model requestPath cfg todo st.increaseRetry) :
    (retrySelections cfg (rands.map (pick t model requestPath)) st).map (selectedPriority t) =
      todo.take rands.length := by
  induction rands generalizing st todo with
  | nil => simp [retrySelections]
  | cons rand rands ih =>
    have hle := h.retry_le
    rw [map_cons,retrySelections,if_neg (by omega)]
    cases todo with
    | nil =>
      split
      next selected st' hget => exact absurd (congrArg Prod.fst hget) (cacheGet_of_nothing rand h selected)
      · simp
    | cons x todo =>
      obtain ⟨selected,st',hget,hx,hpos,-⟩ := cacheGet_of_ahead rand hcrs h
      rw [hget]
      simp only [map_cons,length_cons,take_succ_cons,hx,ih hpos]

lemma selections_eq (hcrs : cfg.crossGroupRetry=true) (rands : List Rand) (hR : 0 ≤ cfg.retryTimes)
    (hpos : attempted t model requestPath cfg.retryTimes.toNat cfg.userAutoGroups≠[] → 1 ≤ cfg.retryTimes) :
    (selections cfg (rands.map (pick t model requestPath))).map (selectedPriority t) =
      (attempted t model requestPath cfg.retryTimes.toNat cfg.userAutoGroups).take rands.length := by
  have hstr : Position t model requestPath cfg
      (attempted t model requestPath cfg.retryTimes.toNat cfg.userAutoGroups) .start :=
    ⟨rfl,hR,.inl rfl,rfl⟩
  cases rands with
  | nil => simp [selections]
  | cons rand rands =>
    rw [map_cons,selections,distribute]
    cases hahead : attempted t model requestPath cfg.retryTimes.toNat cfg.userAutoGroups with
    | nil =>
      rw [hahead] at hstr
      split
      · simp
      next selected st' hsome =>
      split at hsome
      next selected' st'' hget => exact absurd (congrArg Prod.fst hget) (cacheGet_of_nothing rand hstr selected')
      · cases hsome
    | cons x todo =>
      rw [hahead] at hstr hpos
      obtain ⟨selected,st',hget,hx,hnext,hfrs⟩ := cacheGet_of_ahead rand hcrs hstr
      obtain ⟨hrtr,hrst⟩ := hfrs (hpos (cons_ne_nil _ _)) rfl
      -- the new retry parameter starts where the first selection left the old one
      have hsame : ({ st' with retry := 0, resetNextTry := false } : RetryState)=st' := by rw [← hrtr,← hrst]
      rw [hget]
      simp only [hsame,map_cons,length_cons,take_succ_cons,hx,retrySelections_eq hcrs rands hnext]
end

variable {cfg : RetryConfig}
def holders (t : ChannelTable) (model requestPath : String) (groups : List String) : List String :=
  groups.filter fun group => t.offered group model requestPath≠[]

lemma groupPriorities_eq_nil_iff :
    groupPriorities t model requestPath group=[] ↔ t.offered group model requestPath=[] := levels_eq_nil_iff

lemma documented_cons (group : String) (groups : List String) : documented t model requestPath (group::groups) =
      (groupPriorities t model requestPath group).map (fun priority => (group,priority))++
        documented t model requestPath groups := rfl

lemma flatMap_holders {f : String → List (String × ℤ)} (h : ∀ group, t.offered group model requestPath=[] → f group=[])
    (groups : List String) : (holders t model requestPath groups).flatMap f=groups.flatMap f := by
  induction groups with
  | nil => rfl
  | cons group groups ih =>
    by_cases hg : t.offered group model requestPath=[]
    · rw [flatMap_cons,h group hg,nil_append,← ih,holders,holders,filter_cons_of_neg (by simpa using hg)]
    · rw [flatMap_cons,← ih,holders,holders,filter_cons_of_pos (by simpa using hg),flatMap_cons]

lemma documented_holders (groups : List String) :
    documented t model requestPath (holders t model requestPath groups)=documented t model requestPath groups :=
  flatMap_holders (fun _ h => by rw [groupPriorities_eq_nil_iff.mpr h,map_nil]) groups

variable (retryTimes : ℕ)
lemma attempted_holders (groups : List String) :
    attempted t model requestPath retryTimes (holders t model requestPath groups) =
      attempted t model requestPath retryTimes groups := flatMap_holders (fun _ h => if_pos h) groups

lemma mem_documented {priority : ℤ} : (group,priority)∈documented t model requestPath groups ↔
      group∈groups ∧ priority∈groupPriorities t model requestPath group := by
  simp only [documented,mem_flatMap,mem_map,Prod.mk.injEq]
  constructor
  · rintro ⟨g,hg,p,hp,rfl,rfl⟩
    exact ⟨hg,hp⟩
  · rintro ⟨hg,hp⟩
    exact ⟨group,hg,priority,hp,rfl,rfl⟩

lemma take_attempted (n : ℕ) (groups : List String) (h : t.offered group model requestPath≠[])
    (hn : (groupPriorities t model requestPath group).length+n ≤ retryTimes) :
    (attempted t model requestPath retryTimes (group::groups)).take
        ((groupPriorities t model requestPath group).length+n) =
      (groupPriorities t model requestPath group).map (fun priority => (group,priority))++
        List.replicate n (group,level Channel.getPriority (t.offered group model requestPath)
          ((groupPriorities t model requestPath group).length-1)) := by
  rw [attempted_cons,take_append_of_le_length (by rw [length_attemptsIn h]; omega),attemptsIn,if_neg h,
    ← map_take,take_range,Nat.min_eq_left (by omega)]
  have hlev : (List.range ((groupPriorities t model requestPath group).length+n)).map
      (level Channel.getPriority (t.offered group model requestPath))=groupPriorities t model requestPath group++
        List.replicate n (level Channel.getPriority (t.offered group model requestPath)
          ((groupPriorities t model requestPath group).length-1)) := map_level_range_add n
  have hmap := congrArg (List.map fun priority => (group,priority)) hlev
  rw [map_map,map_append,map_replicate] at hmap
  exact hmap

def OnePriority (t : ChannelTable) (model requestPath : String) (groups : List String) : Prop :=
  ∃ group priority, groupPriorities t model requestPath group=[priority] ∧ ∀ g∈groups, g=group

lemma documented_eq_replicate_iff (hgro : ∀ g∈group::groups, t.offered g model requestPath≠[]) :
    documented t model requestPath groups =
        List.replicate (documented t model requestPath groups).length (group,level Channel.getPriority
          (t.offered group model requestPath) ((groupPriorities t model requestPath group).length-1)) ↔
      (group::groups).length≤1 ∨ OnePriority t model requestPath (group::groups) := by
  rw [eq_replicate_iff]
  constructor
  · rintro ⟨-,hall⟩
    cases groups with
    | nil => exact .inl (le_refl 1)
    | cons g groups =>
      right
      -- a group that is documented next can only be the first one again
      have hsame : ∀ g'∈g::groups, g'=group := by
        intro g' hg'
        have hne := hgro g' (mem_cons_of_mem _ hg')
        obtain ⟨p,hp⟩ := exists_mem_of_ne_nil _ (mt groupPriorities_eq_nil_iff.mp hne)
        exact congrArg Prod.fst (hall (g',p) (mem_documented.mpr ⟨hg',hp⟩))
      have hg : g=group := hsame g mem_cons_self
      have hlow : ∀ p∈groupPriorities t model requestPath group, p=level Channel.getPriority
          (t.offered group model requestPath) ((groupPriorities t model requestPath group).length-1) := by
        intro p hp
        exact congrArg Prod.snd (hall (group,p) (mem_documented.mpr ⟨hg ▸ mem_cons_self,hp⟩))
      have hndp : (groupPriorities t model requestPath group).Nodup := nodup_levels
      generalize level Channel.getPriority (t.offered group model requestPath) _=lowest at hlow
      have hne := mt groupPriorities_eq_nil_iff.mp (hgro group mem_cons_self)
      refine ⟨group,lowest,?_,?_⟩
      · cases hp : groupPriorities t model requestPath group with
        | nil => exact absurd hp hne
        | cons p ps =>
          rw [hp] at hlow hndp
          rw [hlow p mem_cons_self] at hndp ⊢
          have hnil : ps=[] := by
            rw [eq_nil_iff_forall_not_mem]
            intro q hq
            rw [hlow q (mem_cons_of_mem _ hq)] at hq
            exact (nodup_cons.mp hndp).1 hq
          rw [hnil]
      · intro g' hg'
        obtain rfl | hg' := mem_cons.mp hg'
        · rfl
        · exact hsame g' hg'
  · rintro (hone | ⟨g,p,hp,hsame⟩)
    · have hnil : groups=[] := by
        rw [← length_eq_zero_iff]
        simpa using hone
      subst hnil
      exact ⟨rfl,fun x hx => nomatch hx⟩
    · refine ⟨rfl,?_⟩
      rintro ⟨g',q⟩ hq
      obtain ⟨hg',hq⟩ := mem_documented.mp hq
      rw [hsame g' (mem_cons_of_mem _ hg'),hp,mem_singleton] at hq
      rw [hsame g' (mem_cons_of_mem _ hg'),hsame group mem_cons_self,hq,level_of_singleton hp]

lemma length_attempted (groups : List String) : (attempted t model requestPath retryTimes groups).length =
      (retryTimes+1)*(holders t model requestPath groups).length := by
  induction groups with
  | nil => rfl
  | cons group groups ih =>
    by_cases h : t.offered group model requestPath=[]
    · rw [attempted_cons_of_nil h,ih,holders,holders,filter_cons_of_neg (by simpa using h)]
    rw [attempted_cons,length_append,length_attemptsIn h,ih,holders,holders,
      filter_cons_of_pos (by simpa using h),length_cons,Nat.mul_succ]
    omega

lemma offered_of_mem_holders (h : group∈holders t model requestPath groups) :
    t.offered group model requestPath≠[] := by simpa [holders] using (mem_filter.mp h).2

lemma tried_eq_attempted (hcrs : cfg.crossGroupRetry=true)
    (hR : ((documented t model requestPath cfg.userAutoGroups).length : ℤ) ≤ cfg.retryTimes) {rands : List Rand}
    (hrnd : (cfg.retryTimes.toNat+1)*cfg.userAutoGroups.length ≤ rands.length) :
    (selections cfg (rands.map (pick t model requestPath))).map (selectedPriority t) =
      attempted t model requestPath cfg.retryTimes.toNat cfg.userAutoGroups := by
  have hlen : (attempted t model requestPath cfg.retryTimes.toNat cfg.userAutoGroups).length ≤ rands.length := by
    rw [length_attempted]
    refine le_trans (Nat.mul_le_mul_left _ ?_) hrnd
    exact length_filter_le _ _
  rw [selections_eq hcrs rands (by omega),take_of_length_le hlen]
  -- a group that has the model has a priority, so that there is a retry
  intro hne
  rw [← attempted_holders] at hne
  rw [← documented_holders] at hR
  cases hhold : holders t model requestPath cfg.userAutoGroups with
  | nil =>
    rw [hhold] at hne
    exact absurd rfl hne
  | cons group groups =>
    have hoff := offered_of_mem_holders (hhold ▸ mem_cons_self)
    have hpos := length_pos_iff.mpr (mt groupPriorities_eq_nil_iff.mp hoff)
    rw [hhold,documented_cons,length_append,length_map] at hR
    omega

/-- With more retries than there are priorities, the attempts of a request run through the documented order only
if at most one auto group has the model, or copies of one group with one priority; and they make no attempt
beyond it only if no group has the model. -/
theorem tried_documented_iff (hcross : cfg.crossGroupRetry=true)
    (hR : ((documented t model requestPath cfg.userAutoGroups).length : ℤ) ≤ cfg.retryTimes) {rands : List Rand}
    (hrands : (cfg.retryTimes.toNat+1)*cfg.userAutoGroups.length ≤ rands.length) {tried : List (String × ℤ)}
    (htried : tried=(selections cfg (rands.map (pick t model requestPath))).map (selectedPriority t)) :
    (documented t model requestPath cfg.userAutoGroups <+: tried ↔
        (holders t model requestPath cfg.userAutoGroups).length≤1 ∨
          OnePriority t model requestPath (holders t model requestPath cfg.userAutoGroups)) ∧
      (tried=documented t model requestPath cfg.userAutoGroups ↔
        holders t model requestPath cfg.userAutoGroups=[]) := by
  rw [tried_eq_attempted hcross hR hrands,← attempted_holders] at htried
  rw [← documented_holders] at hR ⊢
  subst htried
  have hall : ∀ group∈holders t model requestPath cfg.userAutoGroups, t.offered group model requestPath≠[] :=
    fun group hgrp => offered_of_mem_holders hgrp
  generalize holders t model requestPath cfg.userAutoGroups=groups at hR hall ⊢
  cases groups with
  | nil => simp [attempted,documented]
  | cons group groups =>
    have hoff := hall group mem_cons_self
    rw [documented_cons,length_append,length_map] at hR
    have htake := take_attempted cfg.retryTimes.toNat (documented t model requestPath groups).length groups hoff
      (by omega)
    constructor
    · rw [prefix_iff_eq_take,documented_cons,length_append,length_map,htake,append_cancel_left_eq]
      exact documented_eq_replicate_iff hall
    · -- the first group alone is tried more often than there are priorities
      have hlong : (documented t model requestPath (group::groups)).length <
          (attempted t model requestPath cfg.retryTimes.toNat (group::groups)).length := by
        rw [attempted_cons,documented_cons,length_append,length_append,length_map,length_attemptsIn hoff]
        omega
      constructor
      · intro heq
        rw [heq] at hlong
        exact absurd hlong (lt_irrefl _)
      · intro hnil
        cases hnil

def gptChannel (id : ℕ) (group : String) (priority : ℤ) : Channel :=
  ⟨id,1,statusEnabled,none,"gpt-4o",group,some priority,none,none,⟨false,[],[]⟩⟩

def twoByTwo : ChannelTable where
  group2model2channels group model :=
    if model = "gpt-4o" then if group = "default" then [1,2] else if group = "vip" then [3,4] else [] else []
  channelsIDM
    | 1 => some (gptChannel 1 "default" 10)
    | 2 => some (gptChannel 2 "default" 0)
    | 3 => some (gptChannel 3 "vip" 10)
    | 4 => some (gptChannel 4 "vip" 0)
    | _ => none
  channel2advancedCustomConfig _ := none
  listed group model id hid := by
    split at hid
    · split at hid
      · simp only [mem_cons,not_mem_nil,or_false] at hid
        obtain rfl | rfl := hid <;> exact ⟨_,rfl,rfl⟩
      split at hid
      · simp only [mem_cons,not_mem_nil,or_false] at hid
        obtain rfl | rfl := hid <;> exact ⟨_,rfl,rfl⟩
      · cases hid
    · cases hid

def crossRetry (groups : List String) : RetryConfig := ⟨groups,fun _ => true,4,true⟩

def smallest : Rand := ⟨fun _ => 0,fun _ hn => hn⟩

def triedPairs (groups : List String) : List (String × ℤ) :=
  (selections (crossRetry groups) ((List.replicate 10 smallest).map
    (pick twoByTwo "gpt-4o" "/v1/chat/completions"))).map (selectedPriority twoByTwo)

/-- One group is gone through in the documented order. -/
theorem oneGroup_documented :
    documented twoByTwo "gpt-4o" "/v1/chat/completions" ["default"]=[("default",10),("default",0)] ∧
      documented twoByTwo "gpt-4o" "/v1/chat/completions" ["default"] <+: triedPairs ["default"] := by
  have hR : ((documented twoByTwo "gpt-4o" "/v1/chat/completions" (crossRetry ["default"]).userAutoGroups).length : ℤ) ≤
      (crossRetry ["default"]).retryTimes := by decide +kernel
  have hrnd : ((crossRetry ["default"]).retryTimes.toNat+1)*(crossRetry ["default"]).userAutoGroups.length ≤
      (List.replicate 10 smallest).length := by decide
  have htrd : triedPairs ["default"]=(selections (crossRetry ["default"]) ((List.replicate 10 smallest).map
      (pick twoByTwo "gpt-4o" "/v1/chat/completions"))).map (selectedPriority twoByTwo) := rfl
  refine ⟨by decide +kernel,?_⟩
  exact (tried_documented_iff rfl hR hrnd htrd).1.mpr (.inl (by decide +kernel))

/-- With four retries and two groups of two priorities, the lowest priority of the first group is tried four
times before the second group has its turn. -/
theorem twoGroups_repeatLowest :
    (documented twoByTwo "gpt-4o" "/v1/chat/completions" ["default","vip"]).length≤(crossRetry []).retryTimes ∧
      triedPairs ["default","vip"] = [("default",10),("default",0),("default",0),("default",0),("default",0),
          ("vip",10),("vip",0),("vip",0),("vip",0),("vip",0)] ∧
      ¬documented twoByTwo "gpt-4o" "/v1/chat/completions" ["default","vip"] <+: triedPairs ["default","vip"] := by
  decide +kernel
end AronaApi.Channels
