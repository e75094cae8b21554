import AronaApi.Channels.Database
import AronaApi.Lib.KeyedTable

/-! The operations on channels (`model/channel.go`) with what each does to the abilities table
(`model/ability.go`), statement by statement. An operation of which a statement fails has no result. -/
namespace AronaApi.Channels
open GoStd

def Ability.key (a : Ability) : String × String × ℕ := (a.group,a.model,a.channelId)

structure Tables where
  channels : KeyedTable Channel Channel.id
  abilities : KeyedTable Ability Ability.key

namespace Tables

def empty : Tables := ⟨.empty,.empty⟩

/-- `GetChannelById`. -/
def getChannelById (t : Tables) (id : ℕ) : Option Channel := Table.lookup Channel.id id t.channels.rows

/-- What the loops of `AddAbilities` tell the pairs apart by. -/
def abilityKey (group model : String) : String := group++"|"++model

def collectAbilities (c : Channel) : List (String × String) → List String → List Ability
  | [],_ => []
  | (group,model)::pairs,abilitySet =>
    if abilityKey group model∈abilitySet then collectAbilities c pairs abilitySet
    else c.ability group model::collectAbilities c pairs (abilityKey group model::abilitySet)

def newAbilities (c : Channel) : List Ability :=
  collectAbilities c (c.modelNames.flatMap fun model => c.groups.map fun group => (group,model)) []

def addAbilities (t : Tables) (c : Channel) : Tables :=
  { t with abilities := t.abilities.insertIgnore (newAbilities c) }

def deleteAbilities (t : Tables) (ids : List ℕ) : Tables :=
  { t with abilities := t.abilities.delete fun a => a.channelId∈ids }

/-- `UpdateAbilities`: all abilities of the channel are made anew. -/
def updateAbilities (t : Tables) (c : Channel) : Tables := (t.deleteAbilities [c.id]).addAbilities c

def updateAbilityStatus (t : Tables) (channelId : ℕ) (status : Bool) : Tables :=
  { t with
    abilities := t.abilities.update (fun a => if a.channelId=channelId then { a with enabled := status } else a)
      (by intro a; split <;> rfl) }

def updateAbilityStatusByTag (t : Tables) (tag : String) (status : Bool) : Tables :=
  { t with
    abilities := t.abilities.update (fun a => if a.tag=some tag then { a with enabled := status } else a)
      (by intro a; split <;> rfl) }

def withDefaults (c : Channel) : Channel :=
  { c with
    status := if c.status=0 then statusEnabled else c.status
    group := if c.group = "" then "default" else c.group
    weight := some (c.weight.getD 0)
    priority := some (c.priority.getD 0) }

/-- `DB.Create`; the given id is the one that the row is stored under. -/
def create (t : Tables) (c : Channel) : Option Tables :=
  if c.id=0 then none else (t.channels.insert (withDefaults c)).map fun channels => { t with channels := channels }

/-- `Channel.Insert`. -/
def insert (t : Tables) (c : Channel) : Option Tables := (t.create c).map fun t => t.addAbilities (withDefaults c)

/-- One chunk of `BatchInsertChannels`. -/
def insertChunk (t : Tables) (chunk : List Channel) : Option Tables :=
  (chunk.foldlM create t).map fun t => (chunk.map withDefaults).foldl addAbilities t

def batchInsertChannels (t : Tables) (channels : List Channel) : Option Tables :=
  (chunk 50 channels).foldlM insertChunk t

/-- The channel that an update is given: a field that is zero is left as it is. The settings and the information
on keys are `none` when they are zero. -/
structure ChannelUpdate where
  id : ℕ
  type : ℤ
  status : ℤ
  weight : Option ℕ
  models : String
  group : String
  priority : Option ℤ
  tag : Option String
  settings : Option (Option AdvancedCustomConfig)
  keys : List String
  channelInfo : Option (Bool × List (ℕ × ℤ))

def cleanStatusList (t : Tables) (u : ChannelUpdate) : ChannelUpdate :=
  match u.channelInfo with
  | some (true,multiKeyStatusList) =>
    let keys := if u.keys≠[] then u.keys else ((t.getChannelById u.id).map fun c => c.channelInfo.keys).getD []
    { u with channelInfo := some (true,multiKeyStatusList.filter fun s => s.1<keys.length) }
  | _ => u

/-- `Updates` with a struct. -/
def ChannelUpdate.apply (u : ChannelUpdate) (c : Channel) : Channel :=
  { c with
    type := if u.type≠0 then u.type else c.type
    status := if u.status≠0 then u.status else c.status
    weight := u.weight.or c.weight
    models := if u.models ≠ "" then u.models else c.models
    group := if u.group ≠ "" then u.group else c.group
    priority := u.priority.or c.priority
    tag := u.tag.or c.tag
    advancedCustom := u.settings.getD c.advancedCustom
    channelInfo :=
      { isMultiKey := (u.channelInfo.map Prod.fst).getD c.channelInfo.isMultiKey
        keys := if u.keys≠[] then u.keys else c.channelInfo.keys
        multiKeyStatusList := (u.channelInfo.map Prod.snd).getD c.channelInfo.multiKeyStatusList } }

def ChannelUpdate.channel (u : ChannelUpdate) : Channel :=
  u.apply ⟨u.id,0,0,none,"","",none,none,none,⟨false,[],[]⟩⟩

def updates (t : Tables) (u : ChannelUpdate) : Tables :=
  { t with
    channels := t.channels.update (fun c => if c.id=u.id then u.apply c else c)
      (by intro c; split <;> rfl) }

/-- `Channel.Update`. The row is read back before its abilities are made; one that is not found is no error, and
leaves the channel as it was given. -/
def update (t : Tables) (u : ChannelUpdate) : Option Tables :=
  if u.id=0 then none
  else
    let u := t.cleanStatusList u
    let t := t.updates u
    some (t.updateAbilities ((t.getChannelById u.id).getD u.channel))

/-- `Channel.Delete`. -/
def delete (t : Tables) (id : ℕ) : Option Tables :=
  if id=0 then none else some ({ t with channels := t.channels.delete fun c => c.id=id }.deleteAbilities [id])

def batchDeleteChannels (t : Tables) (ids : List ℕ) : Tables :=
  (chunk 200 ids).foldl
    (fun t chunk => { t with channels := t.channels.delete fun c => c.id∈chunk }.deleteAbilities chunk) t
end Tables

def hasEnabledMultiKey (keys : List String) (statusList : List (ℕ × ℤ)) : Bool :=
  (List.range keys.length).any fun i =>
    match statusList.lookup i with
    | none => true
    | some status => status=statusEnabled

/-- The part of `handlerMultiKeyUpdate` for a key that was found. -/
def setKeyStatus (c : Channel) (keyIndex : ℕ) (status : ℤ) : Channel :=
  let others := c.channelInfo.multiKeyStatusList.filter fun s => s.1≠keyIndex
  let statusList := if status=statusEnabled then others else (keyIndex,status)::others
  let info := { c.channelInfo with multiKeyStatusList := statusList }
  if hasEnabledMultiKey c.channelInfo.keys statusList then
    if status=statusEnabled then { c with status := statusEnabled, channelInfo := info }
    else { c with channelInfo := info }
  else { c with status := statusAutoDisabled, channelInfo := info }

def handlerMultiKeyUpdate (c : Channel) (usingKey : String) (status : ℤ) : Channel :=
  if c.channelInfo.keys=[] then { c with status := status }
  else
    match c.channelInfo.keys.findIdx? (· = usingKey) with
    | none => if usingKey ≠ "" then c else { c with status := status }
    | some keyIndex => setKeyStatus c keyIndex status

/-- The part of `UpdateChannelStatus` that edits the memory cache; without a result the call ends there. -/
def updateCachedStatus (cache : ChannelCache) (channelId : ℕ) (usingKey : String) (status : ℤ) :
    Option ChannelCache :=
  match cache.channelsIDM channelId with
  | none => none
  | some c =>
    if c.channelInfo.isMultiKey then
      let c' := handlerMultiKeyUpdate c usingKey status
      let cache := { cache with channelsIDM := Function.update cache.channelsIDM channelId (some c') }
      some (if c.status≠c'.status then cacheUpdateChannelStatus cache channelId c'.status else cache)
    else if c.status=status then none
    else some (cacheUpdateChannelStatus cache channelId status)

namespace Tables

/-- `SaveWithoutKey`. -/
def saveWithoutKey (t : Tables) (c : Channel) : Tables :=
  { t with
    channels := t.channels.update (fun d => if d.id=c.id then c else d)
      (by intro d; split <;> simp_all) }

/-- The part of `UpdateChannelStatus` that writes to the database. -/
def updateStoredStatus (t : Tables) (channelId : ℕ) (usingKey : String) (status : ℤ) : Tables :=
  match t.getChannelById channelId with
  | none => t
  | some c =>
    if c.status=status then t
    else if c.channelInfo.isMultiKey then
      let c' := handlerMultiKeyUpdate c usingKey status
      let saved := t.saveWithoutKey c'
      if c.status≠c'.status then saved.updateAbilityStatus channelId (status=statusEnabled) else saved
    else (t.saveWithoutKey { c with status := status }).updateAbilityStatus channelId (status=statusEnabled)

/-- `UpdateChannelStatus`, with the memory cache if it is on. -/
def updateChannelStatus (t : Tables) (cache : Option ChannelCache) (channelId : ℕ) (usingKey : String) (status : ℤ) :
    Option ChannelCache × Tables :=
  match cache with
  | none => (none,t.updateStoredStatus channelId usingKey status)
  | some old =>
    match updateCachedStatus old channelId usingKey status with
    | none => (some old,t)
    | some new => (some new,t.updateStoredStatus channelId usingKey status)
end Tables

namespace Tables

def setStatusByTag (t : Tables) (tag : String) (status : ℤ) : Tables :=
  { t with
    channels := t.channels.update (fun c => if c.tag=some tag then { c with status := status } else c)
      (by intro c; split <;> rfl) }

def enableChannelByTag (t : Tables) (tag : String) : Tables :=
  (t.setStatusByTag tag statusEnabled).updateAbilityStatusByTag tag true

def disableChannelByTag (t : Tables) (tag : String) : Tables :=
  (t.setStatusByTag tag statusManuallyDisabled).updateAbilityStatusByTag tag false

/-- What `EditChannelByTag` changes. -/
structure TagEdit where
  tag : String
  newTag : Option String
  models : Option String
  group : Option String
  priority : Option ℤ
  weight : Option ℕ

namespace TagEdit
variable (e : TagEdit)
def updatedTag : String := e.newTag.getD e.tag

def shouldReCreateAbilities : Bool := e.models.any (· ≠ "") || e.group.any (· ≠ "")

def editChannel (c : Channel) : Channel :=
  if c.tag=some e.tag then
    { c with
      tag := some e.updatedTag
      models := (e.models.filter (· ≠ "")).getD c.models
      group := (e.group.filter (· ≠ "")).getD c.group
      priority := e.priority.or c.priority
      weight := e.weight.or c.weight }
  else c

/-- `UpdateAbilityByTag`, the weight of which is no pointer: 0 is left out of the update. -/
def editAbility (a : Ability) : Ability :=
  if a.tag=some e.tag then
    { a with
      tag := e.newTag.or a.tag
      priority := e.priority.getD a.priority
      weight := (e.weight.filter (· ≠ 0)).getD a.weight }
  else a

lemma id_editChannel (c : Channel) : (e.editChannel c).id=c.id := by
  unfold editChannel
  split <;> rfl

lemma key_editAbility (a : Ability) : (e.editAbility a).key=a.key := by
  unfold editAbility
  split <;> rfl
end TagEdit

def editChannelByTag (t : Tables) (e : TagEdit) : Tables :=
  let t := { t with channels := t.channels.update e.editChannel e.id_editChannel }
  if e.shouldReCreateAbilities then
    (t.channels.rows.filter fun c => c.tag=some e.updatedTag).foldl updateAbilities t
  else { t with abilities := t.abilities.update e.editAbility e.key_editAbility }

def setTag (t : Tables) (ids : List ℕ) (tag : Option String) : Tables :=
  { t with
    channels := t.channels.update (fun c => if c.id∈ids then { c with tag := tag } else c)
      (by intro c; split <;> rfl) }

def batchSetChannelTag (t : Tables) (ids : List ℕ) (tag : Option String) : Tables :=
  (t.channels.rows.filter fun c => c.id∈ids).foldl updateAbilities (t.setTag ids tag)

def deleteChannelByStatus (t : Tables) (status : ℤ) : Tables :=
  { t with channels := t.channels.delete fun c => c.status=status }

def deleteDisabledChannel (t : Tables) : Tables :=
  { t with channels := t.channels.delete fun c => c.status=statusAutoDisabled ∨ c.status=statusManuallyDisabled }

/-- One chunk of `FixAbility`. -/
def fixChunk (t : Tables) (chunk : List Channel) : Tables :=
  chunk.foldl addAbilities (t.deleteAbilities (chunk.map Channel.id))

def fixAbility (t : Tables) : Tables :=
  (chunk 50 t.channels.rows).foldl fixChunk { t with abilities := .empty }

inductive Operation
  | insert (c : Channel)
  | batchInsertChannels (channels : List Channel)
  | update (u : ChannelUpdate)
  | delete (id : ℕ)
  | batchDeleteChannels (ids : List ℕ)
  | updateChannelStatus (cache : Option ChannelCache) (channelId : ℕ) (usingKey : String) (status : ℤ)
  | enableChannelByTag (tag : String)
  | disableChannelByTag (tag : String)
  | editChannelByTag (e : TagEdit)
  | batchSetChannelTag (ids : List ℕ) (tag : Option String)
  | deleteChannelByStatus (status : ℤ)
  | deleteDisabledChannel
  | fixAbility

def run (t : Tables) : Operation → Option Tables
  | .insert c => t.insert c
  | .batchInsertChannels channels => t.batchInsertChannels channels
  | .update u => t.update u
  | .delete id => t.delete id
  | .batchDeleteChannels ids => some (t.batchDeleteChannels ids)
  | .updateChannelStatus cache channelId usingKey status =>
    some (t.updateChannelStatus cache channelId usingKey status).2
  | .enableChannelByTag tag => some (t.enableChannelByTag tag)
  | .disableChannelByTag tag => some (t.disableChannelByTag tag)
  | .editChannelByTag e => some (t.editChannelByTag e)
  | .batchSetChannelTag ids tag => some (t.batchSetChannelTag ids tag)
  | .deleteChannelByStatus status => some (t.deleteChannelByStatus status)
  | .deleteDisabledChannel => some t.deleteDisabledChannel
  | .fixAbility => some t.fixAbility
end Tables
end AronaApi.Channels
