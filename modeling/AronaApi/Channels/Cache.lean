import AronaApi.Lib.Selection
import AronaApi.Lib.Table
import AronaApi.Relay.ModelNames

/-! The rows of the channels and abilities tables (`model/channel.go`, `model/ability.go`) and the request paths
that an Advanced Custom channel serves (`dto/channel_settings.go`).

The memory cache of the channels (`model/channel_cache.go`): how it is built from the two tables, how a
status change edits it, and how a channel is chosen from it: a group's channels for a model, the priority that
the retry number asks for, and a weighted draw among the channels that have it. -/
namespace AronaApi.Channels
open GoStd

structure AdvancedCustomConfig where
  routes : List String

def advancedCustomModelPlaceholder : List Char := "\x7bmodel\x7d".toList

/-- `matchAdvancedCustomIncomingPathTemplate`: a path with one placeholder for the model matches any model that
is a single segment. -/
def matchIncomingPathTemplate (configuredPath requestPath : String) : Bool :=
  match cut advancedCustomModelPlaceholder configuredPath.toList with
  | none => configuredPath=requestPath
  | some (before,after) =>
    if occursIn advancedCustomModelPlaceholder after then false
    else if !hasPrefix requestPath (String.ofList before) || !hasSuffix requestPath (String.ofList after) then false
    else
      let model := trimSuffix (trimPrefix requestPath (String.ofList before)) (String.ofList after)
      model ≠ "" && !contains model "/"

/-- `matchAdvancedCustomIncomingPath`: a route for generated content is one for its stream as well. -/
def matchIncomingPath (configuredPath requestPath : String) : Bool :=
  matchIncomingPathTemplate configuredPath requestPath ||
    match cut ":generateContent".toList configuredPath.toList with
    | none => false
    | some (before,after) =>
      matchIncomingPathTemplate (String.ofList (before++":streamGenerateContent".toList++after)) requestPath

def AdvancedCustomConfig.supportsPath (config : AdvancedCustomConfig) (requestPath : String) : Bool :=
  config.routes.any fun route => matchIncomingPath (trimSpace route) requestPath

def statusEnabled : ℤ := 1
def statusManuallyDisabled : ℤ := 2
def statusAutoDisabled : ℤ := 3

def typeAdvancedCustom : ℤ := 58

structure ChannelInfo where
  isMultiKey : Bool
  keys : List String
  multiKeyStatusList : List (ℕ × ℤ)

/-- A row of the channels table; `advancedCustom` is the configuration among its other settings. -/
structure Channel where
  id : ℕ
  type : ℤ
  status : ℤ
  weight : Option ℕ
  models : String
  group : String
  priority : Option ℤ
  tag : Option String
  advancedCustom : Option AdvancedCustomConfig
  channelInfo : ChannelInfo

/-- A row of the abilities table; its primary key is the group, the model and the channel. -/
structure Ability where
  group : String
  model : String
  channelId : ℕ
  enabled : Bool
  priority : ℤ
  weight : ℕ
  tag : Option String
deriving DecidableEq

namespace Channel

def getPriority (c : Channel) : ℤ := c.priority.getD 0

def getWeight (c : Channel) : ℕ := c.weight.getD 0

def groups (c : Channel) : List String := split c.group ','

def modelNames (c : Channel) : List String := split c.models ','

def Offers (c : Channel) (group model : String) : Prop := group∈c.groups ∧ model∈c.modelNames

instance (c : Channel) (group model : String) : Decidable (c.Offers group model) := by
  unfold Offers
  infer_instance

/-- Only Advanced Custom channels are checked for the path, and only on requests that have one. -/
def servesPath (c : Channel) (requestPath : String) : Bool :=
  requestPath = "" || c.type≠typeAdvancedCustom ||
    c.advancedCustom.any fun config => config.supportsPath requestPath
end Channel

open Relay Selection

structure ChannelCache where
  group2model2channels : String → String → List ℕ
  channelsIDM : ℕ → Option Channel
  channel2advancedCustomConfig : ℕ → Option AdvancedCustomConfig

/-- The index that a rebuild fills: the enabled channels of each group and model. -/
abbrev Index := String → String → List ℕ

/-- One assignment of the innermost loop. Only the groups of the abilities table have an inner map, and an
assignment into a missing one is a panic. -/
def addToIndex (abilityGroups : List String) (id : ℕ) (index : Index) (pair : String × String) : Option Index :=
  if pair.1∈abilityGroups then
    some fun group model => if (group,model)=pair then index group model++[id] else index group model
  else none

/-- The pairs of a channel in the order of the loops, repeated entries included. -/
def Channel.pairs (c : Channel) : List (String × String) :=
  c.groups.flatMap fun group => c.modelNames.map fun model => (group,model)

def indexChannel (abilityGroups : List String) (index : Index) (c : Channel) : Option Index :=
  if c.status=statusEnabled then c.pairs.foldlM (addToIndex abilityGroups c.id) index else some index

def sortByPriority (channels : List Channel) (ids : List ℕ) : List ℕ :=
  let priority id := ((Table.lookup Channel.id id channels).map Channel.getPriority).getD 0
  ids.insertionSort fun i j => priority j≤priority i

/-- `InitChannelCache` on what its two queries return; `none` is a panic. -/
def initChannelCache (channels : List Channel) (abilities : List Ability) : Option ChannelCache :=
  (channels.foldlM (indexChannel (abilities.map Ability.group)) fun _ _ => []).map fun index =>
    { group2model2channels := fun group model => sortByPriority channels (index group model)
      channelsIDM := fun id => Table.lookup Channel.id id channels
      channel2advancedCustomConfig := fun id =>
        (Table.lookup Channel.id id channels).bind fun c =>
          if c.type=typeAdvancedCustom then c.advancedCustom else none }

/-- `CacheUpdateChannelStatus`: the first entry of the channel is taken out of every list. -/
def cacheUpdateChannelStatus (cache : ChannelCache) (id : ℕ) (status : ℤ) : ChannelCache :=
  { cache with
    channelsIDM := fun i =>
      if i=id then (cache.channelsIDM i).map fun c => { c with status := status } else cache.channelsIDM i
    group2model2channels := fun group model =>
      if status≠statusEnabled then (cache.group2model2channels group model).erase id
      else cache.group2model2channels group model }

variable (cache : ChannelCache)
def filterChannelsByRequestPath (channels : List ℕ) (requestPath : String) : List ℕ :=
  if requestPath = "" then channels
  else channels.filter fun id =>
    match cache.channelsIDM id with
    | none => true
    | some channel =>
      channel.type≠typeAdvancedCustom ||
        (cache.channel2advancedCustomConfig id).any fun config => config.supportsPath requestPath

/-- The channels with the exact name of the model, or those with its normalized name if there are none. -/
def candidates (group model requestPath : String) : List ℕ :=
  let channels := filterChannelsByRequestPath cache (cache.group2model2channels group model) requestPath
  if channels=[] then
    filterChannelsByRequestPath cache (cache.group2model2channels group (formatMatchingModelName model)) requestPath
  else channels

def consistencyError (channelId : ℕ) : String :=
  "数据库一致性错误，渠道# "++toString channelId++" 不存在，请联系管理员修复"

def cachedChannels : List ℕ → Except String (List Channel)
  | [] => .ok []
  | id::ids =>
    match cache.channelsIDM id with
    | none => .error (consistencyError id)
    | some channel => (cachedChannels ids).map (channel::·)

/-- Channels that all weigh nothing weigh the same, and small weights are spread out. -/
def smoothedWeight (targetChannels : List Channel) (channel : Channel) : ℕ :=
  let sumWeight := (targetChannels.map Channel.getWeight).sum
  let smoothingAdjustment := if sumWeight=0 then 100 else 0
  let smoothingFactor := if sumWeight≠0 ∧ sumWeight/targetChannels.length<10 then 100 else 1
  channel.getWeight*smoothingFactor+smoothingAdjustment

def totalWeight (targetChannels : List Channel) : ℕ :=
  let sumWeight := (targetChannels.map Channel.getWeight).sum
  let smoothingFactor := if sumWeight≠0 ∧ sumWeight/targetChannels.length<10 then 100 else 1
  (if sumWeight=0 then targetChannels.length*100 else sumWeight)*smoothingFactor

/-- The part of `GetRandomSatisfiedChannel` that chooses among several channels. -/
def chooseChannel (rand : Rand) (group model : String) (retry : ℕ) (channels : List Channel) :
    Except String (Option Channel) :=
  let sortedUniquePriorities := levels Channel.getPriority channels
  let retry := if sortedUniquePriorities.length ≤ retry then sortedUniquePriorities.length-1 else retry
  let targetPriority := sortedUniquePriorities.getD retry 0
  let targetChannels := channels.filter (·.getPriority=targetPriority)
  if targetChannels=[] then
    .error ("no channel found, group: "++group++", model: "++model++", priority: "++toString targetPriority)
  else
    match draw (smoothedWeight targetChannels) (rand.intn (totalWeight targetChannels)) targetChannels with
    | some channel => .ok (some channel)
    | none => .error "channel not found"

/-- `GetRandomSatisfiedChannel` with the memory cache on. -/
def getRandomSatisfiedChannel (rand : Rand) (group model : String) (retry : ℕ) (requestPath : String) :
    Except String (Option Channel) :=
  match candidates cache group model requestPath with
  | [] => .ok none
  | [id] =>
    match cache.channelsIDM id with
    | some channel => .ok (some channel)
    | none => .error (consistencyError id)
  | ids =>
    match cachedChannels cache ids with
    | .error e => .error e
    | .ok channels => chooseChannel rand group model retry channels
end AronaApi.Channels
