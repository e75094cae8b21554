import AronaApi.Lib.GoStd

/-! The names of models: the one under which limits, prices and channels list a model
(`setting/ratio_setting/model_ratio.go`), and the one that a channel is asked for, which is the client's or the
end of the channel's chain of redirections (`relay/helper/model_mapped.go`). -/
namespace AronaApi.Relay
open GoStd List

def handleThinkingBudgetModel (name pre wildcard : String) : String :=
  if hasPrefix name pre && occursIn "-thinking-".toList name.toList then wildcard else name

/-- `FormatMatchingModelName`: the name under which limits and prices list a model. -/
def formatMatchingModelName (name : String) : String :=
  let name :=
    if hasPrefix name "gemini-2.5-flash-lite" then
      handleThinkingBudgetModel name "gemini-2.5-flash-lite" "gemini-2.5-flash-lite-thinking-*"
    else if hasPrefix name "gemini-2.5-flash" then
      handleThinkingBudgetModel name "gemini-2.5-flash" "gemini-2.5-flash-thinking-*"
    else if hasPrefix name "gemini-2.5-pro" then
      handleThinkingBudgetModel name "gemini-2.5-pro" "gemini-2.5-pro-thinking-*"
    else name
  let name := if hasPrefix name "gpt-4-gizmo" then "gpt-4-gizmo-*" else name
  if hasPrefix name "gpt-4o-gizmo" then "gpt-4o-gizmo-*" else name

/-- The modes of the handlers that map a model; the others differ from these in nothing that is read here. -/
inductive RelayMode
  | chatCompletions
  | completions
  | embeddings
  | moderations
  | edits
  | responsesCompact
deriving DecidableEq

/-- The part of `RelayInfo` that names models. -/
structure ModelNames where
  relayMode : RelayMode
  originModelName : String
  upstreamModelName : String
  isModelMapped : Bool

def compactModelSuffix : String := "-openai-compact"

def withCompactModelSuffix (modelName : String) : String :=
  if hasSuffix modelName compactModelSuffix then modelName else modelName++compactModelSuffix

/-- A channel's mapping: none (`""` or an empty object), a text that is not a mapping, or its pairs. -/
inductive ModelMapping
  | unset
  | malformed
  | pairs (modelMap : List (String × String))

inductive Redirected
  -- the client's own name is mapped to itself: the helper returns at once
  | toItself
  | to (modelName : String) (isModelMapped : Bool)

lemma length_filter_visited {modelMap : List (String × String)} {visited : List String}
    {current mapped : String} (h : modelMap.lookup current=some mapped) (hnew : mapped∉visited) :
    (modelMap.filter fun p => p.2∉mapped::visited).length<(modelMap.filter fun p => p.2∉visited).length := by
  have hmem : (current,mapped)∈modelMap := by
    obtain ⟨before,after,hmap,-⟩ := lookup_eq_some_iff.mp h
    simp [hmap]
  have hsplit : (modelMap.filter fun p => p.2∉mapped::visited) =
      (modelMap.filter fun p => p.2∉visited).filter fun p => p.2≠mapped := by
    rw [filter_filter]
    apply filter_congr
    intro p _
    simp
  rw [hsplit,length_filter_lt_length_iff_exists]
  refine ⟨(current,mapped),?_,?_⟩
  · rw [mem_filter]
    exact ⟨hmem,by simpa using hnew⟩
  · simp

/-- The loop of `ModelMappedHelper`. Each round visits a name that was not visited before, and the pairs that
lead to such names get fewer. -/
def followMapping (modelMap : List (String × String)) (originModelName currentModel : String)
    (isModelMapped : Bool) (visitedModels : List String) : Except String Redirected :=
  match h : modelMap.lookup currentModel with
  | none => .ok (.to currentModel isModelMapped)
  | some mappedModel =>
    if mappedModel = "" then .ok (.to currentModel isModelMapped)
    else if hvisited : mappedModel∈visitedModels then
      if mappedModel=currentModel then
        if currentModel=originModelName then .ok .toItself else .ok (.to currentModel true)
      else .error "model_mapping_contains_cycle"
    else followMapping modelMap originModelName mappedModel true (mappedModel::visitedModels)
termination_by (modelMap.filter fun p => p.2∉visitedModels).length
decreasing_by exact length_filter_visited h hvisited

def redirect (modelMapping : ModelMapping) (originModelName mappingModelName : String) :
    Except String Redirected :=
  match modelMapping with
  | .unset => .ok (.to mappingModelName false)
  | .malformed => .error "unmarshal_model_mapping_failed"
  | .pairs modelMap => followMapping modelMap originModelName mappingModelName false [mappingModelName]

/-- `ModelMappedHelper`; `setModelName` is the request's own. -/
def modelMappedHelper {Request : Type} (setModelName : String → Request → Request) (modelMapping : ModelMapping)
    (info : ModelNames) (request : Request) : Except String (ModelNames × Request) :=
  let isResponsesCompact := info.relayMode=.responsesCompact
  let mappingModelName :=
    if isResponsesCompact then trimSuffix info.originModelName compactModelSuffix else info.originModelName
  match redirect modelMapping info.originModelName mappingModelName with
  | .error e => .error e
  | .ok .toItself => .ok ({ info with isModelMapped := false },request)
  | .ok (.to currentModel mapped) =>
    let isModelMapped := info.isModelMapped || mapped
    -- a mapping that was set but had nothing for the name leaves what an earlier call had mapped
    let upstreamModelName :=
      if modelMapping matches .pairs _ ∧ isModelMapped then currentModel else info.upstreamModelName
    let info := { info with upstreamModelName := upstreamModelName, isModelMapped := isModelMapped }
    let info :=
      if isResponsesCompact then
        let finalUpstreamModelName :=
          if isModelMapped ∧ upstreamModelName ≠ "" then upstreamModelName else mappingModelName
        { info with upstreamModelName := finalUpstreamModelName,
                    originModelName := withCompactModelSuffix finalUpstreamModelName }
      else info
    .ok (info,setModelName info.upstreamModelName request)

lemma modelMappedHelper_unset {Request : Type} (setModelName : String → Request → Request) {info : ModelNames}
    (request : Request) (h : info.relayMode≠.responsesCompact) :
    modelMappedHelper setModelName .unset info request=.ok (info,setModelName info.upstreamModelName request) := by
  simp [modelMappedHelper,redirect,h]
end AronaApi.Relay
