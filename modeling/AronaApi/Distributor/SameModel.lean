import AronaApi.Lib.JsonMembers
import AronaApi.Relay.ModelNames

/-! Whether the model that is checked against the token's limits and billed is the one that the upstream runs, for the
JSON bodies of the text handler (`middleware/distributor.go`, `relay/compatible_handler.go`,
`relay/helper/valid_request.go`) and the names that the OpenAI adaptor writes (`relay/channel/openai/adaptor.go`,
`setting/reasoning/suffix.go`). `Distribute` reads the first `model` of the body by a path query, and an upstream that
is sent the body as it came reads the last one. -/
namespace AronaApi.Distributor
open GoStd JsonMembers Relay

inductive Body (α : Type)
  | invalid
  | object (members : Members α)
  | null
  -- an array, a string, a number or a truth value
  | nonObject

/-- `gjson.GetBytes` for a plain key. -/
def Body.get {α : Type} (field : String) : Body α → Option (Value α)
  | .object members => JsonMembers.get field members
  | _ => none

/-- The string field of this name in the record that `json.Unmarshal` fills from the body. -/
def Body.unmarshalString {α : Type} (field : String) : Body α → Option String
  | .object members => JsonMembers.unmarshalString field "" members
  | .null => some ""
  | _ => none

structure ModelRequest where
  model : String
  group : String

/-- `getJSONStringValue`. -/
def getJSONStringValue {α : Type} (result : Option (Value α)) (field : String) : Except String String :=
  match result with
  | none => .ok ""
  | some .null => .ok ""
  | some (.string s) => .ok s
  | some (.other _) => .error ("field "++field++" must be a string")

def getModelFromJSONBody {α : Type} (body : Body α) : Except String ModelRequest :=
  match body with
  | .invalid => .error "invalid JSON request body"
  | body =>
    match getJSONStringValue (body.get "model") "model",getJSONStringValue (body.get "group") "group" with
    | .error e,_ => .error e
    | .ok _,.error e => .error e
    | .ok model,.ok group => .ok ⟨model,group⟩

inductive TextPath
  | chatCompletions
  | playground
  | completions
  | moderations
deriving DecidableEq

/-- `Path2RelayMode`. -/
def TextPath.relayMode : TextPath → RelayMode
  | .chatCompletions => .chatCompletions
  | .playground => .chatCompletions
  | .completions => .completions
  | .moderations => .moderations

/-- `getModelRequest`: only the playground's group is kept. -/
def getModelRequest {α : Type} (path : TextPath) (body : Body α) : Except String ModelRequest :=
  match getModelFromJSONBody body with
  | .error e => .error e
  | .ok req =>
    .ok { model := if path=.moderations ∧ req.model = "" then "text-moderation-stable" else req.model
          group := if path=.playground then req.group else "" }

/-- The settings of a channel that decide what is sent to it; `paramOverride` is what the override makes of the
model field of a body, which may be absent. -/
structure Channel where
  id : ℕ
  type : ℕ
  passThroughBodyEnabled : Bool
  modelMapping : ModelMapping
  paramOverride : Option (Option String → Except String (Option String))

/-- What the token allows: a channel that its key is bound to, or the models of its limit, if the limit is on
and was found. -/
structure Token where
  specificChannel : Option (Except String Channel)
  modelLimitEnable : Bool
  tokenModelLimit : Option (List String)

inductive Abort
  | invalidRequest (error : String)
  | channelUnusable (error : String)
  | tokenNoModelAccess
  | tokenModelForbidden (model : String)
  | modelNameRequired
  | noChannel (error : String)

/-- The context key of the original model, set by `SetupContextForSelectedChannel`, and the channel. -/
structure Context where
  originalModel : String
  channel : Channel

def checkModelLimit (token : Token) (model : String) : Except Abort Unit :=
  if token.modelLimitEnable then
    match token.tokenModelLimit with
    | none => .error .tokenNoModelAccess
    | some tokenModelLimit =>
      if formatMatchingModelName model∈tokenModelLimit then .ok () else .error (.tokenModelForbidden model)
  else .ok ()

/-- `Distribute`; `selectChannel` finds a channel for a model and a group, by affinity or at random. -/
def distribute {α : Type} (selectChannel : String → String → Except String Channel) (token : Token)
    (path : TextPath) (body : Body α) : Except Abort Context :=
  match getModelRequest path body with
  | .error e => .error (.invalidRequest e)
  | .ok modelRequest =>
    match token.specificChannel with
    | some (.error e) => .error (.channelUnusable e)
    | some (.ok channel) => .ok ⟨modelRequest.model,channel⟩
    | none =>
      match checkModelLimit token modelRequest.model with
      | .error e => .error e
      | .ok _ =>
        if modelRequest.model = "" then .error .modelNameRequired
        else
          match selectChannel modelRequest.model modelRequest.group with
          | .error e => .error (.noChannel e)
          | .ok channel => .ok ⟨modelRequest.model,channel⟩

variable {α : Type} {selectChannel : String → String → Except String Channel} {token : Token} {path : TextPath}
  {body : Body α} {ctx : Context}

lemma distribute_ok (h : distribute selectChannel token path body=.ok ctx) :
    (∃ group, getModelRequest path body=.ok ⟨ctx.originalModel,group⟩) ∧
      (token.specificChannel=none → ctx.originalModel ≠ "" ∧ checkModelLimit token ctx.originalModel=.ok ()) := by
  unfold distribute at h
  split at h
  · cases h
  next modelRequest hread =>
  split at h
  · cases h
  next channel hspec =>
    cases h
    exact ⟨⟨modelRequest.group,hread⟩,fun hnone => nomatch hspec.symm.trans hnone⟩
  split at h
  · cases h
  next hlmt =>
  split at h
  · cases h
  next hname =>
  split at h
  · cases h
  cases h
  exact ⟨⟨modelRequest.group,hread⟩,fun _ => ⟨hname,hlmt⟩⟩

lemma getModelRequest_moderations {req : ModelRequest} (h : getModelRequest .moderations body=.ok req) :
    req.model ≠ "" := by
  unfold getModelRequest at h
  split at h
  · cases h
  next r _ =>
  cases h
  by_cases hmdl : r.model = "" <;> simp [hmdl]

/-- The raw `thinking` field: not decodable, or whether it is enabled and with what budget. -/
inductive Thinking
  | malformed (error : String)
  | parsed (enabled : Bool) (budgetTokens : Option ℤ)

/-- The fields of a request, other than its model, that the checks and the adaptor read; `none` is an absent
pointer. -/
structure RequestFields where
  maxTokens : ℕ
  searchContextSize : Option String
  promptIsEmptyString : Bool
  messages : ℕ
  hasPrefixField : Bool
  hasSuffixField : Bool
  inputIsEmpty : Bool
  instruction : String
  thinking : Option Thinking

structure GeneralOpenAIRequest where
  model : String
  fields : RequestFields

def GeneralOpenAIRequest.setModelName (modelName : String) (r : GeneralOpenAIRequest) : GeneralOpenAIRequest :=
  if modelName ≠ "" then { r with model := modelName } else r

/-- The part of the checks that concerns the web search options; an empty size becomes the default. -/
def validSearchContextSize (fields : RequestFields) : Except String RequestFields :=
  match fields.searchContextSize with
  | none => .ok fields
  | some size =>
    if size = "" then .ok { fields with searchContextSize := some "medium" }
    else if size∈["high","medium","low"] then .ok fields
    else .error "invalid search_context_size, must be one of: high, medium, low"

def requiredField (relayMode : RelayMode) (fields : RequestFields) : Option String :=
  match relayMode with
  | .completions => if fields.promptIsEmptyString then some "field prompt is required" else none
  | .chatCompletions =>
    if fields.messages=0 ∧ ¬fields.hasPrefixField ∧ ¬fields.hasSuffixField then some "field messages is required"
    else none
  | .moderations => if fields.inputIsEmpty then some "field input is required" else none
  | .edits => if fields.instruction = "" then some "field instruction is required" else none
  | _ => none

/-- `GetAndValidateTextRequest` on the record that was decoded from the body. -/
def validateTextRequest (relayMode : RelayMode) (textRequest : GeneralOpenAIRequest) :
    Except String GeneralOpenAIRequest :=
  let model := if relayMode=.moderations ∧ textRequest.model = "" then "text-moderation-latest" else textRequest.model
  if (2^31-1)/2<textRequest.fields.maxTokens then .error "max_tokens is invalid"
  else if model = "" then .error "model is required"
  else
    match validSearchContextSize textRequest.fields with
    | .error e => .error e
    | .ok fields =>
      match requiredField relayMode fields with
      | some e => .error e
      | none => .ok ⟨model,fields⟩

/-- An adaptor's conversions of a chat and of a responses request: the model field of the body they produce,
which the names decide, and the errors they can make. -/
structure Adaptor where
  requestModel : ModelNames → String → Option String
  requestError : ModelNames → GeneralOpenAIRequest → Option String
  responsesModel : ModelNames → String → Option String
  responsesError : ModelNames → GeneralOpenAIRequest → Option String

/-- The instance's settings and the parts of it that stay abstract here: how `encoding/json` fills the fields
other than the model, the adaptor of a channel's type, which channels serve chats through the responses API,
and what of a chat has no counterpart there. -/
structure Instance (α : Type) where
  passThroughRequestEnabled : Bool
  unmarshalFields : Body α → Except String RequestFields
  selectChannel : String → String → Except String Channel
  adaptor : (channelType : ℕ) → Adaptor
  shouldChatCompletionsUseResponses : (channelId channelType : ℕ) → String → Bool
  chatToResponsesError : GeneralOpenAIRequest → Option String

/-- What goes upstream: the client's own body, or a converted one with this model field. -/
inductive Sent (α : Type)
  | raw (body : Body α)
  | converted (model : Option String)

/-- The model that an upstream reads, which decodes like `encoding/json`. -/
def Sent.model {α : Type} : Sent α → Option String
  | .raw body => body.unmarshalString "model"
  | .converted model => model

section
variable {α : Type} (inst : Instance α)
def Instance.passThrough (channel : Channel) : Bool := inst.passThroughRequestEnabled || channel.passThroughBodyEnabled

/-- `InitChannelMeta`: every attempt starts from the name in the context. -/
def initChannelMeta (path : TextPath) (ctx : Context) : ModelNames :=
  ⟨path.relayMode,ctx.originalModel,ctx.originalModel,false⟩

def applyParamOverride (channel : Channel) (model : Option String) : Except String (Option String) :=
  match channel.paramOverride with
  | none => .ok model
  | some override => override model

/-- A string field with `omitempty`. -/
def omitEmpty (s : String) : Option String := if s = "" then none else some s

def Instance.usesResponses (relayMode : RelayMode) (channel : Channel) (originModelName : String) : Bool :=
  relayMode=.chatCompletions && inst.shouldChatCompletionsUseResponses channel.id channel.type originModelName

/-- The conversion with the pass-through off. A chat that goes through the responses API is overridden before
the conversion, any other request after it. -/
def convertRequest (channel : Channel) (info : ModelNames) (request : GeneralOpenAIRequest) :
    Except String (Option String) :=
  let adaptor := inst.adaptor channel.type
  if inst.usesResponses info.relayMode channel info.originModelName then
    match applyParamOverride channel (omitEmpty request.model) with
    | .error e => .error e
    | .ok model =>
      let request := { request with model := model.getD "" }
      if request.model = "" then .error "model is required"
      else
        match inst.chatToResponsesError request,adaptor.responsesError info request with
        | some e,_ => .error e
        | none,some e => .error e
        | none,none => .ok (adaptor.responsesModel info request.model)
  else
    match adaptor.requestError info request with
    | some e => .error e
    | none => applyParamOverride channel (adaptor.requestModel info request.model)

/-- `TextHelper` up to the request it makes. -/
def textHelper (path : TextPath) (ctx : Context) (body : Body α) (textReq : GeneralOpenAIRequest) :
    Except String (ModelNames × Sent α) :=
  match modelMappedHelper GeneralOpenAIRequest.setModelName ctx.channel.modelMapping (initChannelMeta path ctx)
    textReq with
  | .error e => .error e
  | .ok (info,request) =>
    if inst.passThrough ctx.channel then .ok (info,.raw body)
    else (convertRequest inst ctx.channel info request).map fun model => (info,.converted model)

/-- A request that went through: the name that `Distribute` checked, the channel, the names of the relay and
what was sent. -/
structure Forwarded (α : Type) where
  checkedModel : String
  channel : Channel
  info : ModelNames
  sent : Sent α

inductive Rejection
  | aborted (abort : Abort)
  | invalid (error : String)
  | failed (error : String)

/-- A request on its way through `Distribute`, `GetAndValidateRequest` and `TextHelper`. -/
def forward (token : Token) (path : TextPath) (body : Body α) : Except Rejection (Forwarded α) :=
  match distribute inst.selectChannel token path body with
  | .error e => .error (.aborted e)
  | .ok ctx =>
    match body.unmarshalString "model",inst.unmarshalFields body with
    | none,_ => .error (.invalid "json: cannot unmarshal into Go struct field GeneralOpenAIRequest.model of type string")
    | some _,.error e => .error (.invalid e)
    | some model,.ok fields =>
      match validateTextRequest path.relayMode ⟨model,fields⟩ with
      | .error e => .error (.invalid e)
      | .ok textReq =>
        match textHelper inst path ctx body textReq with
        | .error e => .error (.failed e)
        | .ok (info,sent) => .ok ⟨ctx.originalModel,ctx.channel,info,sent⟩
end

def openAIEffortSuffixes : List String := ["-high","-minimal","-low","-medium","-none","-xhigh"]

/-- `ParseOpenAIReasoningEffortFromModelSuffix`: the name without its first suffix of the list. -/
def parseReasoningEffort (modelName : String) : Option String :=
  (openAIEffortSuffixes.find? (hasSuffix modelName)).map (trimSuffix modelName)

def channelTypeOpenRouter : ℕ := 20

/-- The errors that OpenRouter's conversion of `thinking` can make. -/
def thinkingError (upstreamModelName : String) (fields : RequestFields) : Option String :=
  match fields.thinking with
  | none => none
  | some thinking =>
    if hasPrefix upstreamModelName "anthropic" then
      match thinking with
      | .malformed e => some ("error Unmarshal thinking: "++e)
      | .parsed true none => some "BudgetTokens is nil when thinking is enabled"
      | .parsed _ _ => none
    else none

def isOpenAIReasoningModel (name : String) : Bool :=
  hasPrefix name "o1" || hasPrefix name "o3" || hasPrefix name "o4" || hasPrefix name "gpt-5"

/-- Whether OpenRouter's conversion drops the suffix that asks for thinking; `preserves` is
`ShouldPreserveThinkingSuffix`. -/
def dropsThinking (preserves : String → Bool) (channelType : ℕ) (info : ModelNames) : Bool :=
  channelType=channelTypeOpenRouter && !preserves info.originModelName && hasSuffix info.upstreamModelName "-thinking"

def withoutThinking (preserves : String → Bool) (channelType : ℕ) (info : ModelNames) : String :=
  if dropsThinking preserves channelType info then trimSuffix info.upstreamModelName "-thinking"
  else info.upstreamModelName

def openAIAdaptor (preserves : String → Bool) (channelType : ℕ) : Adaptor where
  requestModel info model :=
    let upstreamModelName := withoutThinking preserves channelType info
    let model := if dropsThinking preserves channelType info then upstreamModelName else model
    omitEmpty (if isOpenAIReasoningModel upstreamModelName then (parseReasoningEffort upstreamModelName).getD model
      else model)
  requestError info request :=
    if channelType=channelTypeOpenRouter then thinkingError (withoutThinking preserves channelType info) request.fields
    else none
  responsesModel _ model := some ((parseReasoningEffort model).getD model)
  responsesError _ _ := none

variable {α : Type} {inst : Instance α} {token : Token} {path : TextPath} {body : Body α} {f : Forwarded α}
/-- The name that the request carries into the conversion: the checked one, unless there is none. -/
def carriedModel (checkedModel : String) (body : Body α) : String :=
  if checkedModel ≠ "" then checkedModel else (body.unmarshalString "model").getD ""

def Instance.writtenModel (inst : Instance α) (path : TextPath) (channel : Channel) (checkedModel model : String) :
    Option String :=
  let info : ModelNames := ⟨path.relayMode,checkedModel,checkedModel,false⟩
  if inst.usesResponses path.relayMode channel checkedModel then (inst.adaptor channel.type).responsesModel info model
  else (inst.adaptor channel.type).requestModel info model

variable {r textReq : GeneralOpenAIRequest} {checkedModel : String} {channel : Channel}
lemma validateTextRequest_ok {mode : RelayMode} (h : validateTextRequest mode r=.ok textReq) :
    textReq.model ≠ "" ∧ (textReq.model=r.model ∨ (mode=.moderations ∧ r.model = "")) := by
  unfold validateTextRequest at h
  dsimp only at h
  generalize hm : (if mode=.moderations ∧ r.model = "" then "text-moderation-latest" else r.model)=model at h
  split at h
  · cases h
  split at h
  · cases h
  next hmdl =>
  split at h
  · cases h
  split at h
  · cases h
  cases h
  refine ⟨hmdl,?_⟩
  by_cases hmod : mode=.moderations ∧ r.model = ""
  · exact .inr hmod
  rw [if_neg hmod] at hm
  exact .inl hm.symm

lemma forward_ok (h : forward inst token path body=.ok f) :
    ∃ model fields textReq, distribute inst.selectChannel token path body=.ok ⟨f.checkedModel,f.channel⟩ ∧
      body.unmarshalString "model" = some model ∧ validateTextRequest path.relayMode ⟨model,fields⟩=.ok textReq ∧
      textHelper inst path ⟨f.checkedModel,f.channel⟩ body textReq=.ok (f.info,f.sent) := by
  unfold forward at h
  split at h
  · cases h
  next ctx hctx =>
  split at h
  · cases h
  · cases h
  next model fields hmdl _ =>
  split at h
  · cases h
  next textReq hvalid =>
  split at h
  · cases h
  next info sent hsent =>
  cases h
  exact ⟨model,fields,textReq,hctx,hmdl,hvalid,hsent⟩

lemma textHelper_unset {ctx : Context} (hmap : ctx.channel.modelMapping=.unset) :
    textHelper inst path ctx body textReq =
      if inst.passThrough ctx.channel then .ok (initChannelMeta path ctx,.raw body)
      else (convertRequest inst ctx.channel (initChannelMeta path ctx) (textReq.setModelName ctx.originalModel)).map
        fun model => (initChannelMeta path ctx,.converted model) := by
  have hmode : (initChannelMeta path ctx).relayMode≠.responsesCompact := by
    cases path <;> simp [initChannelMeta,TextPath.relayMode]
  unfold textHelper
  rw [hmap,modelMappedHelper_unset _ _ hmode]
  rfl

lemma convertRequest_ok {request : GeneralOpenAIRequest} {model : Option String} (hover : channel.paramOverride=none)
    (h : convertRequest inst channel ⟨path.relayMode,checkedModel,checkedModel,false⟩ request=.ok model) :
    model=inst.writtenModel path channel checkedModel request.model := by
  have hkeep : ∀ m, applyParamOverride channel m=.ok m := by
    intro m
    simp only [applyParamOverride,hover]
  unfold convertRequest at h
  unfold Instance.writtenModel
  simp only [hkeep] at h
  split at h
  next huses =>
    rw [if_pos huses]
    split at h
    · cases h
    next hmdl =>
    split at h
    · cases h
    · cases h
    cases h
    by_cases hemp : request.model = ""
    · simp [omitEmpty,hemp] at hmdl
    · simp [omitEmpty,hemp]
  next huses =>
  rw [if_neg huses]
  split at h
  · cases h
  cases h
  rfl

variable {group model : String}
section
variable (hread : getModelRequest path body=.ok ⟨checkedModel,group⟩)
include hread
lemma checkedModel_ne_empty (hmode : path.relayMode=.moderations) : checkedModel ≠ "" := by
  have hpath : path=.moderations := by
    cases path <;> simp [TextPath.relayMode] at hmode ⊢
  subst hpath
  exact getModelRequest_moderations hread

section
variable (hmdl : body.unmarshalString "model" = some r.model)
  (hvalid : validateTextRequest path.relayMode r=.ok textReq)
include hmdl hvalid
lemma setModelName_model : (textReq.setModelName checkedModel).model=carriedModel checkedModel body := by
  unfold GeneralOpenAIRequest.setModelName carriedModel
  by_cases hemp : checkedModel = ""
  · rw [if_neg (not_not.mpr hemp),if_neg (not_not.mpr hemp),hmdl,Option.getD_some]
    obtain ⟨-,heq | ⟨hmode,-⟩⟩ := validateTextRequest_ok hvalid
    · exact heq
    · exact absurd hemp (checkedModel_ne_empty hread hmode)
  · rw [if_pos hemp,if_pos hemp]

lemma unmarshalString_eq_checked_iff :
    r.model=checkedModel ↔ ∃ ms, body=.object ms ∧ LastSays "model" checkedModel ms := by
  -- a request that says nothing about its model is one of the moderations, which are given a name
  have hnmd : r.model = "" → checkedModel ≠ "" := by
    intro hemp
    obtain ⟨hne,heq | ⟨hmode,-⟩⟩ := validateTextRequest_ok hvalid
    · exact absurd (heq.trans hemp) hne
    · exact checkedModel_ne_empty hread hmode
  cases body with
  | invalid | nonObject => cases hmdl
  | null =>
    have hemp : "" = r.model := Option.some.inj hmdl
    constructor
    · intro heq
      exact absurd (heq.symm.trans hemp.symm) (hnmd hemp.symm)
    · rintro ⟨ms,hms,-⟩
      cases hms
  | object ms =>
    have hiff := unmarshalString_eq_iff (t := checkedModel) hmdl
    rw [hiff]
    constructor
    · rintro (hlast | ⟨hemp,hsil⟩)
      · exact ⟨ms,rfl,hlast⟩
      · have hremp : some "" = some r.model := (unmarshalString_of_silent hsil).symm.trans hmdl
        exact absurd hemp.symm (hnmd (Option.some.inj hremp).symm)
    · rintro ⟨ms',hms,hlast⟩
      cases hms
      exact .inl hlast
end
end

/-- A chat with these models, one `model` key each. -/
def chatNaming (models : List String) : Body ℕ :=
  .object (models.map (fun model => ("model",.string model))++[("messages",.other 0)])

def passingChannel : Channel := ⟨1,1,true,.unset,none⟩

def passingInstance : Instance ℕ where
  passThroughRequestEnabled := false
  unmarshalFields _ := .ok ⟨0,none,false,1,false,false,true,"",none⟩
  selectChannel _ _ := .ok passingChannel
  adaptor := openAIAdaptor fun _ => false
  shouldChatCompletionsUseResponses _ _ _ := false
  chatToResponsesError _ := none

def miniToken : Token := ⟨none,true,some ["gpt-4o-mini"]⟩

def miniForwarded (body : Body ℕ) : Forwarded ℕ :=
  ⟨"gpt-4o-mini",passingChannel,⟨.chatCompletions,"gpt-4o-mini","gpt-4o-mini",false⟩,.raw body⟩

lemma length_parseReasoningEffort_lt {originModel : String} (h : parseReasoningEffort model=some originModel) :
    originModel.toList.length < model.toList.length := by
  unfold parseReasoningEffort at h
  obtain ⟨suf,hfind,rfl⟩ := Option.map_eq_some_iff.mp h
  have hmem := List.mem_of_find?_eq_some hfind
  apply length_trimSuffix_lt (List.find?_some hfind)
  rintro rfl
  revert hmem
  decide

/-- Whether the OpenAI adaptor keeps a name: no suffix asks for a reasoning effort that it would move into a
field of its own, and OpenRouter is not asked for thinking by name. -/
def KeepsName (preserves : String → Bool) (channelType : ℕ) (usesResponses : Bool) (model : String) : Prop :=
  if usesResponses then parseReasoningEffort model=none
  else (channelType=channelTypeOpenRouter → hasSuffix model "-thinking" = true → preserves model=true) ∧
    (isOpenAIReasoningModel model=true → parseReasoningEffort model=none)

end AronaApi.Distributor
