import AronaApi.Pricing.TextQuota

/-! The relay of a request whose token has the group `auto` (`controller/relay.go`,
`service/channel_select.go`, `middleware/distributor.go`): a channel is chosen, the request is priced, and
failed attempts move on to other channels and other groups. -/
namespace AronaApi.Relay
open Pricing

structure RetryState where
  autoGroup : Option String
  autoGroupIndex : Option ℕ
  retry : ℕ
  resetNextTry : Bool

def RetryState.start : RetryState := ⟨none,none,0,false⟩

def RetryState.increaseRetry (st : RetryState) : RetryState :=
  if st.resetNextTry then { st with resetNextTry := false } else { st with retry := st.retry+1 }

structure RetryConfig where
  autoGroups : List String
  usableGroup : String → Bool
  retryTimes : ℤ
  crossGroupRetry : Bool

/-- `GetUserAutoGroup`. -/
def RetryConfig.userAutoGroups (cfg : RetryConfig) : List String := cfg.autoGroups.filter cfg.usableGroup

abbrev Selected := ℕ × String

section
variable (cfg : RetryConfig) (pick : String → ℕ → Option ℕ)
/-- The loop over the auto groups from index `i` on; `pick` is `GetRandomSatisfiedChannel`. -/
def selectGroup (startGroupIndex : ℕ) : ℕ → List String → RetryState → Option Selected × RetryState
  | _,[],st => (none,st)
  | i,autoGroup::rest,st =>
    let priorityRetry := if startGroupIndex < i then 0 else st.retry
    match pick autoGroup priorityRetry with
    | none => selectGroup startGroupIndex (i+1) rest { st with autoGroupIndex := some (i+1), retry := 0 }
    | some channel =>
      let st := { st with autoGroup := some autoGroup }
      -- this attempt still uses the group, the next one moves on
      if cfg.crossGroupRetry=true ∧ cfg.retryTimes≤priorityRetry then
        (some (channel,autoGroup),{ st with autoGroupIndex := some (i+1), retry := 0, resetNextTry := true })
      else (some (channel,autoGroup),{ st with autoGroupIndex := some i })

/-- `CacheGetRandomSatisfiedChannel` for the group `auto`. -/
def cacheGetRandomSatisfiedChannel (st : RetryState) : Except String (Option Selected) × RetryState :=
  if cfg.autoGroups=[] then (.error "auto groups is not enabled",st)
  else
    let start := st.autoGroupIndex.getD 0
    let r := selectGroup cfg pick start start (cfg.userAutoGroups.drop start) st
    (.ok r.1,r.2)
end

structure RelayError where
  skipAfterAffinity : Bool
  isChannelError : Bool
  isSkipRetry : Bool
  specificChannel : Bool
  statusCode : ℤ
  alwaysSkipCode : Bool
  retryByStatusCode : Bool

def shouldRetry (e : RelayError) (retryTimes : ℤ) : Bool :=
  if e.skipAfterAffinity then false
  else if e.isChannelError then true
  else if e.isSkipRetry then false
  else if retryTimes≤0 then false
  else if e.specificChannel then false
  else if 200≤e.statusCode ∧ e.statusCode<300 then false
  else if e.statusCode<100 ∨ 599<e.statusCode then true
  else if e.alwaysSkipCode then false
  else e.retryByStatusCode

inductive Answer
  | success (usage : Option Usage)
  | failure (e : RelayError)

/-- What one attempt meets: the channels there are, whether the chosen one has a key, and the answer. -/
structure Attempt where
  pick : String → ℕ → Option ℕ
  setupFails : Bool
  answer : Answer

/-- The successful attempt: the group it was made through, the request's price and the usage. -/
structure Served (RequestInput : Type) where
  group : String
  info : PriceInfo RequestInput
  usage : Option Usage

variable {RequestInput : Type} (s : Settings RequestInput) (cfg : RetryConfig)
/-- `getChannel` on a retry; the group ratio is taken anew before anything else. -/
def getChannel (a : Attempt) (st : RetryState) (info : PriceInfo RequestInput) :
    Except String Selected × RetryState × PriceInfo RequestInput :=
  let r := cacheGetRandomSatisfiedChannel cfg a.pick st
  let handled := handleGroupRatio s info r.2.autoGroup
  let info := { handled.2 with priceData := { handled.2.priceData with groupRatioInfo := handled.1 } }
  match r.1 with
  | .error e =>
    (.error ("获取分组 auto 下模型 " ++ info.originModelName ++ " 的可用渠道失败（retry）: " ++ e),r.2,info)
  | .ok none =>
    (.error ("分组 auto 下模型 " ++ info.originModelName ++ " 的可用渠道不存在（retry）"),r.2,info)
  | .ok (some selected) => (if a.setupFails then .error "channel setup failed" else .ok selected,r.2,info)

/-- The retry loop of `Relay`; `selected` is the channel that the first attempt finds in the context. -/
def relayLoop : List Attempt → Option Selected → RetryState → PriceInfo RequestInput → Option (Served RequestInput)
  | [],_,_,_ => none
  | a::rest,selected,st,info =>
    if cfg.retryTimes<st.retry then none
    else
      let got : Except String Selected × RetryState × PriceInfo RequestInput := match selected with
        | some selected => (.ok selected,st,info)
        | none => getChannel s cfg a st info
      match got with
      | (.error _,_,_) => none
      | (.ok selected,st,info) =>
        match a.answer with
        | .success usage => some ⟨selected.2,info,usage⟩
        | .failure e =>
          if shouldRetry e (cfg.retryTimes-st.retry) then relayLoop rest none st.increaseRetry info else none

/-- The first channel: the one that served the user before, if one of the auto groups still has it, or a
random one. The context of a selection that fails is gone with the request. -/
def distribute (preferred : Option Selected) (pick : String → ℕ → Option ℕ) : Option (Selected × RetryState) :=
  match preferred with
  | some selected =>
    if selected.2∈cfg.userAutoGroups then some (selected,{ RetryState.start with autoGroup := some selected.2 })
    else none
  | none =>
    match cacheGetRandomSatisfiedChannel cfg pick .start with
    | (.ok (some selected),st) => some (selected,st)
    | _ => none

/-- The relay of a request, which has no snapshot yet. The retries have a parameter of their own, and share
the context with the first selection. `finalPreConsumedQuota` is what the billing session took. -/
def relay (info : PriceInfo RequestInput) (preferred : Option Selected) (pick : String → ℕ → Option ℕ)
    (promptTokens maxTokens : ℤ) (requestInput : Except String RequestInput) (finalPreConsumedQuota : ℤ)
    (attempts : List Attempt) : Option (Served RequestInput) :=
  match distribute cfg preferred pick with
  | none => none
  | some (selected,st) =>
    match modelPriceHelper s { info with tieredBillingSnapshot := none } st.autoGroup promptTokens maxTokens 0
      requestInput with
    | .error _ => none
    | .ok info =>
      relayLoop s cfg attempts (some selected) { st with retry := 0, resetNextTry := false }
        { info with finalPreConsumedQuota := finalPreConsumedQuota }
end AronaApi.Relay
