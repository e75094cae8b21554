import Mathlib

/-! The input items of a Responses request as chat messages (`service/relayconvert/responses_request_to_chat.go`).
Only three types of items are known; any other, the output of a custom tool and a reasoning item too, is taken for a
message, and a message without a role is the user's. -/
namespace AronaApi.ResponsesInput
open List

variable {J C : Type}
/-- An item with the fields its type has, strings without surrounding blanks. -/
inductive Item (J : Type)
  | message (role : String) (content : Option J)
  | functionCall (callID name : String) (arguments : Option J)
  | functionCallOutput (callID : String) (output : Option J)
  | customToolCall (callID name : String) (input : Option J)
  | customToolCallOutput (callID : String) (output : Option J)
  | reasoning (content : Option J)

open Item

structure ToolCall where
  id : String
  custom : Bool
  name : String
  arguments : String
  deriving DecidableEq

structure Message (C : Type) where
  role : String
  toolCallId : String := ""
  content : Option C := none
  toolCalls : List ToolCall := []
  deriving DecidableEq

/-- The conversions of values: contents, the outputs of tools, and arguments. -/
structure Values (J C : Type) where
  responsesInputContentToChatContent : Option J → C
  responseToolOutputToChatContent : Option J → C
  responsesArgumentsString : Option J → String

def appendToolCallToLastAssistant (messages : List (Message C)) (call : ToolCall) : List (Message C) :=
  match messages.getLast? with
  | none => [{ role := "assistant",toolCalls := [call] }]
  | some last =>
    if last.role="assistant" then messages.dropLast++[{ last with toolCalls := last.toolCalls++[call] }]
    else messages++[{ role := "assistant",toolCalls := [call] }]

variable (v : Values J C)
/-- The end of the function, for every type that is not known. -/
def asMessage (role : String) (content : Option J) : Message C :=
  { role := if role="" then "user" else role,content := some (v.responsesInputContentToChatContent content) }

def toolMessage (callID : String) (output : Option J) : Message C :=
  ⟨"tool",callID,some (v.responseToolOutputToChatContent output),[]⟩

def responsesInputItemToChatMessages (messages : List (Message C)) : Item J → Except String (List (Message C))
  | .functionCall callID name arguments =>
    if name="" then .error "function_call item is missing name"
    else .ok (appendToolCallToLastAssistant messages ⟨callID,false,name,v.responsesArgumentsString arguments⟩)
  | .customToolCall callID name input =>
    .ok (appendToolCallToLastAssistant messages ⟨callID,true,name,v.responsesArgumentsString input⟩)
  | .functionCallOutput callID output => .ok (messages++[toolMessage v callID output])
  | .message role content => .ok (messages++[asMessage v role content])
  -- these have no role, and the output of a custom tool has no content
  | .customToolCallOutput _ _ => .ok (messages++[asMessage v "" none])
  | .reasoning content => .ok (messages++[asMessage v "" content])

/-- The loop over the items, after the message of the instructions if there is one. -/
def responsesRequestMessagesToChat (instructions : Option C) (items : List (Item J)) :
    Except String (List (Message C)) :=
  items.foldlM (responsesInputItemToChatMessages v)
    (instructions.toList.map fun text => { role := "system",content := some text })

/-- The tool message of an output, or a message that has the role itself. -/
def Item.tool? : Item J → Option (Message C)
  | .functionCallOutput callID output | .customToolCallOutput callID output => some (toolMessage v callID output)
  | .message role content => if role="tool" then some (asMessage v role content) else none
  | _ => none

def Item.user? : Item J → Option (Message C)
  | .message role content => if role="user" ∨ role="" then some (asMessage v role content) else none
  | _ => none

def Item.unknown : Item J → Bool
  | .customToolCallOutput .. | .reasoning _ => true
  | _ => false

/-- What an item gives beside messages of the assistant. -/
def Item.other? : Item J → Option (Message C)
  | .functionCall .. | .customToolCall .. => none
  | .functionCallOutput callID output => some (toolMessage v callID output)
  | .message role content => if role="assistant" then none else some (asMessage v role content)
  | .customToolCallOutput _ _ => some (asMessage v "" none)
  | .reasoning content => some (asMessage v "" content)

variable {messages out : List (Message C)} {item : Item J} {items : List (Item J)}
def others (messages : List (Message C)) : List (Message C) := messages.filter (·.role≠"assistant")

lemma others_append {more : List (Message C)} : others (messages++more)=others messages++others more :=
  filter_append ..

lemma others_append_call (call : ToolCall) : others (appendToolCallToLastAssistant messages call)=others messages := by
  unfold appendToolCallToLastAssistant
  split
  next hnone => simp [List.getLast?_eq_none_iff.mp hnone,others]
  next last hlast =>
  split
  next hrole =>
    have hsplit := dropLast_append_getLast? last hlast
    rw [others_append]
    conv_rhs => rw [← hsplit,others_append]
    simp [others,hrole]
  · simp [others]

lemma others_step (h : responsesInputItemToChatMessages v messages item=.ok out) :
    others out=others messages++(item.other? v).toList := by
  cases item with
  | functionCall callID name arguments =>
    simp only [responsesInputItemToChatMessages] at h
    split at h
    · cases h
    cases h
    simp [others_append_call,other?]
  | customToolCall callID name input =>
    cases h
    simp [others_append_call,other?]
  | functionCallOutput callID output | customToolCallOutput callID output | reasoning content =>
    cases h
    rw [others_append]
    rfl
  | message role content =>
    cases h
    rw [others_append]
    by_cases hrole : role="assistant"
    · simp [others,asMessage,other?,hrole]
    · by_cases hblank : role="" <;> simp [others,asMessage,other?,hrole,hblank]

lemma others_run (h : items.foldlM (responsesInputItemToChatMessages v) messages=.ok out) :
    others out=others messages++items.filterMap (other? v) := by
  induction items generalizing messages with
  | nil =>
    cases h
    simp
  | cons item items ih =>
    rw [foldlM_cons] at h
    cases hstep : responsesInputItemToChatMessages v messages item with
    | error e =>
      rw [hstep] at h
      cases h
    | ok next =>
      rw [hstep] at h
      rw [ih h,others_step v hstep,append_assoc,filterMap_cons]
      cases item.other? v <;> rfl

/-- The messages of a role other than the assistant's and the instructions' come from the items one by one. -/
lemma filter_role {instructions : Option C} {r : String} (hassistant : r≠"assistant") (hsystem : r≠"system")
    (h : responsesRequestMessagesToChat v instructions items=.ok out) :
    out.filter (·.role=r)=items.filterMap fun item => (item.other? v).filter (·.role=r) := by
  have hothers : out.filter (·.role=r)=(others out).filter (·.role=r) := by
    rw [others,filter_filter]
    refine filter_congr fun m _ => ?_
    by_cases hm : m.role=r <;> simp_all
  rw [hothers,others_run v h,filter_append,filter_filterMap]
  cases instructions <;> simp [others,hsystem.symm]

lemma filter_other_of_known (hknown : item.unknown=false) :
    (item.other? v).filter (·.role="tool")=item.tool? v ∧ (item.other? v).filter (·.role="user")=item.user? v := by
  cases item with
  | message role content =>
    by_cases hassistant : role="assistant"
    · simp [other?,tool?,user?,hassistant]
    by_cases hblank : role="" <;> by_cases htool : role="tool" <;> by_cases huser : role="user" <;>
      simp_all [other?,tool?,user?,asMessage,Option.filter]
  | functionCallOutput callID output => simp [other?,tool?,user?,toolMessage]
  | functionCall | customToolCall => exact ⟨rfl,rfl⟩
  | customToolCallOutput | reasoning => cases hknown

/-- One message of the user for every message item of the user and for every item of unknown type. -/
lemma length_user : (items.filterMap fun item => (item.other? v).filter (·.role="user")).length=
    (items.filterMap (user? v)).length+items.countP unknown := by
  induction items with
  | nil => rfl
  | cons item items ih =>
    cases hknown : item.unknown with
    | false =>
      rw [filterMap_cons,filterMap_cons,(filter_other_of_known v hknown).2,countP_cons_of_neg (by simp [hknown])]
      cases item.user? v with
      | none => exact ih
      | some m =>
        simp only [length_cons,ih]
        omega
    | true =>
      have huser : item.user? v=none ∧ ∃ m, (item.other? v).filter (·.role="user")=some m := by
        cases item <;> simp_all [unknown,user?,other?,asMessage]
      obtain ⟨hnone,m,hm⟩ := huser
      rw [filterMap_cons,filterMap_cons,hnone,hm,countP_cons_of_pos hknown]
      simp only [length_cons,ih]
      omega

/-- Outputs become tool messages and the user's messages come from message items exactly if no item is the output of
a custom tool or a reasoning item. -/
theorem items_kept_iff (instructions : Option C) (items : List (Item J)) (out : List (Message C))
    (h : responsesRequestMessagesToChat v instructions items=.ok out) :
    (out.filter (·.role="tool")=items.filterMap (tool? v) ∧ out.filter (·.role="user")=items.filterMap (user? v)) ↔
      ∀ item∈items, item.unknown=false := by
  rw [filter_role v (by decide) (by decide) h,filter_role v (by decide) (by decide) h]
  constructor
  · rintro ⟨-,huser⟩ item hitem
    have hlen := congrArg List.length huser
    rw [length_user,Nat.add_eq_left,countP_eq_zero] at hlen
    exact Bool.eq_false_iff.mpr (hlen item hitem)
  · intro hknown
    exact ⟨filterMap_congr fun item hitem => (filter_other_of_known v (hknown item hitem)).1,
      filterMap_congr fun item hitem => (filter_other_of_known v (hknown item hitem)).2⟩

def plainValues : Values String String := ⟨fun c => c.getD "",fun c => c.getD "",fun c => c.getD ""⟩

def asked : List (Item String) := [.message "" (some "q"),.functionCall "1" "f" none,.functionCallOutput "1" (some "x")]

theorem items_kept_of_output : ∃ out, responsesRequestMessagesToChat plainValues none asked=.ok out ∧
    out.filter (·.role="tool")=[⟨"tool","1",some "x",[]⟩] ∧ out.filter (·.role="user")=[⟨"user","",some "q",[]⟩] :=
  ⟨_,rfl,(items_kept_iff plainValues none asked _ rfl).mpr (by decide)⟩

/-- The output of a custom tool becomes an empty message of the user, and so does a reasoning item. -/
theorem custom_output_lost :
    responsesRequestMessagesToChat plainValues none [.customToolCallOutput "1" (some "x"),.reasoning none]=
      .ok [⟨"user","",some "",[]⟩,⟨"user","",some "",[]⟩] := by decide
end AronaApi.ResponsesInput
