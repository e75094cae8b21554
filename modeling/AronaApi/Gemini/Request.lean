import AronaApi.Lib.Reassembly
import AronaApi.Gemini.Markdown

/-! The messages of an OpenAI chat request as the contents of a Gemini request, as
`CovertOpenAI2Gemini` builds them. -/
namespace AronaApi.Gemini
open List

inductive Role
  | system
  | developer
  | tool
  | function
  | assistant
  | model
  | user
  | other (name : String)
  deriving DecidableEq

variable {ε α β γ : Type}
def gather (f : α → Except ε (List β)) : List α → Except ε (List β)
  | [] => .ok []
  | x::xs => (f x).bind fun ys => (gather f xs).map (ys++·)

variable {f : α → Except ε (List β)} {xs : List α}
lemma gather_ok (h : ∀ x∈xs, ∃ ys, f x=.ok ys) :
    ∃ pieces, List.Forall₂ (fun x ys => f x=.ok ys) xs pieces ∧ gather f xs=.ok pieces.flatten := by
  induction xs with
  | nil => exact ⟨[],.nil,rfl⟩
  | cons x xs ih =>
    obtain ⟨ys,hys⟩ := h x mem_cons_self
    obtain ⟨pieces,hpiec,hgath⟩ := ih fun y hy => h y (mem_cons_of_mem _ hy)
    refine ⟨ys::pieces,.cons hys hpiec,?_⟩
    rw [gather,hys,hgath]
    rfl

lemma gather_cons {x : α} {zs : List β}
    (h : gather f (x::xs)=.ok zs) : ∃ ys rest, f x=.ok ys ∧ gather f xs=.ok rest ∧ zs=ys++rest := by
  rw [gather] at h
  cases hx : f x with
  | error e =>
    rw [hx] at h
    cases h
  | ok ys =>
    rw [hx] at h
    obtain ⟨rest,hrest,heq⟩ := GoStd.map_eq_ok h
    exact ⟨ys,rest,rfl,hrest,heq.symm⟩

lemma gather_map (f : α → Except ε (List β)) (g : γ → α) (xs : List γ) :
    gather f (xs.map g)=gather (fun x => f (g x)) xs := by
  induction xs with
  | nil => rfl
  | cons x xs ih => rw [map_cons,gather,gather,ih]

variable {F J : Type}
/-- A part of a message's parsed content: a text, or something with a file source if it has one. -/
inductive MediaContent (F : Type)
  | text (text : String)
  | media (source : Option F)

structure ToolCallRequest where
  id : String
  name : String
  arguments : String

/-- A message: `toolCalls` as `ParseToolCalls` gives them, `content` as `ParseContent` does. -/
structure Message (F : Type) where
  role : Role
  name : Option String := none
  toolCallId : String := ""
  toolCalls : List ToolCallRequest := []
  content : List (MediaContent F)

def MediaContent.text? : MediaContent F → Option String
  | .text t => some t
  | .media _ => none

def Message.texts (m : Message F) : List String := m.content.filterMap MediaContent.text?

def Message.stringContent (m : Message F) : String := spell id m.texts

/-- A part of a Gemini content, with JSON values `J`. Inline data is a MIME type and base64 text, code is
its language and text; the signature is always the one value that bypasses validation. -/
structure GeminiPart (J : Type) where
  text : String := ""
  thought : Bool := false
  inlineData : Option (String × String) := none
  functionCall : Option (String × J) := none
  functionResponse : Option (String × J) := none
  executableCode : Option (String × String) := none
  codeExecutionResult : Option String := none
  thoughtSignature : Bool := false

structure GeminiChatContent (J : Type) where
  role : Role
  parts : List (GeminiPart J)

structure GeminiChatRequest (J : Type) where
  contents : List (GeminiChatContent J)
  systemInstructions : Option (GeminiPart J)

inductive ConvertError
  | invalidArguments (name arguments : String)
  | markdownImage (reason : String)
  | fileData (source reason : String)
  | mimeType (mime source : String)
  deriving DecidableEq

/-- What the conversion asks of the rest of the program: the channel's setting, the decoders and the
JSON library. -/
structure Converter (F J : Type) where
  attachThoughtSignature : Bool
  decodeBase64FileData : String → Except String (String × String)
  getBase64Data : F → Except String (String × String)
  identifier : F → String
  toLower : String → String
  parseObject : String → Option J
  parseArray : String → Option J
  emptyObject : J
  isEmptyObject : J → Bool
  wrap : String → J → J
  string : String → J

def geminiSupportedMimeTypes : List String :=
  ["application/pdf","audio/mpeg","audio/mp3","audio/wav","image/png","image/jpeg","image/jpg","image/webp",
    "image/heic","image/heif","text/plain","video/mov","video/mpeg","video/mp4","video/mpg","video/avi",
    "video/wmv","video/mpegps","video/flv"]

variable (env : Converter F J)
def imageParts (attach : Bool) (c : List Char × Image) : Except ConvertError (List (GeminiPart J)) :=
  match env.decodeBase64FileData c.2.dataUrl with
  | .error reason => .error (.markdownImage reason)
  | .ok data =>
    .ok ((if c.1=[] then [] else [{text := String.ofList c.1}])++
      [{inlineData := some data,thoughtSignature := attach}])

/-- The parts of one text. The text that is left when the loop stops is only appended if the loop found
no image, and then it is the whole text. -/
def textParts (attach : Bool) (t : String) : Except ConvertError (List (GeminiPart J)) :=
  if t = "" then .ok []
  else if (cuts t.toList).1=[] then .ok [{text := t}]
  else gather (imageParts env attach) (cuts t.toList).1

def mediaParts : Option F → Except ConvertError (List (GeminiPart J))
  | none => .ok []
  | some source =>
    match env.getBase64Data source with
    | .error reason => .error (.fileData (env.identifier source) reason)
    | .ok (base64Data,mimeType) =>
      if env.toLower mimeType∈geminiSupportedMimeTypes then .ok [{inlineData := some (mimeType,base64Data)}]
      else .error (.mimeType mimeType (env.identifier source))

def contentParts (attach : Bool) (content : List (MediaContent F)) : Except ConvertError (List (GeminiPart J)) :=
  gather (fun
    | .text t => textParts env attach t
    | .media source => mediaParts env source) content

def hasFunctionCallContent (name : String) (arguments : J) : Bool :=
  GoStd.trimSpace name ≠ "" || !env.isEmptyObject arguments

/-- The parts of a message's tool calls, and whether one of them carries the signature. -/
def callParts (attach : Bool) : Bool → List ToolCallRequest → Except ConvertError (List (GeminiPart J) × Bool)
  | attached,[] => .ok ([],attached)
  | attached,call::calls =>
    match if call.arguments = "" then some env.emptyObject else env.parseObject call.arguments with
    | none => .error (.invalidArguments call.name call.arguments)
    | some arguments =>
      let sign := attach && !attached && hasFunctionCallContent env call.name arguments
      (callParts attach (attached || sign) calls).map fun r =>
        ({functionCall := some (call.name,arguments),thoughtSignature := sign}::r.1,r.2)

def signFirstText : List (GeminiPart J) → List (GeminiPart J)
  | [] => []
  | p::ps => if p.text ≠ "" then {p with thoughtSignature := true}::ps else p::signFirstText ps

def shouldAttachThoughtSignature (role : Role) : Bool :=
  env.attachThoughtSignature && (role=.assistant || role=.model)

def messageParts (m : Message F) : Except ConvertError (List (GeminiPart J)) :=
  let attach := shouldAttachThoughtSignature env m.role
  (callParts env attach false m.toolCalls).bind fun calls =>
    (contentParts env attach m.content).map fun parts =>
      if attach && !calls.2 then signFirstText (calls.1++parts) else calls.1++parts

/-- The answer to a tool call: an object as it is, an array as `result`, anything else as `content`. -/
def responsePart (toolCallIds : List (String × String)) (m : Message F) : GeminiPart J :=
  let name := m.name.getD ((toolCallIds.lookup m.toolCallId).getD "")
  let response := match env.parseObject m.stringContent with
    | some object => object
    | none => match env.parseArray m.stringContent with
      | some array => env.wrap "result" array
      | none => env.wrap "content" (env.string m.stringContent)
  {functionResponse := some (name,response)}

/-- Appends an answer to the last content, or to a new one if there is none or it is the model's. -/
def addResponse (contents : List (GeminiChatContent J)) (part : GeminiPart J) : List (GeminiChatContent J) :=
  match contents.getLast? with
  | none => contents++[⟨.user,[part]⟩]
  | some last =>
    if last.role=.model then contents++[⟨.user,[part]⟩]
    else contents.dropLast++[{last with parts := last.parts++[part]}]

structure Building (J : Type) where
  contents : List (GeminiChatContent J) := []
  toolCallIds : List (String × String) := []
  systemContent : List String := []

def convertMessage (b : Building J) (m : Message F) : Except ConvertError (Building J) :=
  if m.role=.system ∨ m.role=.developer then
    .ok {b with systemContent := b.systemContent++[m.stringContent]}
  else if m.role=.tool ∨ m.role=.function then
    .ok {b with contents := addResponse b.contents (responsePart env b.toolCallIds m)}
  else
    (messageParts env m).map fun parts =>
      -- there is no assistant in Gemini
      let role := if m.role=.assistant then .model else m.role
      {b with contents := if parts=[] then b.contents else b.contents++[⟨role,parts⟩],
              toolCallIds := m.toolCalls.reverse.map (fun call => (call.id,call.name))++b.toolCallIds}

def covertOpenAI2Gemini (messages : List (Message F)) : Except ConvertError (GeminiChatRequest J) :=
  (messages.foldlM (convertMessage env) {}).map fun b =>
    ⟨b.contents,if b.systemContent=[] then none else some {text := "\n".intercalate b.systemContent}⟩
end AronaApi.Gemini
