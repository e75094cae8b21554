import AronaApi.Lib.FairRun
import AronaApi.Lib.GoStd

/-! The goroutines of `StreamScannerHandler` (`relay/helper/stream_scanner.go`) while the main one waits in its
`select`: the ping loop, the scanner of the body and the loop that hands the data to the data handler. They tell
each other to stop through one channel, which whoever receives first empties. -/
namespace AronaApi.Stream
open GoStd

inductive Main
  | waiting
  | stopped
  | timedOut
  | clientGone
deriving DecidableEq

inductive Ping
  | off
  /-- In the outer `select`. -/
  | waiting
  /-- In the inner one, until the ping is written. -/
  | writing
  | panicked
  | exited
deriving DecidableEq

inductive Handler
  | ranging
  /-- In a call of the data handler, or waiting for the write mutex. -/
  | handling
  /-- In the deferred function, before `SafeSendBool`. -/
  | sending
  | exited
deriving DecidableEq

inductive Scanner
  | scanning
  /-- A line was read, and the `select` with a default comes next. -/
  | checking
  /-- In the `select` that sends the data. -/
  | delivering
  /-- In the deferred function, before the data channel is closed. -/
  | closing
  /-- In the deferred function, before `SafeSendBool`. -/
  | sending
  | exited
deriving DecidableEq

/-- `stopChan` is the number of values in the channel; `text` is the line or the data that the scanner holds. -/
structure State where
  main : Main
  ping : Ping
  handler : Handler
  scanner : Scanner
  text : String
  stopChan : ℕ
  dataChan : List String
  dataClosed : Bool
  ticked : Bool
  clientDone : Bool
deriving DecidableEq

def stopCap : ℕ := 3
def dataCap : ℕ := 10

def State.init (pingEnabled : Bool) : State :=
  ⟨.waiting,if pingEnabled then .waiting else .off,.ranging,.scanning,"",0,[],false,false,false⟩

inductive Line
  | skipped
  | done
  | data (text : String)

def classify (line : String) : Line :=
  if line.length<6 then .skipped
  else if !hasPrefix line "data:" && !hasPrefix line "[DONE]" then .skipped
  else
    let data := trimSpace (String.ofList (line.toList.drop 5))
    if data = "" then .skipped else if hasPrefix data "[DONE]" then .done else .data data

inductive Action
  | mainStops
  | mainTimesOut
  | mainSeesClientGone
  | pingTicks
  | pingSent
  | pingFails
  | pingTakesStop
  /-- The client is gone or the longest duration is reached. -/
  | pingEnds
  | pingPanics
  | pingSendsStop
  | handlerReceives
  | handlerReturns
  /-- The data handler stopped the stream, or panicked. -/
  | handlerStops
  | handlerDrained
  | handlerSendsStop
  | scans (line : String)
  /-- The end of the body, an error of the scanner or a panic. -/
  | scanEnds
  | scannerGoesOn
  | scannerTakesStop
  | scannerSeesClientGone
  | scannerDelivers
  | scannerCloses
  | scannerSendsStop
  | tick
  | clientLeaves
deriving DecidableEq

/-- When an action can be taken. A default branch is taken only if no other one is ready. -/
def guard (s : State) : Action → Prop
  | .mainStops => 0<s.stopChan
  | .mainTimesOut => s.ticked=true
  | .mainSeesClientGone => s.clientDone=true
  | .pingTicks => s.ping=.waiting
  | .pingSent => s.ping=.writing
  | .pingFails => s.ping=.writing
  | .pingTakesStop => (s.ping=.waiting ∨ s.ping=.writing) ∧ 0<s.stopChan
  | .pingEnds => s.ping=.waiting
  | .pingPanics => s.ping=.waiting ∨ s.ping=.writing
  | .pingSendsStop => s.ping=.panicked ∧ s.stopChan<stopCap
  | .handlerReceives => s.handler=.ranging ∧ s.dataChan≠[]
  | .handlerReturns => s.handler=.handling
  | .handlerStops => s.handler=.handling
  | .handlerDrained => s.handler=.ranging ∧ s.dataChan=[] ∧ s.dataClosed=true
  | .handlerSendsStop => s.handler=.sending ∧ s.stopChan<stopCap
  | .scans _ => s.scanner=.scanning
  | .scanEnds => s.scanner=.scanning
  | .scannerGoesOn => s.scanner=.checking ∧ s.stopChan=0 ∧ s.clientDone=false
  | .scannerTakesStop => (s.scanner=.checking ∨ s.scanner=.delivering) ∧ 0<s.stopChan
  | .scannerSeesClientGone => s.scanner=.checking ∧ s.clientDone=true
  | .scannerDelivers => s.scanner=.delivering ∧ s.dataChan.length<dataCap
  | .scannerCloses => s.scanner=.closing
  | .scannerSendsStop => s.scanner=.sending ∧ s.stopChan<stopCap
  | .tick => True
  | .clientLeaves => True

instance (s : State) (a : Action) : Decidable (guard s a) := by
  cases a <;> (unfold guard; infer_instance)

def handleLine (s : State) : State :=
  match classify s.text with
  | .skipped => { s with scanner := .scanning, ticked := false }
  | .done => { s with scanner := .closing, ticked := false }
  | .data text => { s with scanner := .delivering, text := text, ticked := false }

def effect (s : State) : Action → State
  | .mainStops => { s with main := .stopped, stopChan := s.stopChan-1 }
  | .mainTimesOut => { s with main := .timedOut }
  | .mainSeesClientGone => { s with main := .clientGone }
  | .pingTicks => { s with ping := .writing }
  | .pingSent => { s with ping := .waiting }
  | .pingFails => { s with ping := .exited }
  | .pingTakesStop => { s with ping := .exited, stopChan := s.stopChan-1 }
  | .pingEnds => { s with ping := .exited }
  | .pingPanics => { s with ping := .panicked }
  | .pingSendsStop => { s with ping := .exited, stopChan := s.stopChan+1 }
  | .handlerReceives => { s with handler := .handling, dataChan := s.dataChan.tail }
  | .handlerReturns => { s with handler := .ranging }
  | .handlerStops => { s with handler := .sending }
  | .handlerDrained => { s with handler := .sending }
  | .handlerSendsStop => { s with handler := .exited, stopChan := s.stopChan+1 }
  | .scans line => { s with scanner := .checking, text := line }
  | .scanEnds => { s with scanner := .closing }
  | .scannerGoesOn => handleLine s
  | .scannerTakesStop => { s with scanner := .closing, stopChan := s.stopChan-1 }
  | .scannerSeesClientGone => { s with scanner := .closing }
  | .scannerDelivers => { s with scanner := .scanning, dataChan := s.dataChan++[s.text] }
  | .scannerCloses => { s with scanner := .sending, dataClosed := true }
  | .scannerSendsStop => { s with scanner := .exited, stopChan := s.stopChan+1 }
  | .tick => { s with ticked := true }
  | .clientLeaves => { s with clientDone := true }

/-- One step while the main goroutine waits; what comes after its `select` is not looked at. -/
def step (s : State) (a : Action) : Option State :=
  if s.main=.waiting ∧ guard s a then some (effect s a) else none

/-- The steps that a goroutine takes by itself. The others wait for the body, the data handler, the client or a
timer. -/
def Own : Action → Prop
  | .mainStops | .mainTimesOut | .mainSeesClientGone | .pingTakesStop | .pingSendsStop | .handlerReceives
  | .handlerDrained | .handlerSendsStop | .scannerGoesOn | .scannerTakesStop | .scannerSeesClientGone
  | .scannerDelivers | .scannerCloses | .scannerSendsStop => True
  | _ => False
end AronaApi.Stream
