/-
The sender as a machine that goes on event by event. A send takes up what there is to report
and hands over the same batch until an attempt ends in anything but a transient failure, the
delays are used up, or the send is cancelled. Only an acknowledgement commits, and it commits
what was observed at the start. The ledger may be written to at any moment.
-/

import Metering.Agent.Ledger
import Metering.Transport.Error

namespace Metering

/-- Why a send has failed. -/
inductive SendError
  | cancelled
  | exhausted (attempts : Nat) (last : TransportError)
  | rejected (reason : TransportError)
  deriving DecidableEq, Repr

/-- The text of an error. -/
def SendError.message : SendError → String
  | .cancelled => "send cancelled"
  | .exhausted attempts last =>
    "gave up after " ++ toString attempts ++ " attempts: " ++ last.message
  | .rejected reason => reason.message

/-- How a send ends: with the number of metrics acknowledged, or with an error. -/
abbrev SendResult : Type := Except SendError Nat

/-- A send under way: what it reports, the attempts begun, and the delays left between more. -/
structure Sending where
  observed : Changes
  attempts : Nat
  delays : List Nat
  deriving DecidableEq

/-- The batch that every attempt of a send hands over. -/
def Sending.batch (sending : Sending) : List Metric := sending.observed.batch

/-- What a sender is doing: nothing, waiting for an answer, or waiting to try again. -/
inductive SenderPhase
  | idle
  | delivering (sending : Sending)
  | waiting (delay : Nat) (sending : Sending)
  deriving DecidableEq

/-- What happens to a sender. -/
inductive SenderEvent
  /-- The ledger is written to. -/
  | written (write : Ledger.Write)
  /-- A send is asked for. -/
  | started
  /-- The attempt is answered. -/
  | answered (answer : Acknowledgement)
  /-- The delay is over. -/
  | waited
  /-- The send is cancelled. -/
  | cancelled

/-- An agent that reports: its metrics, the delays of a send, and what it is doing. -/
structure Sender where
  ledger : Ledger
  retryDelays : List Nat
  phase : SenderPhase
  deriving DecidableEq

namespace Sender

/-- A sender that does nothing. -/
def idle (ledger : Ledger) (retryDelays : List Nat) : Sender := ⟨ledger, retryDelays, .idle⟩

/-- The sender after a send has ended. -/
def ended (sender : Sender) (result : SendResult) : Sender × Option SendResult :=
  ({ sender with phase := .idle }, some result)

/-- The sender after a send has begun; there is nothing to do without changes. -/
def start (sender : Sender) : Sender × Option SendResult :=
  let observed := sender.ledger.changes
  if observed.isEmpty then sender.ended (.ok 0)
  else ({ sender with phase := .delivering ⟨observed, 1, sender.retryDelays⟩ }, none)

/-- The sender after an attempt was answered. -/
def answered (sender : Sender) (sending : Sending) :
    Acknowledgement → Sender × Option SendResult
  | .ok () =>
    { sender with ledger := sender.ledger.commit sending.observed }.ended
      (.ok sending.batch.length)
  | .error (.permanent reason) => sender.ended (.error (.rejected (.permanent reason)))
  | .error (.transient reason) =>
    match sending.delays with
    | [] => sender.ended (.error (.exhausted sending.attempts (.transient reason)))
    | delay :: rest =>
      let next := { sending with attempts := sending.attempts + 1, delays := rest }
      ({ sender with phase := .waiting delay next }, none)

/-- The sender after an event, and the result of the send that the event ends. Events that do
not fit what the sender is doing change nothing. -/
def step (sender : Sender) : SenderEvent → Sender × Option SendResult
  | .written write => ({ sender with ledger := sender.ledger.write write }, none)
  | .started =>
    match sender.phase with
    | .idle => sender.start
    | _ => (sender, none)
  | .answered answer =>
    match sender.phase with
    | .delivering sending => sender.answered sending answer
    | _ => (sender, none)
  | .waited =>
    match sender.phase with
    | .waiting _ sending => ({ sender with phase := .delivering sending }, none)
    | _ => (sender, none)
  | .cancelled =>
    match sender.phase with
    | .idle => (sender, none)
    | _ => sender.ended (.error .cancelled)

end Sender

end Metering
