/-
A sender and the server that it reports to, event by event. An attempt reaches the server once
or never, and the server applies its batch or refuses it. The sender is told of either, or of a
failure that says nothing about what the server did: a batch may be applied and its
acknowledgement lost. Beside the two the reports are kept that the server has applied and those
that the sender knows to be applied, so that the totals of both sides can be told from them.
-/

import Metering.Agent.Sender
import Metering.Service.Basic

namespace Metering

/-- What has become of the attempt under way: it has not reached the server, or the server has
applied or refused its batch. -/
inductive Arrival
  | outstanding
  | applied
  | refused
  deriving DecidableEq, Repr

/-- What happens between a sender and its server. -/
inductive ExchangeEvent
  /-- The ledger is written to. -/
  | written (write : Ledger.Write)
  /-- A send is asked for. -/
  | started
  /-- The batch under way reaches the server. -/
  | arrived
  /-- The sender is told that its batch was applied. -/
  | acknowledged
  /-- The attempt fails for the sender, whatever the server did. -/
  | failed (reason : TransportError)
  /-- The delay before the next attempt is over. -/
  | waited
  /-- The send is cancelled. -/
  | cancelled

/-- A sender, its server, and the reports applied and acknowledged so far, oldest first. -/
structure Exchange (Store : Type) where
  sender : Sender
  store : Store
  arrival : Arrival
  applied : List Changes
  acknowledged : List Changes

namespace Exchange

variable {Store : Type}

/-- A sender and a server before anything was reported. -/
def opening (ledger : Ledger) (retryDelays : List Nat) (store : Store) : Exchange Store :=
  ⟨Sender.idle ledger retryDelays, store, .outstanding, [], []⟩

/-- The send whose attempt is under way. -/
def underway? (exchange : Exchange Store) : Option Sending :=
  match exchange.sender.phase with
  | .delivering sending => some sending
  | _ => none

/-- Lets something happen to the sender. -/
def toSender (exchange : Exchange Store) (event : SenderEvent) :
    Exchange Store × Option SendResult :=
  let (sender, result) := exchange.sender.step event
  ({ exchange with sender }, result)

/-- Lets something happen to the sender that ends the attempt under way. -/
def endAttempt (exchange : Exchange Store) (event : SenderEvent) :
    Exchange Store × Option SendResult :=
  { exchange with arrival := .outstanding }.toSender event

/-- The exchange after a batch has reached the server. -/
def arrive [Repository Store] (exchange : Exchange Store) (sending : Sending) :
    Exchange Store :=
  match Service.updateMetrics sending.batch exchange.store with
  | (.ok (), store) =>
    { exchange with store, arrival := .applied, applied := exchange.applied ++ [sending.observed] }
  | (.error _, store) => { exchange with store, arrival := .refused }

/-- The exchange after an event, and the result of the send that the event ends. Events that do
not fit what is going on change nothing; in particular only a batch that was applied can be
acknowledged. -/
def step [Repository Store] (exchange : Exchange Store) :
    ExchangeEvent → Exchange Store × Option SendResult
  | .written write => exchange.toSender (.written write)
  | .started => exchange.toSender .started
  | .waited => exchange.toSender .waited
  | .cancelled => exchange.endAttempt .cancelled
  | .arrived =>
    match exchange.underway?, exchange.arrival with
    | some sending, .outstanding => (exchange.arrive sending, none)
    | _, _ => (exchange, none)
  | .acknowledged =>
    match exchange.underway?, exchange.arrival with
    | some sending, .applied =>
      { exchange with acknowledged := exchange.acknowledged ++ [sending.observed] }.endAttempt
        (.answered (.ok ()))
    | _, _ => (exchange, none)
  | .failed reason =>
    match exchange.underway? with
    | some _ => exchange.endAttempt (.answered (.error reason))
    | none => (exchange, none)

/-- The exchange after events. -/
def run [Repository Store] (exchange : Exchange Store) (events : List ExchangeEvent) :
    Exchange Store :=
  events.foldl (fun exchange event => (exchange.step event).1) exchange

/-- The sum of the changes of a counter in reports, as an exact number. -/
def sumOf (key : String) (reports : List Changes) : Int :=
  Tally.exactSum (reports.filterMap fun report => (report.counters.find? key).map (·.delta))

end Exchange

end Metering
