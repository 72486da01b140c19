/-
Sends in time, counted in milliseconds. A script tells how the attempts go: what an attempt
comes to, after how long, and what is written to the ledger as it begins; when the script is
used up the attempts succeed at once. Other writes fall at moments of their own. A send may be
cancelled at a moment, which comes before whatever else is due then.
-/

import Metering.Agent.Sender

namespace Metering

/-- How an attempt goes. -/
structure Attempt where
  answer : Acknowledgement
  latency : Nat
  meanwhile : List Ledger.Write

/-- The attempt that succeeds at once. -/
def Attempt.prompt : Attempt := ⟨.ok (), 0, []⟩

/-- What goes on around a sender: what is written to the ledger after one moment and until
another, and the moment at which everything is cancelled. -/
structure Surroundings where
  writes : Nat → Nat → List Ledger.Write
  deadline : Option Nat

/-- Nothing goes on around the sender, up to a moment of cancellation. -/
def Surroundings.quiet (deadline : Option Nat) : Surroundings := ⟨fun _ _ => [], deadline⟩

/-- Whether a moment is not before the cancellation. -/
def Surroundings.isOver (around : Surroundings) (moment : Nat) : Bool :=
  around.deadline.any (· ≤ moment)

/-- A sender at a moment, the script of the attempts to come, and the attempts begun so far,
each with its moment and its batch. -/
structure Timeline where
  now : Nat
  sender : Sender
  script : List Attempt
  begun : List (Nat × List Metric)

namespace Timeline

/-- Lets an event happen. -/
def happen (line : Timeline) (event : SenderEvent) : Timeline × Option SendResult :=
  let (sender, result) := line.sender.step event
  ({ line with sender }, result)

/-- Writes to the ledger. -/
def write (line : Timeline) (writes : List Ledger.Write) : Timeline :=
  writes.foldl (fun line entry => (line.happen (.written entry)).1) line

/-- Lets time pass until a moment. -/
def pass (around : Surroundings) (moment : Nat) (line : Timeline) : Timeline :=
  { line.write (around.writes line.now moment) with now := moment }

/-- Lets time pass until an event, or until the cancellation if that is first. -/
def await (around : Surroundings) (moment : Nat) (event : SenderEvent) (line : Timeline) :
    Timeline × Option SendResult :=
  match around.deadline with
  | some deadline =>
    if deadline ≤ moment then (line.pass around (max line.now deadline)).happen .cancelled
    else (line.pass around moment).happen event
  | none => (line.pass around moment).happen event

/-- Begins an attempt: how it goes, and the line with the attempt noted. -/
def begin (line : Timeline) (batch : List Metric) : Attempt × Timeline :=
  let attempt := line.script.head?.getD .prompt
  let noted := { line with
    script := line.script.tail, begun := line.begun ++ [(line.now, batch)] }
  (attempt, noted.write attempt.meanwhile)

/-- Follows a send through at most so many attempts and delays. -/
def follow (around : Surroundings) : Nat → Timeline → Timeline × Option SendResult
  | 0, line => (line, none)
  | steps + 1, line =>
    let (line, result) :=
      match line.sender.phase with
      | .idle => (line, none)
      | .waiting delay _ => line.await around (line.now + delay) .waited
      | .delivering sending =>
        if around.isOver line.now then line.happen .cancelled
        else
          let (attempt, line) := line.begin sending.batch
          line.await around (line.now + attempt.latency) (.answered attempt.answer)
    match result with
    | some result => (line, some result)
    | none => follow around steps line

/-- The most attempts and delays of a send. -/
def longest (delays : List Nat) : Nat := 2 * delays.length + 1

/-- Sends once. -/
def send (around : Surroundings) (line : Timeline) : Timeline × Option SendResult :=
  match line.happen .started with
  | (line, some result) => (line, some result)
  | (line, none) => line.follow around (longest line.sender.retryDelays)

end Timeline

end Metering
