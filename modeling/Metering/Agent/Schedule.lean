/-
An agent as a whole, over a stretch of time: collectors that are polled at the same pace from
the first moment on, and a sender that sends at its own pace, the first time after one period.
A send that is due while another is under way happens as soon as that has ended; if it is late
by more than the leeway, the next is due a period after it, and otherwise a period after the
moment it was due at.
-/

import Metering.Agent.Reading
import Metering.Agent.Timeline

namespace Metering

/-- What a poll of a collector comes to. -/
abbrev Poll : Type := Except String (List Reading)

/-- A collector that is polled, with what its polls come to. The last of them repeats. -/
structure Poller where
  name : String
  polls : List Poll

namespace Poller

/-- What the poll with a number comes to. -/
def poll (poller : Poller) (number : Nat) : Poll :=
  ((poller.polls.drop number).head? <|> poller.polls.getLast?).getD (.ok [])

/-- The writes of the poll with a number. -/
def writes (poller : Poller) (number : Nat) : List Ledger.Write :=
  match poller.poll number with
  | .ok readings => Reading.writes readings
  | .error _ => []

/-- The failures of the first polls. -/
def failures (poller : Poller) (count : Nat) : List (String × String) :=
  (List.range count).filterMap fun number =>
    match poller.poll number with
    | .ok _ => none
    | .error reason => some (poller.name, reason)

end Poller

/-- An agent: its collectors, their period, the period of the sender if there is one, the
delays of a send, and the moment at which everything is cancelled. -/
structure Agent where
  pollers : List Poller
  pollEvery : Nat
  sendEvery : Option Nat
  retryDelays : List Nat
  endsAt : Nat

namespace Agent

/-- How late a send may be without changing when the next one is due. -/
def leeway : Nat := 5

/-- The number of polls of a collector until a moment. -/
def pollsUntil (agent : Agent) (moment : Nat) : Nat := moment / agent.pollEvery + 1

/-- The writes of the polls with a number. -/
def writesOf (agent : Agent) (number : Nat) : List Ledger.Write :=
  agent.pollers.flatMap fun poller => poller.writes number

/-- The writes of the polls after one moment and until another. -/
def writes (agent : Agent) (start finish : Nat) : List Ledger.Write :=
  ((List.range (agent.pollsUntil finish)).drop (agent.pollsUntil start)).flatMap agent.writesOf

/-- The failures of all polls, by the names of the collectors. -/
def failures (agent : Agent) : List (String × String) :=
  let all := agent.pollers.flatMap fun poller => poller.failures (agent.pollsUntil agent.endsAt)
  all.mergeSort fun earlier later => decide (earlier.1 ≤ later.1)

/-- What goes on around the sender. -/
def surroundings (agent : Agent) : Surroundings := ⟨agent.writes, some agent.endsAt⟩

/-- When the next send is due, after one that was due at a moment has happened at another. -/
def nextDue (period due moment : Nat) : Nat :=
  if due + leeway < moment then moment + period else due + period

/-- Lets the sender send at its pace, at most so many times. -/
def sending (agent : Agent) (period : Nat) : Nat → Nat → Timeline → Timeline
  | 0, _, line => line
  | times + 1, due, line =>
    let moment := max line.now due
    if agent.endsAt ≤ moment then line
    else
      match (line.pass agent.surroundings moment).send agent.surroundings with
      | (line, some (.error .cancelled)) => line
      | (line, _) => agent.sending period times (nextDue period due moment) line

/-- The agent after the first polls. -/
def start (agent : Agent) (script : List Attempt) : Timeline :=
  ⟨0, Sender.idle (Ledger.empty.writeAll (agent.writesOf 0)) agent.retryDelays, script, []⟩

/-- The agent at its end. -/
def run (agent : Agent) (script : List Attempt) : Timeline :=
  let line := agent.start script
  let sent := match agent.sendEvery with
    | none => line
    | some period => agent.sending period (agent.endsAt / period) period line
  sent.pass agent.surroundings (max sent.now agent.endsAt)

end Agent

end Metering
