/-
The course of a send. Its attempts are planned by the delays and the script: the first begins at
once, and every other one when the one before was answered and the delay after it is over. A send
makes the attempts of a beginning of this plan, all with the same batch, and each of them but the
last has failed for now. How it ends depends on what it was told of the last one. Whatever is
written meanwhile, only a send that ends well has acknowledged anything, and that is what was
observed when it began.
-/

import Metering.Proofs.Agent.Commit
import Metering.Agent.Timeline

namespace Metering

/-! ### The attempts of a send -/

/-- What the sender is told of an attempt that begins at a moment, if the answer comes before the
cancellation. -/
def Surroundings.told? (around : Surroundings) (entry : Nat × Attempt) : Option Acknowledgement :=
  if around.isOver (entry.1 + entry.2.latency) then none else some entry.2.answer

/-- Whether the sender is told that an attempt has failed for now. -/
def Surroundings.FailsForNow (around : Surroundings) (entry : Nat × Attempt) : Prop :=
  ∃ text, around.told? entry = some (.error (.transient text))

namespace Attempt

/-- The next attempt of a script. -/
def next (script : List Attempt) : Attempt := script.head?.getD .prompt

/-- The attempts of a send that goes on as long as it can, each with the moment it begins at. -/
def planned (moment : Nat) (script : List Attempt) : List Nat → List (Nat × Attempt)
  | [] => [(moment, next script)]
  | delay :: rest =>
    (moment, next script) ::
      planned (moment + (next script).latency + delay) script.tail rest

theorem length_planned (moment : Nat) (script : List Attempt) (delays : List Nat) :
    (planned moment script delays).length = delays.length + 1 := by
  induction delays generalizing moment script with
  | nil => rfl
  | cons delay rest inductionHypothesis => exact congrArg (· + 1) (inductionHypothesis _ _)

theorem head?_planned (moment : Nat) (script : List Attempt) (delays : List Nat) :
    (planned moment script delays).head? = some (moment, next script) := by
  cases delays <;> rfl

end Attempt

open Attempt (next planned)

/-- The attempts that a send makes from a moment on, and how it ends. -/
structure Course (around : Surroundings) (moment : Nat) (script : List Attempt)
    (sending : Sending) (result : SendResult) (made : List (Nat × Attempt)) : Prop where
  /-- The attempts are the first ones of the plan. -/
  isPlanned : made <+: planned moment script sending.delays
  /-- None begins once the send is cancelled, and there is a first one unless it was before. -/
  inTime : ∀ entry ∈ made, around.isOver entry.1 = false
  notMade : made = [] → around.isOver moment = true
  /-- There is another attempt only if the one before has failed for now. -/
  retried : ∀ entry ∈ made.dropLast, around.FailsForNow entry
  /-- The send ends well if the last attempt was acknowledged. -/
  delivered : ∀ count, result = .ok count ↔ count = sending.batch.length ∧
    ∃ last, made.getLast? = some last ∧ around.told? last = some (.ok ())
  /-- It is rejected if the last attempt has failed for good. -/
  rejected : ∀ reason, result = .error (.rejected reason) ↔
    ∃ last text, made.getLast? = some last ∧ reason = .permanent text ∧
      around.told? last = some (.error reason)
  /-- It is exhausted if the last attempt has failed for now and there is no delay left. -/
  exhausted : ∀ attempts reason, result = .error (.exhausted attempts reason) ↔
    attempts = sending.attempts + sending.delays.length ∧
      made.length = sending.delays.length + 1 ∧
      ∃ last text, made.getLast? = some last ∧ reason = .transient text ∧
        around.told? last = some (.error reason)
  /-- It is cancelled before the first attempt, during an attempt, or before the next one. -/
  cancelled : result = .error .cancelled ↔ ∀ last, made.getLast? = some last →
    around.told? last = none ∨ around.FailsForNow last ∧
      ∃ entry, (planned moment script sending.delays)[made.length]? = some entry ∧
        around.isOver entry.1 = true

namespace Course

variable {around : Surroundings} {moment : Nat} {script : List Attempt} {sending : Sending}

theorem isPlanned_single :
    [(moment, next script)] <+: planned moment script sending.delays := by
  cases sending.delays with
  | nil => exact List.prefix_refl _
  | cons delay rest => exact List.cons_prefix_cons.mpr ⟨rfl, List.nil_prefix⟩

theorem notBegun (isLate : around.isOver moment = true) :
    Course around moment script sending (.error .cancelled) [] where
  isPlanned := List.nil_prefix
  inTime := by simp
  notMade _ := isLate
  retried := by simp
  delivered := by simp
  rejected := by simp
  exhausted := by simp
  cancelled := by simp

theorem unanswered (going : around.isOver moment = false)
    (told : around.told? (moment, next script) = none) :
    Course around moment script sending (.error .cancelled) [(moment, next script)] where
  isPlanned := isPlanned_single
  inTime := by simpa using going
  notMade := by simp
  retried := by simp
  delivered := by simp [told]
  rejected := by simp [told]
  exhausted := by simp [told]
  cancelled := by simp [told]

theorem acknowledged (going : around.isOver moment = false)
    (told : around.told? (moment, next script) = some (.ok ())) :
    Course around moment script sending (.ok sending.batch.length) [(moment, next script)] where
  isPlanned := isPlanned_single
  inTime := by simpa using going
  notMade := by simp
  retried := by simp
  delivered count := by simp [told, eq_comm]
  rejected := by simp [told]
  exhausted := by simp [told]
  cancelled := by simp [told, Surroundings.FailsForNow]

theorem failedForGood (going : around.isOver moment = false) {text : String}
    (told : around.told? (moment, next script) = some (.error (.permanent text))) :
    Course around moment script sending (.error (.rejected (.permanent text)))
      [(moment, next script)] where
  isPlanned := isPlanned_single
  inTime := by simpa using going
  notMade := by simp
  retried := by simp
  delivered := by simp [told]
  rejected reason := by
    suffices .permanent text = reason → ∃ other, reason = .permanent other by simpa [told]
    rintro rfl
    exact ⟨text, rfl⟩
  exhausted attempts reason := by
    suffices ∀ other, reason = .transient other → .permanent text ≠ reason by simp_all
    rintro other rfl permanent
    cases permanent
  cancelled := by simp [told, Surroundings.FailsForNow]

theorem failedForNow (going : around.isOver moment = false) (noDelay : sending.delays = [])
    {text : String} (told : around.told? (moment, next script) = some (.error (.transient text))) :
    Course around moment script sending (.error (.exhausted sending.attempts (.transient text)))
      [(moment, next script)] where
  isPlanned := isPlanned_single
  inTime := by simpa using going
  notMade := by simp
  retried := by simp
  delivered := by simp [told]
  rejected reason := by
    suffices ∀ other, reason = .permanent other → .transient text ≠ reason by simp_all
    rintro other rfl transient
    cases transient
  exhausted attempts reason := by
    suffices .transient text = reason → ∃ other, reason = .transient other by
      simpa [told, noDelay, eq_comm (a := attempts)] using fun _ => this
    rintro rfl
    exact ⟨text, rfl⟩
  cancelled := by simp [told, noDelay, planned, Surroundings.FailsForNow]

section

variable {observed : Changes} {attempts delay : Nat} {rest : List Nat} {result : SendResult}
  {made : List (Nat × Attempt)}

theorem givenUp (going : around.isOver moment = false)
    (again : around.FailsForNow (moment, next script))
    (isLate : around.isOver (moment + (next script).latency + delay) = true) :
    Course around moment script ⟨observed, attempts, delay :: rest⟩ (.error .cancelled)
      [(moment, next script)] := by
  obtain ⟨text, told⟩ := again
  exact {
    isPlanned := isPlanned_single
    inTime := by simpa using going
    notMade := by simp
    retried := by simp
    delivered := by simp [told]
    rejected := by simp [told]
    exhausted := by simp
    cancelled := by
      have next : (planned moment script (delay :: rest))[1]? =
          (planned (moment + (next script).latency + delay) script.tail rest).head? :=
        List.head?_eq_getElem?.symm
      simp [told, Surroundings.FailsForNow, next, Attempt.head?_planned, isLate] }

/-- The course of a send whose first attempt has failed for now, from that of the rest. -/
theorem triedAgain (going : around.isOver moment = false)
    (again : around.FailsForNow (moment, next script))
    (goesOn : around.isOver (moment + (next script).latency + delay) = false)
    (course : Course around (moment + (next script).latency + delay) script.tail
      ⟨observed, attempts + 1, rest⟩ result made) :
    Course around moment script ⟨observed, attempts, delay :: rest⟩ result
      ((moment, next script) :: made) := by
  cases made with
  | nil =>
    rw [course.notMade rfl] at goesOn
    cases goesOn
  | cons second others =>
    exact {
      isPlanned := List.cons_prefix_cons.mpr ⟨rfl, course.isPlanned⟩
      inTime := List.forall_mem_cons.mpr ⟨going, course.inTime⟩
      notMade := by simp
      retried := by
        rw [List.dropLast_cons_cons]
        exact List.forall_mem_cons.mpr ⟨again, course.retried⟩
      delivered := by
        rw [List.getLast?_cons_cons]
        exact course.delivered
      rejected := by
        rw [List.getLast?_cons_cons]
        exact course.rejected
      exhausted := fun count reason => by
        have counted : attempts + 1 + rest.length = attempts + (delay :: rest).length := by
          rw [List.length_cons]
          omega
        rw [List.getLast?_cons_cons, course.exhausted, counted]
        exact and_congr_right fun _ => and_congr_left fun _ => Nat.add_right_cancel_iff.symm
      cancelled := by
        rw [List.getLast?_cons_cons]
        exact course.cancelled }

end

end Course

/-! ### Following a send -/

namespace Ledger

theorem writeAll_append (ledger : Ledger) (first second : List Write) :
    ledger.writeAll (first ++ second) = (ledger.writeAll first).writeAll second :=
  List.foldl_append

end Ledger

namespace Timeline

/-- The line at a later moment, with more written to the ledger. -/
def later (line : Timeline) (writes : List Ledger.Write) (moment : Nat) : Timeline :=
  { line with
    now := moment
    sender := { line.sender with ledger := line.sender.ledger.writeAll writes } }

/-- The line with the next attempt noted. -/
def noted (line : Timeline) (batch : List Metric) : Timeline :=
  { line with script := line.script.tail, begun := line.begun ++ [(line.now, batch)] }

theorem write_eq (line : Timeline) (writes : List Ledger.Write) :
    line.write writes = line.later writes line.now := by
  induction writes generalizing line with
  | nil => rfl
  | cons write rest inductionHypothesis =>
    exact inductionHypothesis (line.happen (.written write)).1

theorem pass_eq (around : Surroundings) (moment : Nat) (line : Timeline) :
    line.pass around moment = line.later (around.writes line.now moment) moment := by
  rw [pass, write_eq]
  rfl

theorem later_later (line : Timeline) (first second : List Ledger.Write) (earlier moment : Nat) :
    (line.later first earlier).later second moment = line.later (first ++ second) moment := by
  rw [later, later, later, ← Ledger.writeAll_append]

/-- What is awaited happens unless the cancellation comes first. -/
theorem await_eq (around : Surroundings) (moment : Nat) (event : SenderEvent) (line : Timeline) :
    ∃ writes, line.await around moment event =
      if around.isOver moment then
        (line.later writes (max line.now (around.deadline.getD 0))).happen .cancelled
      else (line.later writes moment).happen event := by
  rw [await, Surroundings.isOver]
  cases around.deadline with
  | none => exact ⟨_, congrArg (happen · event) (pass_eq around moment line)⟩
  | some deadline =>
    simp only [pass_eq, Option.any_some, decide_eq_true_eq, Option.getD_some]
    by_cases isLate : deadline ≤ moment
    · exact ⟨_, by rw [if_pos isLate, if_pos isLate]⟩
    · exact ⟨_, by rw [if_neg isLate, if_neg isLate]⟩

section

variable {around : Surroundings} {line : Timeline} {sending : Sending}

/-- A send that is cancelled before an attempt ends there. -/
theorem follow_notBegun (steps : Nat) (phase : line.sender.phase = .delivering sending)
    (isLate : around.isOver line.now = true) :
    line.follow around (steps + 1) =
      ({ line with sender := { line.sender with phase := .idle } },
        some (.error .cancelled)) := by
  simp only [follow, phase, isLate, if_true, happen, Sender.step, Sender.ended]

/-- A send goes on with an attempt, until its answer or the cancellation. -/
theorem follow_delivering (steps : Nat) (phase : line.sender.phase = .delivering sending)
    (going : around.isOver line.now = false) :
    line.follow around (steps + 1) =
      match ((line.noted sending.batch).later (next line.script).meanwhile line.now).await around
        (line.now + (next line.script).latency) (.answered (next line.script).answer) with
      | (after, some result) => (after, some result)
      | (after, none) => after.follow around steps := by
  have attempted : line.begin sending.batch = (next line.script,
      (line.noted sending.batch).later (next line.script).meanwhile line.now) :=
    congrArg (next line.script, ·) (write_eq _ _)
  have sameMoment :
      ((line.noted sending.batch).later (next line.script).meanwhile line.now).now = line.now := rfl
  simp only [follow, phase, going, attempted, sameMoment, Bool.false_eq_true, if_false]
  generalize await around _ _ _ = awaited
  obtain ⟨after, _ | result⟩ := awaited <;> rfl

/-- An attempt is cancelled, or answered. -/
theorem follow_begun (steps : Nat) (phase : line.sender.phase = .delivering sending)
    (going : around.isOver line.now = false) :
    ∃ writes moment, line.follow around (steps + 1) =
      match around.told? (line.now, next line.script) with
      | none =>
        let ended := (line.noted sending.batch).later writes moment
        ({ ended with sender := { ended.sender with phase := .idle } }, some (.error .cancelled))
      | some answer =>
        let heard := (line.noted sending.batch).later writes
          (line.now + (next line.script).latency)
        match heard.sender.answered sending answer with
        | (sender, some result) => ({ heard with sender }, some result)
        | (sender, none) => { heard with sender }.follow around steps := by
  obtain ⟨writes, awaited⟩ := await_eq around (line.now + (next line.script).latency)
    (.answered (next line.script).answer)
    ((line.noted sending.batch).later (next line.script).meanwhile line.now)
  rw [later_later, later_later] at awaited
  refine ⟨(next line.script).meanwhile ++ writes, max line.now (around.deadline.getD 0), ?_⟩
  rw [follow_delivering steps phase going, awaited, Surroundings.told?]
  cases around.isOver (line.now + (next line.script).latency) with
  | true =>
    have still (moment : Nat) : ((line.noted sending.batch).later
        ((next line.script).meanwhile ++ writes) moment).sender.phase = .delivering sending := phase
    simp only [if_true, happen, Sender.step, still, Sender.ended]
    rfl
  | false =>
    have still : ((line.noted sending.batch).later ((next line.script).meanwhile ++ writes)
        (line.now + (next line.script).latency)).sender.phase = .delivering sending := phase
    simp only [Bool.false_eq_true, if_false, happen, Sender.step, still]
    generalize Sender.answered _ _ _ = outcome
    obtain ⟨sender, _ | result⟩ := outcome <;> rfl

/-- A sender that waits is cancelled, or tries again when the delay is over. -/
theorem follow_waiting {delay : Nat} (steps : Nat)
    (phase : line.sender.phase = .waiting delay sending) :
    ∃ writes moment, line.follow around (steps + 1) =
      if around.isOver (line.now + delay) then
        let ended := line.later writes moment
        ({ ended with sender := { ended.sender with phase := .idle } }, some (.error .cancelled))
      else
        let resumed := line.later writes (line.now + delay)
        { resumed with
          sender := { resumed.sender with phase := .delivering sending } }.follow around steps := by
  obtain ⟨writes, awaited⟩ := await_eq around (line.now + delay) .waited line
  refine ⟨writes, max line.now (around.deadline.getD 0), ?_⟩
  have still (moment : Nat) :
      (line.later writes moment).sender.phase = .waiting delay sending := phase
  simp only [follow, phase, awaited]
  cases around.isOver (line.now + delay) with
  | true => simp [happen, Sender.step, still, Sender.ended]
  | false => simp [happen, Sender.step, still]

end

end Timeline

/-- The metrics after a send has ended, if they would have been these without it: an
acknowledgement commits what was observed. -/
def Sending.settled (sending : Sending) (ledger : Ledger) : SendResult → Ledger
  | .ok _ => ledger.commit sending.observed
  | .error _ => ledger

namespace Timeline

/-- How a line goes on to the end of the send under way. -/
structure Sends (around : Surroundings) (line : Timeline) (sending : Sending) (after : Timeline)
    (result : SendResult) (made : List (Nat × Attempt)) : Prop where
  course : Course around line.now line.script sending result made
  /-- Every attempt hands over the same batch. -/
  begun : after.begun = line.begun ++ made.map fun entry => (entry.1, sending.batch)
  /-- The metrics are written to, and then the send ends. -/
  ledger : ∃ writes, after.sender.ledger =
    sending.settled (line.sender.ledger.writeAll writes) result

/-- The rest of a send, after an attempt has failed for now and the delay is over. -/
theorem Sends.triedAgain {around : Surroundings} {line after : Timeline} {observed : Changes}
    {attempts delay : Nat} {rest : List Nat} {result : SendResult} {made : List (Nat × Attempt)}
    {writes : List Ledger.Write} {phase : SenderPhase} (going : around.isOver line.now = false)
    (again : around.FailsForNow (line.now, next line.script))
    (goesOn : around.isOver (line.now + (next line.script).latency + delay) = false)
    (sends : Sends around
      ⟨line.now + (next line.script).latency + delay,
        ⟨line.sender.ledger.writeAll writes, line.sender.retryDelays, phase⟩, line.script.tail,
        line.begun ++ [(line.now, observed.batch)]⟩
      ⟨observed, attempts + 1, rest⟩ after result made) :
    Sends around line ⟨observed, attempts, delay :: rest⟩ after result
      ((line.now, next line.script) :: made) where
  course := sends.course.triedAgain going again goesOn
  begun := by
    rw [sends.begun, List.append_assoc]
    rfl
  ledger := by
    obtain ⟨more, isLedger⟩ := sends.ledger
    refine ⟨writes ++ more, isLedger.trans ?_⟩
    rw [Ledger.writeAll_append]
    rfl

/-- A send has ended, with these attempts. -/
def HasSent (around : Surroundings) (line : Timeline) (sending : Sending)
    (outcome : Timeline × Option SendResult) : Prop :=
  ∃ after result made, outcome = (after, some result) ∧
    Sends around line sending after result made

/-- An attempt ends the send, or it has failed for now and there is a delay left. -/
theorem follow_attempt {around : Surroundings} {line : Timeline} {sending : Sending} (steps : Nat)
    (phase : line.sender.phase = .delivering sending) :
    HasSent around line sending (line.follow around (steps + 1)) ∨
      ∃ delay rest writes, ∃ waiting : Timeline, sending.delays = delay :: rest ∧
        around.isOver line.now = false ∧ around.FailsForNow (line.now, next line.script) ∧
        waiting = ⟨line.now + (next line.script).latency,
          ⟨line.sender.ledger.writeAll writes, line.sender.retryDelays,
            .waiting delay ⟨sending.observed, sending.attempts + 1, rest⟩⟩,
          line.script.tail, line.begun ++ [(line.now, sending.batch)]⟩ ∧
        line.follow around (steps + 1) = waiting.follow around steps := by
  cases going : around.isOver line.now with
  | true =>
    exact Or.inl ⟨_, _, [], follow_notBegun steps phase going,
      .notBegun going, (List.append_nil _).symm, [], rfl⟩
  | false =>
    obtain ⟨writes, moment, followed⟩ := follow_begun steps phase going
    cases told : around.told? (line.now, next line.script) with
    | none =>
      rw [told] at followed
      exact Or.inl ⟨_, _, _, followed, .unanswered going told, rfl, writes, rfl⟩
    | some answer =>
      rw [told] at followed
      match answer with
      | .ok () =>
        exact Or.inl ⟨_, _, _, followed, .acknowledged going told, rfl, writes, rfl⟩
      | .error (.permanent text) =>
        exact Or.inl ⟨_, _, _, followed, .failedForGood going told, rfl, writes, rfl⟩
      | .error (.transient text) =>
        cases left : sending.delays with
        | nil =>
          simp only [Sender.answered, left] at followed
          exact Or.inl ⟨_, _, _, followed, .failedForNow going left told, rfl, writes, rfl⟩
        | cons delay rest =>
          simp only [Sender.answered, left] at followed
          exact Or.inr ⟨delay, rest, writes, _, rfl, rfl, ⟨text, told⟩, rfl, followed⟩

/-- Following a send through all of its attempts and delays leads to its end. -/
theorem follow_sends (around : Surroundings) (observed : Changes) (delays : List Nat) :
    ∀ (line : Timeline) (attempts : Nat),
      line.sender.phase = .delivering ⟨observed, attempts, delays⟩ →
      HasSent around line ⟨observed, attempts, delays⟩ (line.follow around (longest delays)) := by
  induction delays with
  | nil =>
    intro line attempts phase
    rcases follow_attempt 0 phase with ended | ⟨delay, rest, _, _, left, _⟩
    · exact ended
    · cases left
  | cons delay rest inductionHypothesis =>
    intro line attempts phase
    -- One more delay is two more steps: the attempt that fails for now, and the wait after it.
    have twoMore : longest (delay :: rest) = longest rest + 1 + 1 := by
      rw [longest, longest, List.length_cons]
      omega
    rw [twoMore]
    rcases follow_attempt (longest rest + 1) phase with
      ended | ⟨_, _, writes, waiting, left, going, again, isWaiting, followed⟩
    · exact ended
    obtain ⟨rfl, rfl⟩ := List.cons.inj left
    have waits : waiting.sender.phase = .waiting delay ⟨observed, attempts + 1, rest⟩ := by
      rw [isWaiting]
    obtain ⟨more, moment, waited⟩ := follow_waiting (longest rest) waits
    rw [followed, waited, isWaiting]
    cases goesOn : around.isOver (line.now + (next line.script).latency + delay) with
    | true =>
      exact ⟨_, _, _, rfl, .givenUp going again goesOn, rfl, writes ++ more,
        (Ledger.writeAll_append _ _ _).symm⟩
    | false =>
      obtain ⟨after, result, made, isSent, sends⟩ := inductionHypothesis
        ⟨line.now + (next line.script).latency + delay,
          ⟨line.sender.ledger.writeAll (writes ++ more), line.sender.retryDelays,
            .delivering ⟨observed, attempts + 1, rest⟩⟩,
          line.script.tail, line.begun ++ [(line.now, observed.batch)]⟩ (attempts + 1) rfl
      refine ⟨after, result, _, ?_, sends.triedAgain going again goesOn⟩
      rw [Ledger.writeAll_append] at isSent
      exact isSent

/-! ### A send from its start -/

/-- How a send goes that has something to report. -/
structure Delivers (around : Surroundings) (start after : Timeline) (result : SendResult)
    (made : List (Nat × Attempt)) : Prop where
  /-- Its attempts and how it ends. -/
  course : Course around start.now start.script
    ⟨start.sender.ledger.changes, 1, start.sender.retryDelays⟩ result made
  atMost : made.length ≤ start.sender.retryDelays.length + 1
  /-- Every attempt hands over what there was to report at the start. -/
  begun : after.begun =
    start.begun ++ made.map fun entry => (entry.1, start.sender.ledger.changes.batch)
  /-- If it ends well, what was observed at the start is acknowledged. -/
  adopted : ∀ count, result = .ok count → ∀ key,
    after.sender.ledger.committedCounter? key =
        start.sender.ledger.adoptedCounter? key start.sender.ledger.changes ∧
      after.sender.ledger.committedGauge? key =
        start.sender.ledger.adoptedGauge? key start.sender.ledger.changes
  /-- If it ends with an error, nothing more is acknowledged than before. -/
  kept : ∀ problem, result = .error problem → ∀ key,
    after.sender.ledger.committedCounter? key = start.sender.ledger.committedCounter? key ∧
      after.sender.ledger.committedGauge? key = start.sender.ledger.committedGauge? key

theorem Sends.delivers {around : Surroundings} {start after : Timeline} {result : SendResult}
    {made : List (Nat × Attempt)} {phase : SenderPhase}
    (sends : Sends around
      ⟨start.now, { start.sender with phase }, start.script, start.begun⟩
      ⟨start.sender.ledger.changes, 1, start.sender.retryDelays⟩ after result made) :
    Delivers around start after result made where
  course := sends.course
  atMost := sends.course.isPlanned.length_le.trans_eq (Attempt.length_planned _ _ _)
  begun := sends.begun
  adopted count delivered key := by
    obtain ⟨writes, isLedger⟩ := sends.ledger
    rw [isLedger, delivered]
    exact ⟨Ledger.committed?_commit_writeAll _ key .counter writes,
      Ledger.committed?_commit_writeAll _ key .gauge writes⟩
  kept problem failed key := by
    obtain ⟨writes, isLedger⟩ := sends.ledger
    rw [isLedger, failed]
    exact ⟨Ledger.committed?_writeAll _ .counter key writes,
      Ledger.committed?_writeAll _ .gauge key writes⟩

/-- A send with nothing to report ends well at once. Any other makes its attempts one after the
other, with the same batch, up to the first that does not fail for now, and it ends well just if
the last one was acknowledged; only then is anything acknowledged, namely what it observed. -/
theorem send_delivers (around : Surroundings) (now : Nat) (ledger : Ledger)
    (retryDelays : List Nat) (script : List Attempt) (begun : List (Nat × List Metric)) :
    ∃ after result,
      send around ⟨now, .idle ledger retryDelays, script, begun⟩ = (after, some result) ∧
        (ledger.changes.isEmpty = true →
          result = .ok 0 ∧ after.begun = begun ∧ after.sender.ledger = ledger) ∧
        (ledger.changes.isEmpty = false → ∃ made,
          Delivers around ⟨now, .idle ledger retryDelays, script, begun⟩ after result made) := by
  cases nothing : ledger.changes.isEmpty with
  | true =>
    refine ⟨⟨now, .idle ledger retryDelays, script, begun⟩, .ok 0, ?_, fun _ => ⟨rfl, rfl, rfl⟩, ?_⟩
    · simp [send, happen, Sender.step, Sender.idle, Sender.start, nothing, Sender.ended]
    · exact fun some => absurd some (by simp)
  | false =>
    obtain ⟨after, result, made, followed, sends⟩ := follow_sends around ledger.changes retryDelays
      ⟨now, ⟨ledger, retryDelays, .delivering ⟨ledger.changes, 1, retryDelays⟩⟩, script, begun⟩
      1 rfl
    refine ⟨after, result, ?_, fun isEmpty => absurd isEmpty (by simp),
      fun _ => ⟨made, sends.delivers⟩⟩
    rw [← followed]
    simp [send, happen, Sender.step, Sender.idle, Sender.start, nothing]

/-- What is written to a counter while an attempt is under way is not in the batch of the next. -/
example :
    (send (.quiet none) ⟨0, .idle (Ledger.empty.setCounter "a" 7) [100],
      [⟨.error (.transient "busy"), 5, [.addCounter "a" 1]⟩], []⟩).1.begun =
      [(0, [.ofValue "a" (.counter 7)]), (105, [.ofValue "a" (.counter 7)])] := by
  decide

end Timeline

end Metering
