/-
What can happen between a sender and its server at one event, and what therefore holds after
every run: a report under way is about metrics that the ledger has, and its changes are those
since the totals that are acknowledged at that moment, whatever has been written in between.
-/

import Metering.Proofs.Agent.Report
import Metering.Agent.Exchange

namespace Metering

/-- The send under way, if there is one. -/
def SenderPhase.sending? : SenderPhase → Option Sending
  | .idle => none
  | .delivering sending => some sending
  | .waiting _ sending => some sending

namespace Exchange

/-- What an event can make of an exchange. -/
inductive Moved (exchange : Exchange Storage) : ExchangeEvent → Exchange Storage → Prop
  | still (event : ExchangeEvent) : Moved exchange event exchange
  | written (write : Ledger.Write) :
    Moved exchange (.written write)
      { exchange with
        sender := { exchange.sender with ledger := exchange.sender.ledger.write write } }
  | began (isIdle : exchange.sender.phase = .idle) :
    Moved exchange .started
      { exchange with
        sender :=
          { exchange.sender with
            phase := .delivering
              ⟨exchange.sender.ledger.changes, 1, exchange.sender.retryDelays⟩ } }
  | resumed {delay : Nat} {sending : Sending}
    (isWaiting : exchange.sender.phase = .waiting delay sending) :
    Moved exchange .waited
      { exchange with sender := { exchange.sender with phase := .delivering sending } }
  | applied {sending : Sending} {after : Storage}
    (isDelivering : exchange.sender.phase = .delivering sending)
    (isOutstanding : exchange.arrival = .outstanding)
    (done : Service.updateMetrics sending.batch exchange.store = (.ok (), after)) :
    Moved exchange .arrived
      { exchange with
        store := after, arrival := .applied, applied := exchange.applied ++ [sending.observed] }
  | refused {sending : Sending} {after : Storage} {problem : ServiceError}
    (isDelivering : exchange.sender.phase = .delivering sending)
    (isOutstanding : exchange.arrival = .outstanding)
    (failed : Service.updateMetrics sending.batch exchange.store = (.error problem, after)) :
    Moved exchange .arrived { exchange with store := after, arrival := .refused }
  | acknowledged {sending : Sending}
    (isDelivering : exchange.sender.phase = .delivering sending)
    (isApplied : exchange.arrival = .applied) :
    Moved exchange .acknowledged
      { exchange with
        sender :=
          { exchange.sender with
            ledger := exchange.sender.ledger.commit sending.observed, phase := .idle }
        arrival := .outstanding, acknowledged := exchange.acknowledged ++ [sending.observed] }
  | gaveUp {sending : Sending} (reason : TransportError)
    (isDelivering : exchange.sender.phase = .delivering sending) :
    Moved exchange (.failed reason)
      { exchange with
        sender := { exchange.sender with phase := .idle }, arrival := .outstanding }
  | postponed {sending next : Sending} (reason : TransportError) (delay : Nat)
    (isDelivering : exchange.sender.phase = .delivering sending)
    (sameReport : next.observed = sending.observed) :
    Moved exchange (.failed reason)
      { exchange with
        sender := { exchange.sender with phase := .waiting delay next }, arrival := .outstanding }
  | cancelled :
    Moved exchange .cancelled
      { exchange with
        sender := { exchange.sender with phase := .idle }, arrival := .outstanding }

theorem phase_of_underway? {exchange : Exchange Storage} {sending : Sending}
    (isUnderway : exchange.underway? = some sending) :
    exchange.sender.phase = .delivering sending := by
  unfold underway? at isUnderway
  split at isUnderway
  · next other isPhase => rw [isPhase, Option.some.inj isUnderway]
  · cases isUnderway

/-! ### One event -/

theorem moved_started (exchange : Exchange Storage) :
    Moved exchange .started (exchange.step .started).1 := by
  simp only [step, toSender, Sender.step]
  split
  · next isIdle =>
    simp only [Sender.start]
    split
    · have same : exchange = { exchange with
          sender := { exchange.sender with phase := .idle } } := by rw [← isIdle]
      exact same ▸ Moved.still .started
    · exact Moved.began isIdle
  · exact Moved.still .started

theorem moved_waited (exchange : Exchange Storage) :
    Moved exchange .waited (exchange.step .waited).1 := by
  simp only [step, toSender, Sender.step]
  split
  · next isWaiting => exact Moved.resumed isWaiting
  · exact Moved.still .waited

theorem moved_arrived (exchange : Exchange Storage) :
    Moved exchange .arrived (exchange.step .arrived).1 := by
  simp only [step]
  split
  · next sending isUnderway isOutstanding =>
    simp only [arrive]
    split
    · next done => exact Moved.applied (phase_of_underway? isUnderway) isOutstanding done
    · next failed => exact Moved.refused (phase_of_underway? isUnderway) isOutstanding failed
  · exact Moved.still .arrived

theorem moved_acknowledged (exchange : Exchange Storage) :
    Moved exchange .acknowledged (exchange.step .acknowledged).1 := by
  simp only [step]
  split
  · next sending isUnderway isApplied =>
    have isDelivering := phase_of_underway? isUnderway
    simp only [endAttempt, toSender, Sender.step, isDelivering, Sender.answered, Sender.ended]
    exact Moved.acknowledged isDelivering isApplied
  · exact Moved.still .acknowledged

theorem moved_failed (exchange : Exchange Storage) (reason : TransportError) :
    Moved exchange (.failed reason) (exchange.step (.failed reason)).1 := by
  simp only [step]
  split
  · next sending isUnderway =>
    have isDelivering := phase_of_underway? isUnderway
    simp only [endAttempt, toSender, Sender.step, isDelivering]
    cases reason with
    | permanent reason => exact Moved.gaveUp _ isDelivering
    | transient reason =>
      simp only [Sender.answered]
      split
      · exact Moved.gaveUp _ isDelivering
      · next delay rest _ => exact Moved.postponed _ delay isDelivering rfl
  · exact Moved.still _

theorem moved_cancelled (exchange : Exchange Storage) :
    Moved exchange .cancelled (exchange.step .cancelled).1 := by
  simp only [step, endAttempt, toSender, Sender.step]
  split
  · next isIdle =>
    have same : exchange.sender = { exchange.sender with phase := .idle } := by rw [← isIdle]
    rw [same]
    exact Moved.cancelled
  · exact Moved.cancelled

/-- All that an event can do. -/
theorem moved_step (exchange : Exchange Storage) (event : ExchangeEvent) :
    Moved exchange event (exchange.step event).1 := by
  cases event with
  | written write => exact Moved.written write
  | started => exact moved_started exchange
  | arrived => exact moved_arrived exchange
  | acknowledged => exact moved_acknowledged exchange
  | failed reason => exact moved_failed exchange reason
  | waited => exact moved_waited exchange
  | cancelled => exact moved_cancelled exchange

/-- A send returns well where there was nothing to report, or where its batch is acknowledged. -/
theorem returned_ok {exchange : Exchange Storage} {event : ExchangeEvent} {count : Nat}
    (returned : (exchange.step event).2 = some (.ok count)) :
    (exchange.sender.ledger.changes.isEmpty = true ∧
      (exchange.step event).1.sender.ledger = exchange.sender.ledger) ∨
    ∃ sending, exchange.sender.phase = .delivering sending ∧ exchange.arrival = .applied ∧
      (exchange.step event).1.sender.ledger =
        exchange.sender.ledger.commit sending.observed := by
  cases event with
  | written write => cases returned
  | started =>
    simp only [step, toSender, Sender.step] at returned ⊢
    split at returned
    · simp only [Sender.start] at returned
      split at returned
      · next isIdle nothing =>
        simp only [isIdle, Sender.start, nothing, if_true]
        exact Or.inl ⟨trivial, rfl⟩
      · cases returned
    · cases returned
  | arrived =>
    simp only [step] at returned
    split at returned <;> cases returned
  | acknowledged =>
    simp only [step] at returned ⊢
    split at returned
    · next sending isUnderway isApplied =>
      have isDelivering := phase_of_underway? isUnderway
      refine Or.inr ⟨sending, isDelivering, isApplied, ?_⟩
      simp only [endAttempt, toSender, Sender.step, isDelivering, Sender.answered, Sender.ended]
    · cases returned
  | failed reason =>
    simp only [step] at returned
    split at returned
    · next sending isUnderway =>
      simp only [endAttempt, toSender, Sender.step, phase_of_underway? isUnderway] at returned
      cases reason with
      | permanent reason => cases returned
      | transient reason =>
        simp only [Sender.answered] at returned
        split at returned <;> cases returned
    · cases returned
  | waited =>
    simp only [step, toSender, Sender.step] at returned
    split at returned <;> cases returned
  | cancelled =>
    simp only [step, endAttempt, toSender, Sender.step] at returned
    split at returned <;> cases returned

/-! ### Every run -/

theorem run_concat (exchange : Exchange Storage) (events : List ExchangeEvent)
    (event : ExchangeEvent) :
    exchange.run (events ++ [event]) = ((exchange.run events).step event).1 := by
  rw [run, List.foldl_append]
  rfl

theorem run_append (exchange : Exchange Storage) (earlier later : List ExchangeEvent) :
    exchange.run (earlier ++ later) = (exchange.run earlier).run later :=
  List.foldl_append

/-- What holds at the start, and after an event if it did before, holds after every run. -/
theorem run_induction {start : Exchange Storage}
    {motive : List ExchangeEvent → Exchange Storage → Prop} (atStart : motive [] start)
    (preserved : ∀ earlier event after, motive earlier (start.run earlier) →
      Moved (start.run earlier) event after → motive (earlier ++ [event]) after)
    (events : List ExchangeEvent) : motive events (start.run events) := by
  induction events using List.reverseRecOn with
  | nil => exact atStart
  | append_singleton earlier event inductionHypothesis =>
    rw [run_concat]
    exact preserved earlier event _ inductionHypothesis (moved_step _ event)

/-- The report under way is about the metrics of the ledger, and only a batch under way can have
arrived. -/
structure Coherent (exchange : Exchange Storage) : Prop where
  reported : ∀ sending, exchange.sender.phase.sending? = some sending →
    exchange.sender.ledger.Reported sending.observed
  underway : exchange.arrival ≠ .outstanding →
    ∃ sending, exchange.sender.phase = .delivering sending

theorem coherent_opening (ledger : Ledger) (retryDelays : List Nat) (store : Storage) :
    (opening ledger retryDelays store).Coherent where
  reported _ isSending := nomatch isSending
  underway arrived := absurd rfl arrived

theorem coherent_of_idle {exchange : Exchange Storage}
    (isIdle : exchange.sender.phase = .idle) (isOutstanding : exchange.arrival = .outstanding) :
    exchange.Coherent where
  reported sending isSending := by rw [isIdle] at isSending; cases isSending
  underway arrived := absurd isOutstanding arrived

theorem Coherent.reported_delivering {exchange : Exchange Storage} (coherent : exchange.Coherent)
    {sending : Sending} (isDelivering : exchange.sender.phase = .delivering sending) :
    exchange.sender.ledger.Reported sending.observed :=
  coherent.reported sending (by rw [isDelivering]; rfl)

theorem Coherent.outstanding {exchange : Exchange Storage} (coherent : exchange.Coherent)
    (notDelivering : ∀ sending, exchange.sender.phase ≠ .delivering sending) :
    exchange.arrival = .outstanding := by
  by_contra arrived
  obtain ⟨sending, isDelivering⟩ := coherent.underway arrived
  exact notDelivering sending isDelivering

theorem Coherent.outstanding_of_idle {exchange : Exchange Storage}
    (coherent : exchange.Coherent) (isIdle : exchange.sender.phase = .idle) :
    exchange.arrival = .outstanding :=
  coherent.outstanding fun sending isDelivering => by
    rw [isIdle] at isDelivering
    cases isDelivering

theorem Coherent.outstanding_of_waiting {exchange : Exchange Storage}
    (coherent : exchange.Coherent) {delay : Nat} {sending : Sending}
    (isWaiting : exchange.sender.phase = .waiting delay sending) :
    exchange.arrival = .outstanding :=
  coherent.outstanding fun other isDelivering => by
    rw [isWaiting] at isDelivering
    cases isDelivering

theorem coherent_moved {exchange after : Exchange Storage} {event : ExchangeEvent}
    (coherent : exchange.Coherent) (moved : Moved exchange event after) : after.Coherent := by
  cases moved with
  | still => exact coherent
  | written write =>
    exact ⟨fun sending isSending =>
      Ledger.reported_write (coherent.reported sending isSending) write, coherent.underway⟩
  | began isIdle =>
    refine ⟨fun sending isSending => ?_, fun _ => ⟨_, rfl⟩⟩
    cases isSending
    exact Ledger.reported_changes exchange.sender.ledger
  | resumed isWaiting =>
    refine ⟨fun sending isSending => ?_, fun _ => ⟨_, rfl⟩⟩
    cases isSending
    exact coherent.reported _ (by rw [isWaiting]; rfl)
  | applied isDelivering => exact ⟨coherent.reported, fun _ => ⟨_, isDelivering⟩⟩
  | refused isDelivering => exact ⟨coherent.reported, fun _ => ⟨_, isDelivering⟩⟩
  | acknowledged => exact coherent_of_idle rfl rfl
  | gaveUp => exact coherent_of_idle rfl rfl
  | postponed reason delay isDelivering sameReport =>
    refine ⟨fun sending isSending => ?_, fun arrived => absurd rfl arrived⟩
    cases isSending
    rw [sameReport]
    exact coherent.reported_delivering isDelivering
  | cancelled => exact coherent_of_idle rfl rfl

theorem coherent_run {start : Exchange Storage} (coherent : start.Coherent)
    (events : List ExchangeEvent) : (start.run events).Coherent :=
  run_induction (motive := fun _ exchange => exchange.Coherent) coherent
    (fun _ _ _ before moved => coherent_moved before moved) events

end Exchange

end Metering
