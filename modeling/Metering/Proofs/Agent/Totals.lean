/-
The totals of a counter on both sides. The server's is the exact sum of the changes that it has
applied, since it refuses sums out of range; the acknowledged total of the agent is the sum of
the acknowledged changes as far as wrapping changes can tell. Both are in the range of counters,
so they are equal where the same reports are applied and acknowledged.
-/

import Metering.Proofs.Agent.Exchange

namespace Metering

namespace Exchange

/-! ### Sums of reports -/

theorem sumOf_append (key : String) (earlier later : List Changes) :
    sumOf key (earlier ++ later) = sumOf key earlier + sumOf key later := by
  rw [sumOf, List.filterMap_append, Tally.exactSum_append, sumOf, sumOf]

theorem sumOf_singleton (key : String) (observed : Changes) :
    sumOf key [observed] = Update.deltaSum key observed.updates := by
  rw [Update.deltaSum, observed.deltas_updates, sumOf, List.filterMap_cons]
  cases observed.counters.find? key <;> rfl

theorem sumOf_of_find?_eq_some {key : String} {observed : Changes} {change : CounterChange}
    (found : observed.counters.find? key = some change) :
    sumOf key [observed] = change.delta.toInt := by
  rw [sumOf, List.filterMap_cons, found]
  exact Int.add_zero _

theorem sumOf_of_find?_eq_none {key : String} {observed : Changes}
    (absent : observed.counters.find? key = none) : sumOf key [observed] = 0 := by
  rw [sumOf, List.filterMap_cons, absent]
  rfl

/-! ### The server -/

/-- The server's totals are those that it started with and the sums of what it has applied, and
no key of the agent is held under both kinds. -/
structure Counted (initial : Holdings) (exchange : Exchange Storage) : Prop where
  total : ∀ key, (exchange.store.kept.total key).toInt =
    (initial.total key).toInt + sumOf key exchange.applied
  apart : ∀ key, initial.Apart key → exchange.store.kept.Apart key
  gauge : ∀ key, exchange.sender.ledger.gauges.contains key = true → initial.Apart key

theorem counted_moved {initial : Holdings} {exchange after : Exchange Storage}
    {event : ExchangeEvent} (coherent : exchange.Coherent)
    (counted : exchange.Counted initial)
    (fresh : ∀ write, event = .written write → initial.Apart write.key)
    (moved : Moved exchange event after) : after.Counted initial := by
  cases moved with
  | still => exact counted
  | written write =>
    refine ⟨counted.total, counted.apart, fun key known => ?_⟩
    have known : (Ledger.records _ .gauge).contains key = true := known
    rcases Ledger.contains_of_write known with before | rfl
    · exact counted.gauge key before
    · exact fresh write rfl
  | began => exact ⟨counted.total, counted.apart, counted.gauge⟩
  | resumed => exact ⟨counted.total, counted.apart, counted.gauge⟩
  | applied isDelivering isOutstanding done =>
    have takes := Service.updateMetrics_report_ok done
    refine ⟨fun key => ?_, fun key isApart => ?_, counted.gauge⟩
    · rw [takes.toInt_total, counted.total, sumOf_append, sumOf_singleton, Int.add_assoc]
    · exact takes.apart_after key (counted.apart key isApart)
  | refused isDelivering isOutstanding failed =>
    have reported := coherent.reported_delivering isDelivering
    have same := Storage.kept_of_unchanged (Service.updateMetrics_report_error (fun key member =>
      have known := reported.known .gauge key (Option.isSome_iff_ne_none.mp member)
      counted.apart key (counted.gauge key known)) failed)
    exact ⟨fun key => same ▸ counted.total key, fun key isApart => same ▸ counted.apart key isApart,
      counted.gauge⟩
  | acknowledged =>
    refine ⟨counted.total, counted.apart, fun key known => ?_⟩
    exact counted.gauge key ((Ledger.contains_commit _ .gauge key _).symm.trans known)
  | gaveUp => exact ⟨counted.total, counted.apart, counted.gauge⟩
  | postponed => exact ⟨counted.total, counted.apart, counted.gauge⟩
  | cancelled => exact ⟨counted.total, counted.apart, counted.gauge⟩

theorem counted_run (retryDelays : List Nat) {store : Storage} {events : List ExchangeEvent}
    (fresh : ∀ write, .written write ∈ events → store.kept.Apart write.key) :
    ((opening Ledger.empty retryDelays store).run events).Counted store.kept := by
  revert fresh
  refine run_induction (motive := fun events exchange =>
    (∀ write, .written write ∈ events → store.kept.Apart write.key) →
      exchange.Counted store.kept) ?_ ?_ events
  · exact fun _ => ⟨fun key => (Int.add_zero _).symm, fun _ => id, nofun⟩
  · intro earlier event after before moved fresh
    refine counted_moved (coherent_run (coherent_opening _ _ _) earlier)
      (before fun write member => fresh write (List.mem_append_left _ member)) ?_ moved
    rintro write rfl
    exact fresh write (List.mem_append_right _ List.mem_cons_self)

/-! ### The agent -/

/-- A commit adds the changes that were reported to the acknowledged totals. -/
theorem committedTotal_commit_modEq {ledger : Ledger} {observed : Changes}
    (reported : ledger.Reported observed) (key : String) :
    ((ledger.commit observed).committedTotal key).toInt ≡
      (ledger.committedTotal key).toInt + sumOf key [observed] [ZMOD 2 ^ 64] := by
  rw [Ledger.committedTotal, ← Ledger.committed?_counter, Ledger.committed?_commit reported,
    Changes.observed?]
  cases found : observed.counters.find? key with
  | none =>
    rw [sumOf_of_find?_eq_none found, Int.add_zero]
    exact Int.ModEq.rfl
  | some change =>
    have isTotal : change.total = ledger.committedTotal key + change.delta := by
      rw [reported.delta key change found, Int64.add_comm, Int64.sub_add_cancel]
    rw [sumOf_of_find?_eq_some found, Option.map_some, Option.some_or, Option.getD_some, isTotal]
    exact Tally.toInt_add_modEq _ _

/-- The acknowledged totals are the sums of what was acknowledged, as far as wrapping tells. -/
def Acknowledged (exchange : Exchange Storage) : Prop :=
  ∀ key, (exchange.sender.ledger.committedTotal key).toInt ≡ sumOf key exchange.acknowledged
    [ZMOD 2 ^ 64]

theorem acknowledged_moved {exchange after : Exchange Storage} {event : ExchangeEvent}
    (coherent : exchange.Coherent) (acknowledged : exchange.Acknowledged)
    (moved : Moved exchange event after) : after.Acknowledged := by
  cases moved with
  | still => exact acknowledged
  | written write =>
    intro key
    rw [Ledger.committedTotal_write]
    exact acknowledged key
  | began => exact acknowledged
  | resumed => exact acknowledged
  | applied => exact acknowledged
  | refused => exact acknowledged
  | acknowledged isDelivering =>
    intro key
    rw [sumOf_append]
    exact (committedTotal_commit_modEq (coherent.reported_delivering isDelivering) key).trans
      ((acknowledged key).add_right _)
  | gaveUp => exact acknowledged
  | postponed => exact acknowledged
  | cancelled => exact acknowledged

theorem acknowledged_run (retryDelays : List Nat) (store : Storage)
    (events : List ExchangeEvent) :
    ((opening Ledger.empty retryDelays store).run events).Acknowledged := by
  refine run_induction (motive := fun _ exchange => exchange.Acknowledged) ?_ ?_ events
  · exact fun _ => Int.ModEq.rfl
  · exact fun earlier _ _ before moved =>
      acknowledged_moved (coherent_run (coherent_opening _ _ _) earlier) before moved

/-! ### Both sides -/

/-- No acknowledgement is lost: an attempt whose batch was applied neither fails nor is
cancelled. -/
def NoneLost (start : Exchange Storage) (events : List ExchangeEvent) : Prop :=
  ∀ earlier event later, events = earlier ++ event :: later →
    (start.run earlier).arrival = .applied → event ≠ .cancelled ∧ ∀ reason, event ≠ .failed reason

/-- The report that was applied and whose acknowledgement is on its way, if there is one. -/
def onTheWay (exchange : Exchange Storage) : List Changes :=
  match exchange.arrival with
  | .applied => (exchange.underway?.map (·.observed)).toList
  | _ => []

theorem onTheWay_of_arrival {exchange : Exchange Storage}
    (notApplied : exchange.arrival ≠ .applied) : exchange.onTheWay = [] := by
  unfold onTheWay
  split
  · next isApplied => exact absurd isApplied notApplied
  · rfl

theorem onTheWay_of_applied {exchange : Exchange Storage} {sending : Sending}
    (isDelivering : exchange.sender.phase = .delivering sending)
    (isApplied : exchange.arrival = .applied) : exchange.onTheWay = [sending.observed] := by
  rw [onTheWay, isApplied, underway?, isDelivering]
  rfl

theorem applied_of_settled {exchange : Exchange Storage}
    (settled : exchange.applied = exchange.acknowledged)
    (notApplied : exchange.arrival ≠ .applied) :
    exchange.applied = exchange.acknowledged ++ exchange.onTheWay := by
  rw [onTheWay_of_arrival notApplied, List.append_nil]
  exact settled

theorem applied_of_underway {exchange : Exchange Storage} {sending : Sending}
    (isDelivering : exchange.sender.phase = .delivering sending)
    (isApplied : exchange.arrival = .applied)
    (ahead : exchange.applied = exchange.acknowledged ++ [sending.observed]) :
    exchange.applied = exchange.acknowledged ++ exchange.onTheWay := by
  rw [onTheWay_of_applied isDelivering isApplied]
  exact ahead

/-- What is applied is what is acknowledged and what is on its way, and the acknowledged totals
are exact. -/
structure InStep (initial : Holdings) (exchange : Exchange Storage) : Prop where
  applied : exchange.applied = exchange.acknowledged ++ exchange.onTheWay
  committed : ∀ key, initial.total key = 0 →
    (exchange.sender.ledger.committedTotal key).toInt = sumOf key exchange.acknowledged

/-- Totals are the same on both sides when nothing is on its way. -/
theorem toInt_committedTotal_of_settled {initial : Holdings} {exchange : Exchange Storage}
    (counted : exchange.Counted initial) (acknowledged : exchange.Acknowledged)
    (settled : exchange.applied = exchange.acknowledged) {key : String}
    (startsAtZero : initial.total key = 0) :
    (exchange.sender.ledger.committedTotal key).toInt = sumOf key exchange.acknowledged := by
  have total := counted.total key
  rw [startsAtZero, settled] at total
  have onServer : (exchange.store.kept.total key).toInt = sumOf key exchange.acknowledged :=
    total.trans (Int.zero_add _)
  have onAgent := acknowledged key
  rw [← onServer] at onAgent
  rw [Tally.eq_of_toInt_modEq onAgent, onServer]

theorem inStep_moved {initial : Holdings} {exchange after : Exchange Storage}
    {event : ExchangeEvent} (coherent : exchange.Coherent) (inStep : exchange.InStep initial)
    (counted : after.Counted initial) (acknowledged : after.Acknowledged)
    (noneLost : exchange.arrival = .applied →
      event ≠ .cancelled ∧ ∀ reason, event ≠ .failed reason)
    (moved : Moved exchange event after) : after.InStep initial := by
  have settled : exchange.arrival ≠ .applied → exchange.applied = exchange.acknowledged :=
    fun notApplied => by
      rw [inStep.applied, onTheWay_of_arrival notApplied, List.append_nil]
  have outstanding : Arrival.outstanding ≠ .applied := by decide
  have refused : Arrival.refused ≠ .applied := by decide
  cases moved with
  | still => exact inStep
  | written write =>
    refine ⟨inStep.applied, fun key startsAtZero => ?_⟩
    rw [Ledger.committedTotal_write]
    exact inStep.committed key startsAtZero
  | began isIdle =>
    have isOutstanding := coherent.outstanding_of_idle isIdle
    have notApplied : exchange.arrival ≠ .applied := isOutstanding ▸ outstanding
    exact ⟨applied_of_settled (settled notApplied) notApplied, inStep.committed⟩
  | resumed isWaiting =>
    have isOutstanding := coherent.outstanding_of_waiting isWaiting
    have notApplied : exchange.arrival ≠ .applied := isOutstanding ▸ outstanding
    exact ⟨applied_of_settled (settled notApplied) notApplied, inStep.committed⟩
  | @applied sending after isDelivering isOutstanding =>
    have notApplied : exchange.arrival ≠ .applied := isOutstanding ▸ outstanding
    exact ⟨applied_of_underway isDelivering rfl
      (congrArg (· ++ [sending.observed]) (settled notApplied)), inStep.committed⟩
  | refused isDelivering isOutstanding =>
    have notApplied : exchange.arrival ≠ .applied := isOutstanding ▸ outstanding
    exact ⟨applied_of_settled (settled notApplied) refused, inStep.committed⟩
  | acknowledged isDelivering isApplied =>
    have nowSettled := inStep.applied
    rw [onTheWay_of_applied isDelivering isApplied] at nowSettled
    exact ⟨applied_of_settled nowSettled outstanding, fun key startsAtZero =>
      toInt_committedTotal_of_settled counted acknowledged nowSettled startsAtZero⟩
  | gaveUp reason =>
    have notApplied : exchange.arrival ≠ .applied :=
      fun isApplied => (noneLost isApplied).2 reason rfl
    exact ⟨applied_of_settled (settled notApplied) outstanding, inStep.committed⟩
  | postponed reason =>
    have notApplied : exchange.arrival ≠ .applied :=
      fun isApplied => (noneLost isApplied).2 reason rfl
    exact ⟨applied_of_settled (settled notApplied) outstanding, inStep.committed⟩
  | cancelled =>
    have notApplied : exchange.arrival ≠ .applied := fun isApplied => (noneLost isApplied).1 rfl
    exact ⟨applied_of_settled (settled notApplied) outstanding, inStep.committed⟩

theorem noneLost_of_append {start : Exchange Storage} {earlier later : List ExchangeEvent}
    (noneLost : NoneLost start (earlier ++ later)) : NoneLost start earlier := by
  intro first event rest split
  exact noneLost first event (rest ++ later) (by rw [split, List.append_assoc, List.cons_append])

theorem inStep_run {store : Storage} {retryDelays : List Nat} {events : List ExchangeEvent}
    (fresh : ∀ write, .written write ∈ events → store.kept.Apart write.key)
    (noneLost : NoneLost (opening Ledger.empty retryDelays store) events) :
    ((opening Ledger.empty retryDelays store).run events).InStep store.kept := by
  induction events using List.reverseRecOn with
  | nil => exact ⟨rfl, fun _ _ => rfl⟩
  | append_singleton earlier event inductionHypothesis =>
    have before := inductionHypothesis
      (fun write member => fresh write (List.mem_append_left _ member))
      (noneLost_of_append noneLost)
    have counted := counted_run retryDelays fresh
    have acknowledged := acknowledged_run retryDelays store (earlier ++ [event])
    rw [run_concat] at counted acknowledged ⊢
    exact inStep_moved (coherent_run (coherent_opening _ _ _) earlier) before counted acknowledged
      (noneLost earlier event [] rfl) (moved_step _ event)

/-- After every run against a store that started without the keys of the agent: the total of the
server is the sum of what was applied, the acknowledged total of the agent is congruent to the
sum of what was acknowledged, and as long as no acknowledgement is lost the two totals differ
only by what is on its way. -/
theorem totals_of_run (store : Storage) (retryDelays : List Nat) (events : List ExchangeEvent)
    (fresh : ∀ write, .written write ∈ events → store.kept.Lacks write.key) {key : String}
    (absent : store.kept.Lacks key) :
    let start := opening Ledger.empty retryDelays store
    let exchange := start.run events
    (exchange.store.kept.total key).toInt = sumOf key exchange.applied ∧
    (exchange.sender.ledger.committedTotal key).toInt ≡ sumOf key exchange.acknowledged
      [ZMOD 2 ^ 64] ∧
    (NoneLost start events →
      (exchange.store.kept.total key).toInt =
        (exchange.sender.ledger.committedTotal key).toInt + sumOf key exchange.onTheWay ∧
      (exchange.arrival ≠ .applied →
        exchange.store.kept.total key = exchange.sender.ledger.committedTotal key)) := by
  intro start exchange
  have startsAtZero : store.kept.total key = 0 := by rw [Holdings.total, absent.1]; rfl
  have apart : ∀ write, .written write ∈ events → store.kept.Apart write.key :=
    fun write member => Or.inl (fresh write member).1
  have counted : (exchange.store.kept.total key).toInt = sumOf key exchange.applied := by
    rw [(counted_run retryDelays apart).total key, startsAtZero]
    exact Int.zero_add _
  refine ⟨counted, acknowledged_run retryDelays store events key, fun noneLost => ?_⟩
  have inStep := inStep_run apart noneLost
  have difference : (exchange.store.kept.total key).toInt =
      (exchange.sender.ledger.committedTotal key).toInt + sumOf key exchange.onTheWay := by
    rw [counted, inStep.applied, sumOf_append, inStep.committed key startsAtZero]
  refine ⟨difference, fun notApplied => Int64.toInt_inj.mp ?_⟩
  rw [difference, onTheWay_of_arrival notApplied]
  exact Int.add_zero _

theorem totals_of_run_two_sends :
    let events : List ExchangeEvent :=
      [.written (.addCounter "a" 5), .started, .written (.addCounter "a" 2), .arrived,
        .acknowledged, .started, .arrived, .acknowledged]
    let exchange := (opening Ledger.empty [] (Storage.memory .ephemeral)).run events
    exchange.store.kept.total "a" = exchange.sender.ledger.committedTotal "a" ∧
      exchange.store.kept.total "a" = 7 := by
  intro events exchange
  have noneLost : NoneLost (opening Ledger.empty [] (Storage.memory .ephemeral)) events := by
    intro earlier event later split _
    have member : event ∈ events := split ▸ List.mem_append_right _ List.mem_cons_self
    simp only [events, List.mem_cons, List.not_mem_nil, or_false] at member
    rcases member with rfl | rfl | rfl | rfl | rfl | rfl | rfl | rfl <;> exact ⟨nofun, nofun⟩
  refine ⟨?_, by decide⟩
  obtain ⟨_, _, inStep⟩ := totals_of_run (.memory .ephemeral) [] events
    (fun _ _ => ⟨rfl, rfl⟩) ⟨rfl, rfl⟩
  exact (inStep noneLost).2 (by decide)

end Exchange

end Metering
