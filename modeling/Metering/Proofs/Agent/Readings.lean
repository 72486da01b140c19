/-
The readings of a gauge on both sides. The server has the reading that it has applied last, the
agent knows the one that was acknowledged last, and a report carries a gauge only when its
reading is not the acknowledged one. So a send that returns well leaves every gauge at its
acknowledged reading, and the server agrees with it unless another reading was applied after
that and its acknowledgement was lost.
-/

import Metering.Proofs.Agent.Exchange
import Metering.Proofs.Numeral.Binary64

namespace Metering

namespace Ledger

/-! ### Readings to report -/

/-- Every gauge has the reading that a report carries or, if it carries none, one that agrees
with what was acknowledged. -/
def Current (ledger : Ledger) (observed : Changes) : Prop :=
  ∀ key reading, ledger.gauge? key = some reading →
    observed.gauges.find? key = some reading ∨
      observed.gauges.find? key = none ∧
        ∃ known, ledger.committedGauge? key = some known ∧ reading.agrees known = true

/-- Every gauge has a reading that agrees with what was acknowledged. -/
def Settled (ledger : Ledger) : Prop :=
  ∀ key reading, ledger.gauge? key = some reading →
    ∃ known, ledger.committedGauge? key = some known ∧ reading.agrees known = true

theorem current_changes (ledger : Ledger) : ledger.Current ledger.changes := by
  intro key reading present
  obtain ⟨record, isRecord, isPresent⟩ := Option.map_eq_some_iff.mp present
  rw [find?_changes_gauges, committedGauge?, isRecord, Option.bind_some, Option.bind_some,
    gaugeChange?]
  cases changed : record.changed Binary64.agrees with
  | true => exact Or.inl (by rw [if_pos rfl, isPresent])
  | false =>
    obtain ⟨known, isKnown, agree⟩ := Record.not_changed changed
    exact Or.inr ⟨if_neg Bool.false_ne_true, known, isKnown, isPresent ▸ agree⟩

theorem current_write {ledger : Ledger} {observed : Changes} {write : Write}
    (current : ledger.Current observed) (notGauge : write.isGauge = false) :
    (ledger.write write).Current observed := by
  intro key reading present
  rw [gauge?, gauges_write ledger notGauge] at present
  rw [← committed?_gauge, committed?_write]
  exact current key reading present

theorem settled_of_isEmpty {ledger : Ledger} (nothing : ledger.changes.isEmpty = true) :
    ledger.Settled := by
  intro key reading present
  have none := KeyMap.find?_of_isEmpty (Bool.and_eq_true_iff.mp nothing).2 key
  rcases current_changes ledger key reading present with carried | ⟨_, agree⟩
  · rw [none] at carried
    cases carried
  · exact agree

/-- Once a report with all readings is acknowledged, nothing is left to report. -/
theorem settled_commit {ledger : Ledger} {observed : Changes}
    (reported : ledger.Reported observed) (current : ledger.Current observed)
    (finite : ∀ key reading, observed.gauges.find? key = some reading → reading.isFinite = true) :
    (ledger.commit observed).Settled := by
  intro key reading present
  have wasPresent : ledger.gauge? key = some reading :=
    (present?_commit ledger .gauge key observed).symm.trans present
  rw [← committed?_gauge, committed?_commit reported]
  rcases current key reading wasPresent with carried | ⟨notCarried, known, isKnown, agree⟩
  · refine ⟨reading, by rw [Changes.observed?, carried, Option.some_or], ?_⟩
    exact Binary64.agrees_self (Binary64.isNaN_of_isFinite (finite key reading carried))
  · refine ⟨known, ?_, agree⟩
    rw [Changes.observed?, notCarried, committed?_gauge, isKnown, Option.none_or]

end Ledger

theorem Storage.agrees_stored (store : Storage) (left right : Binary64) :
    (store.stored left).agrees right = left.agrees right := by
  cases store with
  | memory store => rfl
  | database file store => exact Binary64.agrees_unsignedZero left right

namespace Exchange

/-! ### Last readings -/

/-- The reading of a gauge in the last report that carries it. -/
def lastOf (key : String) (reports : List Changes) : Option Binary64 :=
  (reports.filterMap fun report => report.gauges.find? key).getLast?

theorem lastOf_concat (key : String) (reports : List Changes) (report : Changes) :
    lastOf key (reports ++ [report]) = (report.gauges.find? key).or (lastOf key reports) := by
  rw [lastOf, List.filterMap_append, List.filterMap_cons, List.filterMap_nil]
  cases report.gauges.find? key with
  | none => rw [List.append_nil]; rfl
  | some reading => rw [List.getLast?_concat]; rfl

/-- A gauge that some reports carry is carried by all lists that those are part of. -/
theorem lastOf_of_sublist {key : String} {reports others : List Changes}
    (part : reports.Sublist others) (carried : lastOf key reports ≠ none) :
    lastOf key others ≠ none := by
  intro none
  apply carried
  rw [lastOf, List.getLast?_eq_none_iff] at none ⊢
  exact List.eq_nil_of_sublist_nil (none ▸ part.filterMap _)

/-! ### Both sides -/

/-- The server has the readings applied last, the agent knows those acknowledged last, and only
what was applied was acknowledged. -/
structure Gauged (initial : Storage) (exchange : Exchange Storage) : Prop where
  stored : exchange.store.stored = initial.stored
  held : ∀ key, exchange.store.kept.gauge? key =
    ((lastOf key exchange.applied).map initial.stored).or (initial.kept.gauge? key)
  known : ∀ key, exchange.sender.ledger.committedGauge? key = lastOf key exchange.acknowledged
  part : exchange.acknowledged.Sublist exchange.applied
  finite : ∀ report ∈ exchange.applied, ∀ key reading,
    report.gauges.find? key = some reading → reading.isFinite = true
  underway : exchange.arrival = .applied → ∀ sending,
    exchange.sender.phase = .delivering sending →
    ∃ earlier, exchange.applied = earlier ++ [sending.observed] ∧
      exchange.acknowledged.Sublist earlier

theorem gauged_opening (retryDelays : List Nat) (store : Storage) :
    (opening Ledger.empty retryDelays store).Gauged store where
  stored := rfl
  held _ := rfl
  known _ := rfl
  part := List.Sublist.refl _
  finite _ member := nomatch member
  underway isApplied := nomatch isApplied

/-- What a report that is applied makes of the readings of the server. -/
theorem held_of_applied {initial : Storage} {exchange : Exchange Storage} {observed : Changes}
    {after : Storage} (gauged : exchange.Gauged initial)
    (done : Service.updateMetrics observed.batch exchange.store = (.ok (), after))
    (key : String) :
    after.kept.gauge? key = ((lastOf key (exchange.applied ++ [observed])).map initial.stored).or
      (initial.kept.gauge? key) := by
  rw [(Service.updateMetrics_report_ok done).gauge, observed.readings_updates, gauged.held,
    gauged.stored, lastOf_concat]
  cases observed.gauges.find? key <;> rfl

theorem gauged_moved {initial : Storage} {exchange after : Exchange Storage}
    {event : ExchangeEvent} (coherent : exchange.Coherent) (gauged : exchange.Gauged initial)
    (moved : Moved exchange event after) : after.Gauged initial := by
  cases moved with
  | still => exact gauged
  | written write =>
    refine { gauged with known := fun key => ?_ }
    rw [← Ledger.committed?_gauge, Ledger.committed?_write]
    exact gauged.known key
  | began isIdle =>
    have isOutstanding := coherent.outstanding_of_idle isIdle
    exact { gauged with underway := fun isApplied => nomatch isOutstanding.symm.trans isApplied }
  | resumed isWaiting =>
    have isOutstanding := coherent.outstanding_of_waiting isWaiting
    exact { gauged with underway := fun isApplied => nomatch isOutstanding.symm.trans isApplied }
  | @applied sending after isDelivering isOutstanding done =>
    have sameBackend := Service.stored_updateMetrics sending.batch exchange.store
    rw [done] at sameBackend
    refine ⟨sameBackend.trans gauged.stored, held_of_applied gauged done, gauged.known,
      gauged.part.trans (List.sublist_append_left _ _), ?_, ?_⟩
    · intro report member key reading found
      rcases List.mem_append.mp member with before | isNew
      · exact gauged.finite report before key reading found
      · rw [List.mem_singleton.mp isNew] at found
        exact Service.finite_of_updateMetrics_report_ok done found
    · intro _ other isOther
      obtain rfl := SenderPhase.delivering.inj (isDelivering.symm.trans isOther)
      exact ⟨exchange.applied, rfl, gauged.part⟩
  | @refused sending after problem isDelivering isOutstanding failed =>
    have sameBackend := Service.stored_updateMetrics sending.batch exchange.store
    rw [failed] at sameBackend
    refine ⟨sameBackend.trans gauged.stored, fun key => ?_, gauged.known, gauged.part,
      gauged.finite, nofun⟩
    exact (congrFun (Service.updateMetrics_error_gauge? failed) key).trans (gauged.held key)
  | @acknowledged sending isDelivering isApplied =>
    obtain ⟨earlier, isEarlier, part⟩ := gauged.underway isApplied sending isDelivering
    refine ⟨gauged.stored, gauged.held, fun key => ?_, ?_, gauged.finite, nofun⟩
    · rw [← Ledger.committed?_gauge,
        Ledger.committed?_commit (coherent.reported_delivering isDelivering),
        Ledger.committed?_gauge, gauged.known, lastOf_concat]
      rfl
    · show (exchange.acknowledged ++ [sending.observed]).Sublist exchange.applied
      rw [isEarlier]
      exact part.append_right _
  | gaveUp => exact { gauged with underway := nofun }
  | postponed => exact { gauged with underway := nofun }
  | cancelled => exact { gauged with underway := nofun }

theorem gauged_run (retryDelays : List Nat) (store : Storage) (events : List ExchangeEvent) :
    ((opening Ledger.empty retryDelays store).run events).Gauged store :=
  run_induction (motive := fun _ exchange => exchange.Gauged store)
    (gauged_opening retryDelays store)
    (fun earlier _ _ before moved =>
      gauged_moved (coherent_run (coherent_opening _ _ _) earlier) before moved) events

/-! ### Sends that return well -/

/-- No gauge was written since the report under way was made. -/
def UpToDate (exchange : Exchange Storage) : Prop :=
  ∀ sending, exchange.sender.phase.sending? = some sending →
    exchange.sender.ledger.Current sending.observed

theorem upToDate_of_idle {exchange : Exchange Storage}
    (isIdle : exchange.sender.phase = .idle) : exchange.UpToDate := by
  intro sending isSending
  rw [isIdle] at isSending
  cases isSending

theorem upToDate_moved {exchange after : Exchange Storage} {event : ExchangeEvent}
    (upToDate : exchange.UpToDate)
    (noGauge : ∀ write, event = .written write → write.isGauge = false)
    (moved : Moved exchange event after) : after.UpToDate := by
  cases moved with
  | still => exact upToDate
  | written write =>
    exact fun sending isSending =>
      Ledger.current_write (upToDate sending isSending) (noGauge write rfl)
  | began =>
    intro sending isSending
    cases isSending
    exact Ledger.current_changes exchange.sender.ledger
  | resumed isWaiting =>
    intro sending isSending
    cases isSending
    exact upToDate _ (by rw [isWaiting]; rfl)
  | applied => exact upToDate
  | refused => exact upToDate
  | acknowledged => exact upToDate_of_idle rfl
  | gaveUp => exact upToDate_of_idle rfl
  | postponed reason delay isDelivering sameReport =>
    intro sending isSending
    cases isSending
    rw [sameReport]
    exact upToDate _ (by rw [isDelivering]; rfl)
  | cancelled => exact upToDate_of_idle rfl

theorem upToDate_run {start : Exchange Storage} (isIdle : start.sender.phase = .idle)
    {events : List ExchangeEvent}
    (noGauge : ∀ write, .written write ∈ events → write.isGauge = false) :
    (start.run events).UpToDate := by
  revert noGauge
  refine run_induction (motive := fun events exchange =>
    (∀ write, .written write ∈ events → write.isGauge = false) → exchange.UpToDate) ?_ ?_ events
  · exact fun _ => upToDate_of_idle isIdle
  · intro earlier event after before moved noGauge
    refine upToDate_moved (before fun write member => noGauge write (List.mem_append_left _ member))
      ?_ moved
    rintro write rfl
    exact noGauge write (List.mem_append_right _ List.mem_cons_self)

/-- A send that returns well leaves no gauge to report, if none was written since its report was
made. -/
theorem settled_of_returned {initial : Storage} {exchange : Exchange Storage}
    (coherent : exchange.Coherent) (gauged : exchange.Gauged initial)
    (upToDate : exchange.UpToDate) {event : ExchangeEvent} {count : Nat}
    (returned : (exchange.step event).2 = some (.ok count)) :
    (exchange.step event).1.sender.ledger.Settled := by
  rcases returned_ok returned with ⟨nothing, same⟩ | ⟨sending, isDelivering, isApplied, committed⟩
  · rw [same]
    exact Ledger.settled_of_isEmpty nothing
  · obtain ⟨earlier, isEarlier, _⟩ := gauged.underway isApplied sending isDelivering
    have inApplied : sending.observed ∈ exchange.applied :=
      isEarlier ▸ List.mem_append_right _ List.mem_cons_self
    rw [committed]
    exact Ledger.settled_commit (coherent.reported_delivering isDelivering)
      (upToDate sending (by rw [isDelivering]; rfl)) (gauged.finite _ inApplied)

/-- After a send that returns well, with no gauge written since a moment before its report was
made at which no send was under way, the server has of every gauge the reading applied last.
That is the agent's reading, as a number, exactly if it is the one acknowledged last. -/
theorem readings_of_returned (store : Storage) (retryDelays : List Nat)
    (before steps : List ExchangeEvent) (event : ExchangeEvent) (count : Nat)
    (isIdle : ((opening Ledger.empty retryDelays store).run before).sender.phase = .idle)
    (noGauge : ∀ write, .written write ∈ steps → write.isGauge = false)
    (returned : (((opening Ledger.empty retryDelays store).run (before ++ steps)).step event).2 =
      some (.ok count)) :
    let exchange := (opening Ledger.empty retryDelays store).run (before ++ steps ++ [event])
    ∀ key reading, exchange.sender.ledger.gauge? key = some reading →
      ∃ known held, lastOf key exchange.acknowledged = some known ∧
        lastOf key exchange.applied = some held ∧
        exchange.store.kept.gauge? key = some (store.stored held) ∧
        reading.agrees known = true ∧
        ((store.stored held).agrees reading = true ↔ held.agrees known = true) := by
  intro exchange key reading present
  have gauged : exchange.Gauged store := gauged_run retryDelays store _
  have upToDate := upToDate_run isIdle noGauge
  rw [← run_append] at upToDate
  have settled : exchange.sender.ledger.Settled := by
    rw [show exchange = _ from run_concat _ (before ++ steps) event]
    exact settled_of_returned (coherent_run (coherent_opening _ _ _) _)
      (gauged_run retryDelays store _) upToDate returned
  obtain ⟨known, isKnown, agree⟩ := settled key reading present
  rw [gauged.known] at isKnown
  obtain ⟨held, isHeld⟩ := Option.ne_none_iff_exists'.mp
    (lastOf_of_sublist gauged.part (isKnown ▸ Option.some_ne_none known))
  refine ⟨known, held, isKnown, isHeld, ?_, agree, ?_⟩
  · rw [gauged.held, isHeld]
    rfl
  · rw [Storage.agrees_stored]
    exact ⟨fun same => Binary64.agrees_trans same agree,
      fun same => Binary64.agrees_trans same (Binary64.agrees_symm agree)⟩

theorem readings_of_returned_acknowledged :
    let before : List ExchangeEvent := [.written (.setGauge "g" ⟨0x3ff0000000000000⟩)]
    let steps : List ExchangeEvent := [.started, .written (.addCounter "a" 1), .arrived]
    let exchange := (opening Ledger.empty [] (Storage.memory .ephemeral)).run
      (before ++ steps ++ [.acknowledged])
    ∃ held, exchange.store.kept.gauge? "g" = some held ∧
      held.agrees ⟨0x3ff0000000000000⟩ = true := by
  intro before steps exchange
  have noGauge : ∀ write, .written write ∈ steps → write.isGauge = false := by
    simp [steps, Ledger.Write.isGauge]
  obtain ⟨known, held, isKnown, isHeld, onServer, _, agree⟩ :=
    readings_of_returned (.memory .ephemeral) [] before steps .acknowledged 1 (by decide) noGauge
      (by decide) "g" ⟨0x3ff0000000000000⟩ (by decide)
  cases isKnown.symm.trans
    (by decide : lastOf "g" exchange.acknowledged = some ⟨0x3ff0000000000000⟩)
  cases isHeld.symm.trans
    (by decide : lastOf "g" exchange.applied = some ⟨0x3ff0000000000000⟩)
  exact ⟨_, onServer, agree.mpr (by decide)⟩

/-- A gauge that is set back to its acknowledged reading, after another reading was applied and
the acknowledgement of that was lost, is not reported again. -/
theorem not_reported_again_after_lost_acknowledgement :
    let exchange := (opening Ledger.empty [] (Storage.memory .ephemeral)).run
      [.written (.setGauge "g" ⟨0x3ff0000000000000⟩), .started, .arrived, .acknowledged,
        .written (.setGauge "g" ⟨0x4000000000000000⟩), .started, .arrived,
        .failed (.transient "lost"), .written (.setGauge "g" ⟨0x3ff0000000000000⟩)]
    exchange.sender.phase = .idle ∧ (exchange.step .started).2 = some (.ok 0) ∧
      (exchange.step .started).1.sender.ledger.gauge? "g" = some ⟨0x3ff0000000000000⟩ ∧
      (exchange.step .started).1.store.kept.gauge? "g" = some ⟨0x4000000000000000⟩ ∧
      (⟨0x4000000000000000⟩ : Binary64).agrees ⟨0x3ff0000000000000⟩ = false := by
  decide

end Exchange

end Metering
