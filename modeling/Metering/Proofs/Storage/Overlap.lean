/-
What the file of a shared store holds. Whoever has copied a state has had the lock since before
the copy, so nobody replaces the file between a copy and its own replacement. The number of the
state in the file therefore never falls, and it reaches that of a call's own change before the
call returns.
-/

import Metering.Proofs.Storage.SnapshotFile
import Metering.Proofs.Storage.Writes
import Metering.Storage.Overlap

namespace Metering

/-- Whether someone at a stage has the lock. -/
def SnapshotStage.hasLock : SnapshotStage → Bool
  | .locked _ | .copied _ _ | .replaced _ => true
  | .away | .waiting _ | .finished _ => false

/-- The number of the state that a snapshot has to hold or to be newer than. -/
def SnapshotStage.since? : SnapshotStage → Option Nat
  | .away => none
  | .waiting since | .locked since | .copied since _ | .replaced since | .finished since =>
    some since

namespace SharedStore

/-- Whether an event replaces the file. -/
def replaces (store : SharedStore) : OverlapEvent → Bool
  | .replaced who =>
    match store.stage who with
    | .copied _ _ => true
    | _ => false
  | _ => false

/-- The store after each event that replaces the file. -/
def replacements [Gzip.Deflater] (store : SharedStore) : List OverlapEvent → List SharedStore
  | [] => []
  | event :: rest =>
    let after := store.step event
    if store.replaces event then after :: after.replacements rest else after.replacements rest

/-- The file holds the state that has a number among some states. -/
def Holds [Gzip.Deflater] (states : List Contents) (number : Nat) (store : SharedStore) : Prop :=
  number ≤ store.present ∧ ∃ state, states[number]? = some state ∧
    store.files.read store.path = .ok (Snapshot.encode state)

/-- Among events someone's call has changed the contents to a state with a number, and the call is
about to return after them. -/
def IsReturning [Gzip.Deflater] (store : SharedStore) (events : List OverlapEvent) (who : Nat)
    (changed : Contents) (own : Nat) : Prop :=
  ∃ before change between since,
    events = before ++ .changed who change :: between ∧
      (store.run before).stage who = .away ∧
      change (store.run before).contents = .ok changed ∧
      own = (store.run before).present + 1 ∧
      .returned who ∉ between ∧ (store.run events).stage who = .finished since

variable {store : SharedStore} {last : Nat}

/-! ### States -/

theorem length_states (store : SharedStore) : store.states.length = store.present + 1 := by
  rw [states, present, List.length_append, List.length_singleton]

theorem present_change (contents : Contents) (store : SharedStore) :
    (store.change contents).present = store.present + 1 := length_states store

theorem states_prefix_step [Gzip.Deflater] (store : SharedStore) (event : OverlapEvent) :
    store.states <+: (store.step event).states := by
  cases event <;> rw [step]
  case changed who change =>
    split
    · exact List.prefix_append _ _
    · exact List.prefix_rfl
  all_goals split <;> exact List.prefix_rfl

theorem states_prefix_run [Gzip.Deflater] (store : SharedStore) (events : List OverlapEvent) :
    store.states <+: (store.run events).states := by
  induction events generalizing store with
  | nil => exact List.prefix_rfl
  | cons event rest inductionHypothesis =>
    exact (states_prefix_step store event).trans (inductionHypothesis (store.step event))

theorem getElem?_of_prefix {early late : List Contents} {number : Nat} {state : Contents}
    (isPrefix : early <+: late) (isThere : early[number]? = some state) :
    late[number]? = some state := by
  obtain ⟨below, rfl⟩ := List.getElem?_eq_some_iff.mp isThere
  exact List.prefix_iff_getElem?.mp isPrefix number below

theorem getElem?_change {number : Nat} {state : Contents} (contents : Contents)
    (isThere : store.states[number]? = some state) :
    (store.change contents).states[number]? = some state :=
  getElem?_of_prefix (List.prefix_append _ _) isThere

/-! ### The invariant -/

/-- What the numbers of someone at a stage come to, where the file holds a state that is not newer
than the one with the number `last`. -/
def Numbered [Gzip.Deflater] (last : Nat) (store : SharedStore) : SnapshotStage → Prop
  | .away => True
  | .waiting since | .locked since => since ≤ store.present
  | .copied since copy =>
    ∃ number, since ≤ number ∧ last ≤ number ∧ store.states[number]? = some copy
  | .replaced since => since ≤ last ∧ Holds store.states last store
  | .finished since => store.afterEachWrite = true → since ≤ last ∧ Holds store.states last store

/-- Only who has the lock is between a copy and its replacement, and no copy is older than what
the file holds. -/
structure Guarded [Gzip.Deflater] (last : Nat) (store : SharedStore) : Prop where
  writable : SnapshotFile.Writable store.path store.files
  reached : last ≤ store.present
  exclusive : ∀ who, (store.stage who).hasLock = true → store.holder = some who
  numbered : ∀ who, Numbered last store (store.stage who)

section

variable [Gzip.Deflater]

theorem guarded_opened {path : Path} {files : Files} (contents : Contents)
    (writable : SnapshotFile.Writable path files) (afterEachWrite : Bool) :
    Guarded 0 (opened contents files path afterEachWrite) :=
  ⟨writable, Nat.zero_le _, (nomatch ·, ·), fun _ => trivial⟩

theorem guarded_enter (guarded : Guarded last store) {who : Nat} {stage : SnapshotStage}
    (exclusive : stage.hasLock = true → store.holder = some who)
    (numbered : Numbered last store stage) : Guarded last (store.enter who stage) where
  writable := guarded.writable
  reached := guarded.reached
  exclusive other has := by
    dsimp only [enter] at has ⊢
    split at has
    · next same => exact same ▸ exclusive has
    · exact guarded.exclusive other has
  numbered other := by
    dsimp only [enter]
    split
    · exact numbered
    · exact guarded.numbered other

theorem holds_change {number : Nat} (contents : Contents)
    (holds : Holds store.states number store) :
    Holds (store.change contents).states number (store.change contents) := by
  obtain ⟨reached, state, isThere, isRead⟩ := holds
  refine ⟨?_, state, getElem?_change contents isThere, isRead⟩
  rw [present_change]
  exact Nat.le_succ_of_le reached

theorem numbered_change {stage : SnapshotStage} (contents : Contents)
    (numbered : Numbered last store stage) : Numbered last (store.change contents) stage := by
  cases stage with
  | away => trivial
  | waiting since =>
    rw [Numbered, present_change]
    exact Nat.le_succ_of_le numbered
  | locked since =>
    rw [Numbered, present_change]
    exact Nat.le_succ_of_le numbered
  | copied since copy =>
    obtain ⟨number, after, newer, isThere⟩ := numbered
    exact ⟨number, after, newer, getElem?_change contents isThere⟩
  | replaced since => exact ⟨numbered.1, holds_change contents numbered.2⟩
  | finished since =>
    exact fun follows => ⟨(numbered follows).1, holds_change contents (numbered follows).2⟩

theorem guarded_change (guarded : Guarded last store) (contents : Contents) :
    Guarded last (store.change contents) where
  writable := guarded.writable
  reached := by
    rw [present_change]
    exact Nat.le_succ_of_le guarded.reached
  exclusive := guarded.exclusive
  numbered who := numbered_change contents (guarded.numbered who)

theorem guarded_holder (guarded : Guarded last store) {holder : Option Nat}
    (exclusive : ∀ who, (store.stage who).hasLock = true → holder = some who) :
    Guarded last { store with holder } :=
  ⟨guarded.writable, guarded.reached, exclusive, guarded.numbered⟩

/-- Whoever has no lock is not kept back by a file that holds a newer state. -/
theorem numbered_files {next : Nat} {files : Files} {stage : SnapshotStage}
    (numbered : Numbered last store stage) (noLock : stage.hasLock = false) (newer : last ≤ next)
    (holds : Holds store.states next { store with files }) :
    Numbered next { store with files } stage := by
  cases stage with
  | away => trivial
  | waiting since => exact numbered
  | finished since => exact fun follows => ⟨(numbered follows).1.trans newer, holds⟩
  | locked since => cases noLock
  | copied since copy => cases noLock
  | replaced since => cases noLock

/-! ### Single events -/

/-- A copy that takes the place of the file is not older than what was there. -/
theorem guarded_replaced (guarded : Guarded last store) {who since : Nat} {copy : Contents}
    (isAt : store.stage who = .copied since copy) :
    ∃ next, last ≤ next ∧ Guarded next (store.step (.replaced who)) ∧
      Holds (store.step (.replaced who)).states next (store.step (.replaced who)) := by
  have isNumbered := guarded.numbered who
  have hasLock := guarded.exclusive who
  rw [isAt] at isNumbered hasLock
  obtain ⟨next, after, newer, isThere⟩ := isNumbered
  have reached : next ≤ store.present := by
    have below := (List.getElem?_eq_some_iff.mp isThere).1
    rw [length_states] at below
    exact Nat.le_of_lt_succ below
  obtain ⟨files, written⟩ :
      ∃ files, SnapshotFile.write store.path copy store.files = (.ok (), files) :=
    ⟨_, Prod.ext (guarded.writable copy) rfl⟩
  obtain ⟨isRead, writable⟩ := SnapshotFile.of_write written
  have holds : Holds store.states next { store with files } := ⟨reached, copy, isThere, isRead⟩
  have replaced : Guarded next { store with files } := by
    refine ⟨writable, reached, guarded.exclusive, fun other => ?_⟩
    by_cases same : other = who
    · rw [same]
      show Numbered next _ (store.stage who)
      rw [isAt]
      exact ⟨next, after, Nat.le_refl next, isThere⟩
    · refine numbered_files (guarded.numbered other) (Bool.eq_false_iff.mpr fun has => ?_) newer
        holds
      exact same (Option.some.inj ((guarded.exclusive other has).symm.trans (hasLock rfl)))
  rw [step, isAt]
  dsimp only
  rw [written]
  exact ⟨next, newer, guarded_enter replaced hasLock ⟨after, holds⟩, holds⟩

theorem guarded_changed (guarded : Guarded last store) (who : Nat)
    (change : Contents → Except StorageError Contents) :
    Guarded last (store.step (.changed who change)) := by
  rw [step]
  split
  · next contents _ _ =>
    refine guarded_enter (guarded_change guarded contents) ?_ ?_
    · split <;> exact nofun
    · split
      · exact Nat.le_refl _
      · next other => exact fun follows => absurd follows other
  · exact guarded

theorem guarded_locked (guarded : Guarded last store) (who : Nat) :
    Guarded last (store.step (.locked who)) := by
  rw [step]
  split
  · next since isAt free =>
    have isNumbered := guarded.numbered who
    rw [isAt] at isNumbered
    have nobody : Guarded last { store with holder := some who } := by
      refine guarded_holder guarded fun other has => ?_
      have holder := guarded.exclusive other has
      rw [free] at holder
      cases holder
    exact guarded_enter nobody (fun _ => rfl) isNumbered
  · exact guarded

theorem guarded_copied (guarded : Guarded last store) (who : Nat) :
    Guarded last (store.step (.copied who)) := by
  rw [step]
  split
  · next since isAt =>
    have isNumbered := guarded.numbered who
    have hasLock := guarded.exclusive who
    rw [isAt] at isNumbered hasLock
    refine guarded_enter guarded hasLock ⟨store.present, isNumbered, guarded.reached, ?_⟩
    exact List.getElem?_concat_length
  · exact guarded

theorem guarded_unlocked (guarded : Guarded last store) (who : Nat) :
    Guarded last (store.step (.unlocked who)) := by
  rw [step]
  split
  · next since isAt =>
    have isNumbered := guarded.numbered who
    have hasLock := guarded.exclusive who
    rw [isAt] at isNumbered hasLock
    have entered : Guarded last (store.enter who (.finished since)) :=
      guarded_enter guarded nofun fun _ => isNumbered
    refine guarded_holder entered fun other has => ?_
    have holder : store.holder = some other := entered.exclusive other has
    obtain rfl : who = other := Option.some.inj ((hasLock rfl).symm.trans holder)
    dsimp only [enter] at has
    rw [if_pos rfl] at has
    cases has
  · exact guarded

/-- After every event the file holds a state that is not older than before, and where the event
replaces the file, one that the store has had. -/
theorem guarded_step (guarded : Guarded last store) (event : OverlapEvent) :
    ∃ next, last ≤ next ∧ Guarded next (store.step event) ∧
      (store.replaces event = true → Holds (store.step event).states next (store.step event)) := by
  cases event with
  | changed who change => exact ⟨last, Nat.le_refl last, guarded_changed guarded who change, nofun⟩
  | locked who => exact ⟨last, Nat.le_refl last, guarded_locked guarded who, nofun⟩
  | copied who => exact ⟨last, Nat.le_refl last, guarded_copied guarded who, nofun⟩
  | unlocked who => exact ⟨last, Nat.le_refl last, guarded_unlocked guarded who, nofun⟩
  | ticked who =>
    refine ⟨last, Nat.le_refl last, ?_, nofun⟩
    rw [step]
    split
    · exact guarded_enter guarded nofun (Nat.le_refl _)
    · exact guarded
  | returned who =>
    refine ⟨last, Nat.le_refl last, ?_, nofun⟩
    rw [step]
    split
    · exact guarded_enter guarded nofun trivial
    · exact guarded
  | replaced who =>
    cases isAt : store.stage who with
    | copied since copy =>
      obtain ⟨next, newer, after, holds⟩ := guarded_replaced guarded isAt
      exact ⟨next, newer, after, fun _ => holds⟩
    | _ =>
      have same : store.step (.replaced who) = store := by rw [step, isAt]
      refine ⟨last, Nat.le_refl last, same.symm ▸ guarded, fun isReplaced => ?_⟩
      rw [replaces, isAt] at isReplaced
      cases isReplaced

/-! ### Runs -/

/-- The states in the file after its replacements, by their numbers. -/
theorem guarded_run (guarded : Guarded last store) (events : List OverlapEvent) :
    ∃ numbers reached, (last :: numbers).Pairwise (· ≤ ·) ∧
      List.Forall₂ (Holds (store.run events).states) numbers (store.replacements events) ∧
      Guarded reached (store.run events) := by
  induction events generalizing store last with
  | nil => exact ⟨[], last, List.pairwise_singleton _ last, .nil, guarded⟩
  | cons event rest inductionHypothesis =>
    obtain ⟨next, newer, after, holds⟩ := guarded_step guarded event
    obtain ⟨numbers, reached, ordered, held, isGuarded⟩ := inductionHypothesis after
    rw [replacements]
    split
    · next isReplaced =>
      obtain ⟨small, state, isThere, isRead⟩ := holds isReplaced
      have stays := getElem?_of_prefix (states_prefix_run (store.step event) rest) isThere
      refine ⟨next :: numbers, reached, ?_, .cons ⟨small, state, stays, isRead⟩ held, isGuarded⟩
      refine List.pairwise_cons.mpr ⟨fun number member => ?_, ordered⟩
      rcases List.mem_cons.mp member with rfl | later
      · exact newer
      · exact newer.trans (List.rel_of_pairwise_cons ordered later)
    · refine ⟨numbers, reached, List.pairwise_cons.mpr ⟨fun number member => ?_, ?_⟩, held,
        isGuarded⟩
      · exact newer.trans (List.rel_of_pairwise_cons ordered member)
      · exact ordered.of_cons

end

theorem since?_enter {who other since : Nat} {stage : SnapshotStage}
    (isSince : (store.stage who).since? = some since)
    (entered : who = other → stage.since? = some since) :
    ((store.enter other stage).stage who).since? = some since := by
  dsimp only [enter]
  split
  · next same => exact entered same
  · exact isSince

/-- A call keeps its number until it returns. -/
theorem since?_step [Gzip.Deflater] {who since : Nat}
    (isSince : (store.stage who).since? = some since) {event : OverlapEvent}
    (stays : event ≠ .returned who) :
    ((store.step event).stage who).since? = some since := by
  cases event <;> rw [step]
  case returned other =>
    split
    · exact since?_enter isSince fun same => absurd (congrArg OverlapEvent.returned same.symm) stays
    · exact isSince
  case changed other change =>
    split
    · next isAt _ =>
      refine since?_enter isSince fun same => ?_
      rw [same, isAt] at isSince
      cases isSince
    · exact isSince
  case ticked other =>
    split
    · next isAt =>
      refine since?_enter isSince fun same => ?_
      rw [same, isAt] at isSince
      cases isSince
    · exact isSince
  case locked other =>
    split
    · next isAt _ =>
      refine since?_enter isSince fun same => ?_
      rw [same, isAt] at isSince
      exact isSince
    · exact isSince
  all_goals
    split
    · next isAt =>
      refine since?_enter isSince fun same => ?_
      rw [same, isAt] at isSince
      exact isSince
    · exact isSince

theorem since?_run [Gzip.Deflater] {who since : Nat}
    (isSince : (store.stage who).since? = some since) {events : List OverlapEvent}
    (stays : .returned who ∉ events) :
    ((store.run events).stage who).since? = some since := by
  induction events generalizing store with
  | nil => exact isSince
  | cons event rest inductionHypothesis =>
    obtain ⟨first, others⟩ := not_or.mp (mt List.mem_cons.mpr stays)
    exact inductionHypothesis (since?_step isSince (Ne.symm first)) others

theorem afterEachWrite_step [Gzip.Deflater] (store : SharedStore) (event : OverlapEvent) :
    (store.step event).afterEachWrite = store.afterEachWrite := by
  cases event <;> rw [step] <;> split <;> rfl

theorem afterEachWrite_run [Gzip.Deflater] (store : SharedStore) (events : List OverlapEvent) :
    (store.run events).afterEachWrite = store.afterEachWrite := by
  induction events generalizing store with
  | nil => rfl
  | cons event rest inductionHypothesis =>
    exact (inductionHypothesis (store.step event)).trans (afterEachWrite_step store event)

/-! ### Calls that nobody overlaps -/

/-- All events of a call. -/
def wholeCall (who : Nat) (change : Contents → Except StorageError Contents) :
    List OverlapEvent :=
  [.changed who change, .locked who, .copied who, .replaced who, .unlocked who, .returned who]

/-- A call that nobody overlaps does what a write does. -/
theorem run_wholeCall {store : MemoryStore} {path : Path} (isPath : store.path = some path)
    (who : Nat) (change : Contents → Except StorageError Contents) :
    let after := (opened store.contents store.files path store.afterEachWrite).run
      (wholeCall who change)
    let written := ((MemoryStore.write change).on store).2
    after.contents = written.contents ∧ after.files = written.files ∧ after.holder = none ∧
      after.stage who = .away := by
  rw [MemoryStore.write_on]
  cases result : change store.contents with
  | error problem => simp [wholeCall, run, step, opened, result]
  | ok contents =>
    dsimp only
    rw [MemoryStore.written]
    cases store.afterEachWrite with
    | true =>
      simp [wholeCall, run, step, opened, result, enter, SharedStore.change, MemoryStore.save,
        isPath]
    | false => simp [wholeCall, run, step, opened, result, enter, SharedStore.change]

/-! ### Calls that return -/

theorem run_changed [Gzip.Deflater] (store : SharedStore) (before between : List OverlapEvent)
    (who : Nat) (change : Contents → Except StorageError Contents) :
    store.run (before ++ .changed who change :: between) =
      ((store.run before).step (.changed who change)).run between := List.foldl_append

/-- The state that a call has made is among the states, under the number of the call. -/
theorem getElem?_of_isReturning [Gzip.Deflater] {events : List OverlapEvent} {who own : Nat}
    {changed : Contents} (returning : store.IsReturning events who changed own) :
    (store.run events).states[own]? = some changed := by
  obtain ⟨before, change, between, _, rfl, isAway, isChanged, rfl, _, _⟩ := returning
  rw [run_changed]
  refine getElem?_of_prefix (states_prefix_run _ between) ?_
  rw [step, isAway, isChanged]
  show ((store.run before).states ++ [changed])[_]? = _
  rw [← length_states, List.getElem?_concat_length]

/-- Where a snapshot follows each write, a call returns with the number of its own state. -/
theorem stage_of_isReturning [Gzip.Deflater] {events : List OverlapEvent} {who own : Nat}
    {changed : Contents} (returning : store.IsReturning events who changed own)
    (follows : store.afterEachWrite = true) :
    (store.run events).stage who = .finished own := by
  obtain ⟨before, change, between, since, rfl, isAway, isChanged, rfl, stays, isAt⟩ := returning
  have isSince : (((store.run before).step (.changed who change)).stage who).since? =
      some ((store.run before).present + 1) := by
    rw [step, isAway, isChanged]
    dsimp only [enter]
    rw [if_pos rfl, afterEachWrite_run, if_pos follows, present_change]
    rfl
  have last := since?_run isSince stays
  rw [run_changed] at isAt ⊢
  rw [isAt] at last ⊢
  rw [Option.some.inj last]

/-- What the file of a store holds is read back. -/
theorem saved?_of_holds [Gzip.Deflater] [Gzip.LawfulDeflater] {states : List Contents}
    {number : Nat} (holds : Holds states number store)
    (fit : ∀ state ∈ states, Snapshot.Fits state) : store.saved? = states[number]? := by
  obtain ⟨_, state, isThere, isRead⟩ := holds
  have fits := fit state (List.mem_of_getElem? isThere)
  rw [saved?, SnapshotFile.read_of_read fits isRead, isThere]

/-- Where the file can be written to, however calls and the worker overlap: what the file holds
after its replacements are states of the store, in the order in which it has had them; and where
a snapshot follows each write, the file holds the state that a call has made, or a later one,
when the call returns. -/
theorem file_follows_states [Gzip.Deflater] [Gzip.LawfulDeflater] {contents : Contents}
    {files : Files} {path : Path} (writable : SnapshotFile.Writable path files)
    (afterEachWrite : Bool) (events : List OverlapEvent) :
    let store := opened contents files path afterEachWrite
    let after := store.run events
    (∀ state ∈ after.states, Snapshot.Fits state) →
      (∃ numbers : List Nat, numbers.Pairwise (· ≤ ·) ∧
        List.Forall₂ (fun number moment =>
            number ≤ moment.present ∧ moment.saved? = after.states[number]?)
          numbers (store.replacements events)) ∧
      (afterEachWrite = true → ∀ who changed own, store.IsReturning events who changed own →
        after.states[own]? = some changed ∧
          ∃ number, own ≤ number ∧ number ≤ after.present ∧
            after.saved? = after.states[number]?) := by
  intro store after fit
  obtain ⟨numbers, last, ordered, held, guarded⟩ :=
    guarded_run (guarded_opened contents writable afterEachWrite) events
  refine ⟨⟨numbers, ordered.of_cons, held.imp fun _ _ holds => ?_⟩,
    fun follows who _ _ returning => ?_⟩
  · exact ⟨holds.1, saved?_of_holds holds fit⟩
  · have isNumbered := guarded.numbered who
    rw [stage_of_isReturning returning follows] at isNumbered
    obtain ⟨newer, holds⟩ := isNumbered ((afterEachWrite_run store events).trans follows)
    exact ⟨getElem?_of_isReturning returning, last, newer, holds.1, saved?_of_holds holds fit⟩

/-- Two calls and someone else's write, where the call that wrote first is the last to replace the
file. -/
theorem file_follows_states_overtaken :
    let events : List OverlapEvent :=
      [.changed 0 (Contents.setCounter "polls" 1), .changed 1 (Contents.setCounter "polls" 2),
        .locked 1, .copied 1, .locked 0, .changed 2 (Contents.setGauge "load" ⟨0⟩), .replaced 1,
        .unlocked 1, .locked 0, .copied 0, .replaced 0, .unlocked 0]
    let store := opened Contents.empty Files.empty ["metrics.db"] true
    let after := store.run events
    (store.replacements events).length = 2 ∧
      (∃ numbers : List Nat, numbers.Pairwise (· ≤ ·) ∧
        List.Forall₂ (fun number moment =>
            number ≤ moment.present ∧ moment.saved? = after.states[number]?)
          numbers (store.replacements events)) ∧
      ∃ number, 1 ≤ number ∧ number ≤ after.present ∧ after.saved? = after.states[number]? := by
  intro events store after
  have fit : ∀ state ∈ after.states, Snapshot.Fits state := by decide
  obtain ⟨ordered, returning⟩ :=
    file_follows_states (SnapshotFile.writable_empty "metrics.db" (by decide)) true events fit
  refine ⟨by decide, ordered, ?_⟩
  have isReturning : store.IsReturning events 0 (store.step (events.head nofun)).contents 1 :=
    ⟨[], Contents.setCounter "polls" 1, events.tail, 1, rfl, rfl, rfl, rfl, nofun, by decide⟩
  exact (returning rfl 0 _ 1 isReturning).2

end SharedStore

end Metering
