/-
Stores that several clients use at once. A client takes one turn after another and goes on as the
answers tell; between two turns of one client any other may take theirs, so what was checked in
one turn may be untrue in the next. However the turns fall, no key comes to be held under both
kinds, and all that can be asked about a key is answered as if one value was held or none.
-/

import Metering.Proofs.Storage.Answers

namespace Metering

/-- What a client does to a store in one turn. A `statement` is a single statement of a bulk
write to a table; the memory backend knows no statements. -/
inductive Turn
  | has (key : String)
  | counter (key : String)
  | gauge (key : String)
  | all
  | setCounter (key : String) (total : Int64)
  | setCounters (totals : KeyMap Int64)
  | setGauge (key : String) (reading : Binary64)
  | setGauges (readings : KeyMap Binary64)
  | start
  | commit
  | rollback
  | statement (rows : List (String × Value))

/-- What a client learns from a turn that succeeds. -/
inductive Told
  | presence (isThere : Bool)
  | total (total : Int64)
  | reading (reading : Binary64)
  | metrics (metrics : KeyMap Value)
  | isolation (isolation : Isolation)
  | done

/-- A client: it is done, or takes a turn and goes on with the answer. -/
inductive Client
  | done
  | takes (turn : Turn) (next : Except StorageError Told → Client)

/-- Clients by number, and the store that they share. -/
structure Shared where
  store : Storage
  client : Nat → Client

/-! ### Turns -/

/-- An action with its answer told as something else. -/
def Action.told {Store First Second : Type} (image : First → Second)
    (action : Action Store First) : Action Store Second := fun store =>
  ((action.on store).1.map image, (action.on store).2)

/-- The action of a turn. -/
def Turn.action : Turn → Action Storage Told
  | .has key => Action.told .presence (Repository.has key)
  | .counter key => Action.told .total (Repository.counter key)
  | .gauge key => Action.told .reading (Repository.gauge key)
  | .all => Action.told .metrics Repository.all
  | .setCounter key total => Action.told (fun _ => .done) (Repository.setCounter key total)
  | .setCounters totals => Action.told (fun _ => .done) (Repository.setCounters totals)
  | .setGauge key reading => Action.told (fun _ => .done) (Repository.setGauge key reading)
  | .setGauges readings => Action.told (fun _ => .done) (Repository.setGauges readings)
  | .start => Action.told .isolation Repository.start
  | .commit => Action.told (fun _ => .done) Repository.commit
  | .rollback => Action.told (fun _ => .done) Repository.rollback
  | .statement rows => Action.told (fun _ => .done)
    (Storage.either (pure ()) (Database.execute (Table.runStatement rows)))

namespace Shared

/-- The next turn of a client. One that is done changes nothing. -/
def step (shared : Shared) (who : Nat) : Shared :=
  match shared.client who with
  | .done => shared
  | .takes turn next =>
    let (answer, store) := turn.action.on shared.store
    ⟨store, fun other => if other = who then next answer else shared.client other⟩

/-- The turns of the clients in an order. -/
def run (shared : Shared) (order : List Nat) : Shared := order.foldl step shared

end Shared

/-! ### What every turn keeps -/

namespace Holdings

/-- What becomes of a key: it holds what it held, or one kind at most before and after. -/
def KeepsKinds (key : String) (before after : Holdings) : Prop :=
  (after.counter? key = before.counter? key ∧ after.gauge? key = before.gauge? key) ∨
    before.Apart key ∧ after.Apart key

variable {key : String} {before middle after : Holdings}

theorem KeepsKinds.refl (key : String) (held : Holdings) : KeepsKinds key held held :=
  Or.inl ⟨rfl, rfl⟩

theorem KeepsKinds.apart (keeps : KeepsKinds key before after) (apart : before.Apart key) :
    after.Apart key := by
  rcases keeps with ⟨counter, gauge⟩ | ⟨_, still⟩
  · rwa [Apart, counter, gauge]
  · exact still

theorem KeepsKinds.same (keeps : KeepsKinds key before after) (both : ¬ before.Apart key) :
    after.counter? key = before.counter? key ∧ after.gauge? key = before.gauge? key :=
  keeps.resolve_right fun apart => both apart.1

theorem KeepsKinds.trans (first : KeepsKinds key before middle)
    (second : KeepsKinds key middle after) : KeepsKinds key before after := by
  by_cases apart : before.Apart key
  · exact Or.inr ⟨apart, second.apart (first.apart apart)⟩
  · obtain ⟨counter, gauge⟩ := first.same apart
    have both : ¬ middle.Apart key := by rwa [Apart, counter, gauge]
    exact Or.inl ⟨(second.same both).1.trans counter, (second.same both).2.trans gauge⟩

theorem keepsKinds_withCounters {held : Holdings} {totals : KeyMap Int64}
    (free : ∀ key, totals.contains key = true → held.gauge? key = none) (key : String) :
    KeepsKinds key held (held.withCounters totals) := by
  cases member : totals.contains key with
  | true => exact Or.inr ⟨Or.inr (free key member), Or.inr (free key member)⟩
  | false =>
    rw [KeyMap.contains_eq_false_iff] at member
    refine Or.inl ⟨?_, rfl⟩
    show (totals.find? key).or (held.counter? key) = held.counter? key
    rw [member, Option.none_or]

theorem keepsKinds_withGauges {held : Holdings} {readings : KeyMap Binary64}
    (free : ∀ key, readings.contains key = true → held.counter? key = none) (key : String) :
    KeepsKinds key held (held.withGauges readings) := by
  cases member : readings.contains key with
  | true => exact Or.inr ⟨Or.inl (free key member), Or.inl (free key member)⟩
  | false =>
    rw [KeyMap.contains_eq_false_iff] at member
    refine Or.inl ⟨rfl, ?_⟩
    show (readings.find? key).or (held.gauge? key) = held.gauge? key
    rw [member, Option.none_or]

end Holdings

namespace Storage

/-- A memory backend that holds no key under both kinds, or a database over a connection and
with the table, in a transaction or not. -/
def Orderly : Storage → Prop
  | .memory store => ∀ key, store.contents.holdings.Apart key
  | .database _ store =>
    store.connected = true ∧ store.committed.isSome = true ∧ store.current.isSome = true

theorem Orderly.isReached {store : Storage} (orderly : store.Orderly) :
    store.isReached = true := by
  cases store with
  | memory store => rfl
  | database file store =>
    obtain ⟨connected, _, hasTable⟩ := orderly
    rw [Storage.isReached, Database.reached, if_pos connected]
    exact hasTable

theorem Orderly.apart_seen {store : Storage} (orderly : store.Orderly) (key : String) :
    store.seen.Apart key := by
  cases store with
  | memory store => exact orderly key
  | database file store => exact apart_ofTable store.current key

theorem Orderly.apart_kept {store : Storage} (orderly : store.Orderly) (key : String) :
    store.kept.Apart key := by
  cases store with
  | memory store => exact orderly key
  | database file store => exact apart_ofTable store.committed key

end Storage

namespace Contents

theorem keepsKinds_setCounters {totals : KeyMap Int64} {contents after : Contents}
    (done : contents.setCounters totals = .ok after) (key : String) :
    Holdings.KeepsKinds key contents.holdings after.holdings := by
  obtain ⟨isAfter, free⟩ := setCounters_ok done
  rw [isAfter]
  exact Holdings.keepsKinds_withCounters free key

theorem keepsKinds_setGauges {readings : KeyMap Binary64} {contents after : Contents}
    (done : contents.setGauges readings = .ok after) (key : String) :
    Holdings.KeepsKinds key contents.holdings after.holdings := by
  obtain ⟨isAfter, free⟩ := setGauges_ok done
  rw [isAfter]
  exact Holdings.keepsKinds_withGauges free key

end Contents

namespace MemoryStore

/-- One store after another, with each key under the kinds that it was under before, or under one
at most. -/
def KeepsKinds (before after : MemoryStore) : Prop :=
  ∀ key, Holdings.KeepsKinds key before.contents.holdings after.contents.holdings

theorem KeepsKinds.refl (store : MemoryStore) : KeepsKinds store store :=
  fun key => .refl key store.contents.holdings

theorem KeepsKinds.trans {before middle after : MemoryStore} (first : KeepsKinds before middle)
    (second : KeepsKinds middle after) : KeepsKinds before after :=
  fun key => (first key).trans (second key)

theorem keepsKinds_write {change : Contents → Except StorageError Contents}
    (keeps : ∀ contents after, change contents = .ok after →
      ∀ key, Holdings.KeepsKinds key contents.holdings after.holdings)
    (store : MemoryStore) : KeepsKinds store ((write change).on store).2 := by
  cases ran : (write change).on store with
  | mk answer after =>
    cases answer with
    | ok done => exact keeps _ _ (write_ok ran)
    | error problem =>
      rw [write_error ran]
      exact .refl store

end MemoryStore

namespace Storage

theorem orderly_withCurrent {file : Option Path} {store : Database}
    (orderly : (database file store).Orderly) (table : Table) :
    (database file (store.withCurrent table)).Orderly := by
  obtain ⟨connected, hasTable, _⟩ := orderly
  have seen := Database.current_withCurrent store table
  unfold Database.withCurrent at seen ⊢
  split at seen <;> split <;> first
    | exact ⟨connected, hasTable, by rw [seen]; rfl⟩
    | exact ⟨connected, rfl, by rw [seen]; rfl⟩
    | contradiction

theorem orderly_execute {file : Option Path} {store : Database}
    (orderly : (database file store).Orderly)
    (statements : Table → Except StorageError Unit × Table) :
    (database file ((Database.execute statements).on store).2).Orderly := by
  obtain ⟨table, isTable, _⟩ := table_of_isReached orderly.isReached
  rw [Database.execute_on, isTable]
  exact orderly_withCurrent orderly _

theorem orderly_executeAll {file : Option Path} {store : Database}
    (orderly : (database file store).Orderly) (rows : List (String × Value)) :
    (database file ((Database.executeAll rows).on store).2).Orderly := by
  have written := orderly_execute orderly (Table.upsert rows)
  simp only [Database.executeAll, Action.on] at written ⊢
  split
  · exact orderly
  · split
    · next result => rwa [result] at written
    · next result =>
      rw [result] at written
      split
      · exact written
      · exact orderly

/-- A turn leaves the memory backend what it is, and the kinds of keys what they are. -/
theorem memory_turn (store : MemoryStore) (turn : Turn) :
    ∃ after, (turn.action.on (memory store)).2 = memory after ∧ store.KeepsKinds after := by
  cases turn with
  | has | counter | gauge | all | start | commit | rollback | statement =>
    exact ⟨store, rfl, .refl store⟩
  | setCounter key total =>
    refine ⟨_, rfl, MemoryStore.keepsKinds_write (fun contents after done => ?_) store⟩
    rw [Contents.setCounter_eq] at done
    exact Contents.keepsKinds_setCounters done
  | setCounters totals =>
    refine ⟨((Repository.setCounters totals : Action MemoryStore Unit).on store).2, rfl, ?_⟩
    simp only [Repository.setCounters]
    split
    · exact .refl store
    · exact MemoryStore.keepsKinds_write (fun _ _ => Contents.keepsKinds_setCounters) store
  | setGauge key reading =>
    refine ⟨_, rfl, MemoryStore.keepsKinds_write (fun contents after done => ?_) store⟩
    rw [Contents.setGauge_eq] at done
    exact Contents.keepsKinds_setGauges done
  | setGauges readings =>
    refine ⟨((Repository.setGauges readings : Action MemoryStore Unit).on store).2, rfl, ?_⟩
    simp only [Repository.setGauges]
    split
    · exact .refl store
    · exact MemoryStore.keepsKinds_write (fun _ _ => Contents.keepsKinds_setGauges) store

theorem orderly_query {Answer : Type} {file : Option Path} {store : Database}
    (orderly : (database file store).Orderly) (answer : Table → Except StorageError Answer) :
    (database file ((Database.query answer).on store).2).Orderly := by
  rw [Database.query_on]
  exact orderly

theorem orderly_database_turn {file : Option Path} {store : Database}
    (orderly : (database file store).Orderly) (turn : Turn) :
    (turn.action.on (database file store)).2.Orderly := by
  obtain ⟨connected, hasTable, seesTable⟩ := id orderly
  cases turn with
  | has | counter | gauge | all => exact orderly_query orderly _
  | setCounter | setGauge | statement => exact orderly_execute orderly _
  | setCounters | setGauges => exact orderly_executeAll orderly _
  | start =>
    have started : (Repository.start : Action Database Isolation).on store =
        (.ok .full, { store with pending := some store.committed }) := by
      show (if store.connected = true then _ else _) = _
      rw [if_pos connected]
    show (database file ((Repository.start : Action Database Isolation).on store).2).Orderly
    rw [started]
    exact ⟨connected, hasTable, hasTable⟩
  | commit => exact ⟨connected, seesTable, seesTable⟩
  | rollback => exact ⟨connected, hasTable, hasTable⟩

/-- Whatever a client does in a turn, the store stays orderly. -/
theorem orderly_turn {store : Storage} (orderly : store.Orderly) (turn : Turn) :
    (turn.action.on store).2.Orderly := by
  cases store with
  | memory store =>
    obtain ⟨after, isAfter, keeps⟩ := memory_turn store turn
    rw [isAfter]
    exact fun key => (keeps key).apart (orderly key)
  | database file store => exact orderly_database_turn orderly turn

end Storage

namespace Shared

theorem memory_step (store : MemoryStore) (client : Nat → Client) (who : Nat) :
    ∃ after others, step ⟨.memory store, client⟩ who = ⟨.memory after, others⟩ ∧
      store.KeepsKinds after := by
  rw [step]
  split
  · exact ⟨store, client, rfl, .refl store⟩
  · next turn next isNext =>
    obtain ⟨after, isAfter, keeps⟩ := Storage.memory_turn store turn
    exact ⟨after, _, congrArg (Shared.mk · _) isAfter, keeps⟩

/-- However the turns of the clients fall, the kinds of keys stay what they are. -/
theorem memory_run (store : MemoryStore) (client : Nat → Client) (order : List Nat) :
    ∃ after, (run ⟨.memory store, client⟩ order).store = .memory after ∧
      store.KeepsKinds after := by
  induction order generalizing store client with
  | nil => exact ⟨store, rfl, .refl store⟩
  | cons who rest inductionHypothesis =>
    obtain ⟨middle, others, isStep, first⟩ := memory_step store client who
    obtain ⟨after, isAfter, later⟩ := inductionHypothesis middle others
    refine ⟨after, ?_, first.trans later⟩
    show (run (step ⟨.memory store, client⟩ who) rest).store = _
    rw [isStep, isAfter]

theorem orderly_step {shared : Shared} (orderly : shared.store.Orderly) (who : Nat) :
    (shared.step who).store.Orderly := by
  rw [step]
  split
  · exact orderly
  · exact Storage.orderly_turn orderly _

/-- However the turns of the clients fall, the store stays orderly. -/
theorem orderly_run {shared : Shared} (orderly : shared.store.Orderly) (order : List Nat) :
    (shared.run order).store.Orderly := by
  induction order generalizing shared with
  | nil => exact orderly
  | cons who rest inductionHypothesis => exact inductionHypothesis (orderly_step orderly who)

end Shared

/-! ### What is told about a key -/

namespace Storage

/-- A memory backend without metrics, or a database that has just been made. -/
def IsNew : Storage → Prop
  | .memory store => store.contents = .empty
  | .database _ store => store = Database.connect none

theorem IsNew.orderly {store : Storage} (isNew : store.IsNew) : store.Orderly := by
  cases store with
  | memory store =>
    have empty : store.contents = .empty := isNew
    show ∀ key, store.contents.holdings.Apart key
    rw [empty]
    exact fun key => Or.inl rfl
  | database file store =>
    obtain rfl : store = Database.connect none := isNew
    exact ⟨rfl, rfl, rfl⟩

theorem IsNew.kept_eq {store : Storage} (isNew : store.IsNew) :
    store.kept = Holdings.nothing := by
  cases store with
  | memory store =>
    have empty : store.contents = .empty := isNew
    rw [kept, empty]
    rfl
  | database file store =>
    obtain rfl : store = Database.connect none := isNew
    rfl

/-- All that a store answers about a key under which a value is held, or none. -/
def Tells (store : Storage) (key : String) : Option Value → Prop
  | none =>
    ((Repository.has key : Action Storage Bool).on store).1 = .ok false ∧
    ((Repository.counter key : Action Storage Int64).on store).1 = .error (.notFound key) ∧
    ((Repository.gauge key : Action Storage Binary64).on store).1 = .error (.notFound key) ∧
    ∃ metrics, ((Repository.all : Action Storage (KeyMap Value)).on store).1 = .ok metrics ∧
      metrics.find? key = none
  | some (.counter total) =>
    ((Repository.has key : Action Storage Bool).on store).1 = .ok true ∧
    ((Repository.counter key : Action Storage Int64).on store).1 = .ok total ∧
    ((Repository.gauge key : Action Storage Binary64).on store).1 = .error (.wrongKind key) ∧
    ∃ metrics, ((Repository.all : Action Storage (KeyMap Value)).on store).1 = .ok metrics ∧
      metrics.find? key = some (.counter total)
  | some (.gauge reading) =>
    ((Repository.has key : Action Storage Bool).on store).1 = .ok true ∧
    ((Repository.counter key : Action Storage Int64).on store).1 = .error (.wrongKind key) ∧
    ((Repository.gauge key : Action Storage Binary64).on store).1 = .ok reading ∧
    ∃ metrics, ((Repository.all : Action Storage (KeyMap Value)).on store).1 = .ok metrics ∧
      metrics.find? key = some (.gauge reading)

/-- The listing shows what is told about a key. -/
theorem Tells.listed {store : Storage} {key : String} {held : Option Value}
    (tells : store.Tells key held) :
    ∃ metrics, ((Repository.all : Action Storage (KeyMap Value)).on store).1 = .ok metrics ∧
      metrics.find? key = held := by
  rcases held with _ | total | reading
  · exact tells.2.2.2
  · exact tells.2.2.2
  · exact tells.2.2.2

theorem Tells.unique {store : Storage} {key : String} {held other : Option Value}
    (tells : store.Tells key held) (tellsOther : store.Tells key other) : held = other := by
  obtain ⟨metrics, listed, rfl⟩ := tells.listed
  obtain ⟨others, listedOther, rfl⟩ := tellsOther.listed
  rw [Except.ok.inj (listed.symm.trans listedOther)]

/-- A key under one kind, or under none, is told about as holding the value that is seen. -/
theorem tells_of_apart {store : Storage} (reached : store.isReached = true) {key : String}
    (apart : store.seen.Apart key) : store.Tells key (store.seen.value? key) := by
  obtain ⟨metrics, listed, shows⟩ := all_on reached
  have has := congrArg Prod.fst (store.has_on key)
  have counter := congrArg Prod.fst (store.counter_on key)
  have gauge := congrArg Prod.fst (store.gauge_on key)
  have all := congrArg Prod.fst listed
  have shown := shows key
  simp only [reached, if_true] at has counter gauge
  unfold Holdings.counter at counter
  unfold Holdings.gauge at gauge
  cases total : store.seen.counter? key with
  | none =>
    cases reading : store.seen.gauge? key with
    | none =>
      have isHeld : store.seen.value? key = none := by rw [Holdings.value?, total, reading]; rfl
      simp only [total, reading, isHeld] at has counter gauge shown ⊢
      exact ⟨has, counter, gauge, metrics, all, shown⟩
    | some value =>
      have isHeld : store.seen.value? key = some (.gauge value) := by
        rw [Holdings.value?, reading]; rfl
      simp only [total, reading, isHeld] at has counter gauge shown ⊢
      exact ⟨has, counter, gauge, metrics, all, shown⟩
  | some value =>
    have reading : store.seen.gauge? key = none :=
      apart.resolve_left (total ▸ Option.some_ne_none value)
    have isHeld : store.seen.value? key = some (.counter value) := by
      rw [Holdings.value?, total, reading]; rfl
    simp only [total, reading, isHeld] at has counter gauge shown ⊢
    exact ⟨has, counter, gauge, metrics, all, shown⟩

end Storage

/-- From a new store on, whatever clients do to it and however their turns fall, no key is held
under both kinds, and what is told about a key is told of one value or of none. -/
theorem Shared.tells_one_of_run {store : Storage} (isNew : store.IsNew) (client : Nat → Client)
    (order : List Nat) (key : String) :
    let after := (Shared.run ⟨store, client⟩ order).store
    (after.seen.Apart key ∧ after.kept.Apart key) ∧ ∃! held, after.Tells key held := by
  intro after
  have opening : (Shared.mk store client).store.Orderly := isNew.orderly
  have orderly : after.Orderly := orderly_run opening order
  refine ⟨⟨orderly.apart_seen key, orderly.apart_kept key⟩, after.seen.value? key, ?_, ?_⟩
  · exact Storage.tells_of_apart orderly.isReached (orderly.apart_seen key)
  · exact fun other tells =>
      tells.unique (Storage.tells_of_apart orderly.isReached (orderly.apart_seen key))

/-- Two clients find a key free, and each writes it under its own kind; the second is refused. -/
theorem Shared.tells_one_of_run_race :
    let client : Nat → Client
      | 0 => .takes (.counter "k") fun _ => .takes (.setCounter "k" 5) fun _ => .done
      | _ => .takes (.gauge "k") fun _ => .takes (.setGauge "k" ⟨1⟩) fun _ => .done
    let after := (Shared.run ⟨.memory .ephemeral, client⟩ [0, 1, 0, 1]).store
    (Storage.memory .ephemeral).IsNew ∧ after.seen.Apart "k" ∧
      ∀ held, after.Tells "k" held → held = some (.counter 5) := by
  intro client after
  have isNew : (Storage.memory .ephemeral).IsNew := rfl
  obtain ⟨⟨apart, _⟩, unique⟩ := tells_one_of_run isNew client [0, 1, 0, 1] "k"
  have first : after.Tells "k" (some (.counter 5)) := ⟨rfl, rfl, rfl, _, rfl, rfl⟩
  exact ⟨isNew, apart, fun held tells => unique.unique tells first⟩

end Metering
