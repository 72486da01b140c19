/-
Calls that run in a transaction. The memory backend has none, so such a call is the call itself.
A database starts from what it has kept; what the call makes of it is kept when the call
succeeds, and all of it is given up when the call fails.
-/

import Metering.Proofs.Service.Checks

namespace Metering

variable {Answer : Type}

namespace Database

/-- From one moment to another: the connection stays, and what is kept stays as long as a
transaction is open. -/
structure Within (store other : Database) : Prop where
  connected : other.connected = store.connected
  opened : store.pending.isSome → other.pending.isSome
  committed : store.pending.isSome → other.committed = store.committed

theorem Within.refl (store : Database) : Within store store := ⟨rfl, id, fun _ => rfl⟩

theorem Within.trans {first second third : Database} (earlier : Within first second)
    (later : Within second third) : Within first third :=
  ⟨later.connected.trans earlier.connected, later.opened ∘ earlier.opened,
    fun isOpen => (later.committed (earlier.opened isOpen)).trans (earlier.committed isOpen)⟩

theorem within_withCurrent (store : Database) (table : Table) :
    Within store (store.withCurrent table) := by
  unfold withCurrent
  split
  · exact ⟨rfl, fun _ => rfl, fun _ => rfl⟩
  · next noneOpen =>
    exact ⟨rfl, fun isOpen => absurd isOpen noneOpen, fun isOpen => absurd isOpen noneOpen⟩

theorem within_execute (statements : Table → Except StorageError Unit × Table)
    (store : Database) : Within store ((execute statements).on store).2 := by
  simp only [execute, Action.on]
  split
  · exact within_withCurrent store _
  · exact Within.refl store

theorem within_executeAll (rows : List (String × Value)) (store : Database) :
    Within store ((executeAll rows).on store).2 := by
  have written := within_execute (Table.upsert rows) store
  simp only [executeAll, Action.on] at written ⊢
  split
  · exact Within.refl store
  · split
    · next result => rwa [result] at written
    · next result =>
      rw [result] at written
      split
      · exact written
      · exact Within.refl store

/-- The database at the start of a transaction. -/
def begun (store : Database) : Database := { store with pending := some store.committed }

/-- The database after a transaction was kept. -/
def confirmed (store : Database) : Database :=
  { store with committed := store.current, pending := none }

/-- The database after a transaction was given up. -/
def undone (store : Database) : Database := { store with pending := none }

/-- Giving up a transaction gives up all that was done in it. -/
theorem undone_of_within {store other : Database} (within : Within store.begun other) :
    other.undone = store.undone := by
  have connected := within.connected
  have committed := within.committed rfl
  simp only [begun] at connected committed
  simp only [undone, connected, committed]

end Database

namespace Storage

/-! ### Moments of a transaction -/

/-- From one moment of a transaction to another. -/
def Within : Storage → Storage → Prop
  | .memory _, .memory _ => True
  | .database file store, .database otherFile other =>
    otherFile = file ∧ Database.Within store other
  | _, _ => False

/-- Whether a transaction can be opened. -/
def connected : Storage → Bool
  | .memory _ => true
  | .database _ store => store.connected

/-- The store at the start of a transaction. -/
def begun : Storage → Storage
  | .memory store => .memory store
  | .database file store => .database file store.begun

/-- The store after a transaction was kept. -/
def confirmed : Storage → Storage
  | .memory store => .memory store
  | .database file store => .database file store.confirmed

/-- The store after a transaction was given up, as far as the backend can. -/
def undone : Storage → Storage
  | .memory store => .memory store
  | .database file store => .database file store.undone

theorem Within.refl (store : Storage) : Within store store := by
  cases store with
  | memory store => trivial
  | database file store => exact ⟨rfl, Database.Within.refl store⟩

theorem Within.trans (first second third : Storage) (earlier : Within first second)
    (later : Within second third) : Within first third := by
  cases first <;> cases second <;> cases third <;>
    first
      | trivial
      | exact earlier.elim
      | exact later.elim
      | exact ⟨later.1.trans earlier.1, earlier.2.trans later.2⟩

theorem within_of_eq {store other : Storage} (same : other = store) : Within store other :=
  same ▸ Within.refl store

theorem within_either {onMemory : Action MemoryStore Answer}
    {onDatabase : Action Database Answer}
    (within : ∀ store, Database.Within store (onDatabase.on store).2) (store : Storage) :
    Within store ((either onMemory onDatabase).on store).2 := by
  cases store with
  | memory store => trivial
  | database file store => exact ⟨rfl, within store⟩

theorem stored_of_within {store other : Storage} (within : Within store other) :
    other.stored = store.stored := by
  cases store <;> cases other <;> first | rfl | exact within.elim

theorem stored_begun (store : Storage) : store.begun.stored = store.stored := by
  cases store <;> rfl

theorem stored_confirmed (store : Storage) : store.confirmed.stored = store.stored := by
  cases store <;> rfl

theorem stored_undone (store : Storage) : store.undone.stored = store.stored := by
  cases store <;> rfl

/-- A transaction starts from what is kept. -/
theorem seen_begun (store : Storage) : store.begun.seen = store.kept := by
  cases store <;> rfl

/-- A transaction that is kept keeps what was seen last. -/
theorem kept_confirmed (store : Storage) : store.confirmed.kept = store.seen := by
  cases store <;> rfl

theorem kept_undone (store : Storage) : store.undone.kept = store.kept := by
  cases store <;> rfl

theorem begun_undone (store : Storage) : store.undone.begun = store.begun := by
  cases store <;> rfl

theorem connected_undone (store : Storage) : store.undone.connected = store.connected := by
  cases store <;> rfl

/-- On a backend with transactions nothing is left of one that was given up; on the other one
what was done stays. -/
theorem undone_of_within {store other : Storage} (within : Within store.begun other) :
    other.undone = store.undone ∨ ∃ start done, store = .memory start ∧ other = .memory done := by
  cases store with
  | memory start =>
    cases other with
    | memory done => exact Or.inr ⟨start, done, rfl, rfl⟩
    | database file other => exact within.elim
  | database file start =>
    cases other with
    | memory done => exact within.elim
    | database otherFile other =>
      obtain ⟨rfl, inside⟩ := within
      exact Or.inl (congrArg (Storage.database otherFile) (Database.undone_of_within inside))

end Storage

namespace Service

open Storage (Within)

/-! ### Calls in a transaction -/

theorem start_of_connected {store : Storage} (connected : store.connected = true) :
    ∃ isolation, storing Repository.start store = (.ok isolation, store.begun) := by
  cases store with
  | memory store => exact ⟨.none, rfl⟩
  | database file store =>
    obtain ⟨isConnected, committed, pending⟩ := store
    cases (connected : isConnected = true)
    exact ⟨.full, rfl⟩

theorem start_of_not_connected {store : Storage} (connected : store.connected = false) :
    storing (Repository.start : Action Storage Isolation) store =
      (.error (.storage .database), store) := by
  cases store with
  | memory store => cases connected
  | database file store =>
    obtain ⟨isConnected, committed, pending⟩ := store
    cases (connected : isConnected = false)
    rfl

theorem storing_commit (store : Storage) :
    storing (Repository.commit : Action Storage Unit) store = (.ok (), store.confirmed) := by
  cases store <;> rfl

theorem rollback_snd (store : Storage) :
    ((Repository.rollback : Action Storage Unit).on store).2 = store.undone := by
  cases store <;> rfl

/-- What a call in a transaction comes to. -/
theorem inTransaction_apply (call : Call Storage Answer) (store : Storage) :
    inTransaction call store =
      if store.connected then
        match call store.begun with
        | (.ok answer, done) => (.ok answer, done.confirmed)
        | (.error problem, failed) => (.error problem, failed.undone)
      else (.error (.storage .database), store) := by
  rw [inTransaction, Call.bind_apply]
  cases connected : store.connected with
  | false => rw [start_of_not_connected connected]; rfl
  | true =>
    obtain ⟨isolation, started⟩ := start_of_connected connected
    rw [started, if_pos rfl]
    cases called : call store.begun with
    | mk result middle =>
      cases result with
      | ok answer => simp only [called, Call.bind_apply, storing_commit]; rfl
      | error problem => simp only [called, rollback_snd]

theorem inTransaction_ok {call : Call Storage Answer} {store after : Storage} {answer : Answer}
    (done : inTransaction call store = (.ok answer, after)) :
    ∃ middle, call store.begun = (.ok answer, middle) ∧ after = middle.confirmed := by
  rw [inTransaction_apply] at done
  split at done
  · split at done
    · next value middle called =>
      obtain ⟨isAnswer, isAfter⟩ := Prod.mk.inj done
      exact ⟨middle, by rw [called, Except.ok.inj isAnswer], isAfter.symm⟩
    · cases done
  · cases done

theorem inTransaction_error {call : Call Storage Answer} {store after : Storage}
    {problem : ServiceError} (failed : inTransaction call store = (.error problem, after)) :
    after = store ∨ ∃ middle, call store.begun = (.error problem, middle) ∧
      after = middle.undone := by
  rw [inTransaction_apply] at failed
  split at failed
  · split at failed
    · cases failed
    · next other middle called =>
      obtain ⟨isProblem, isAfter⟩ := Prod.mk.inj failed
      exact Or.inr ⟨middle, by rw [called, Except.error.inj isProblem], isAfter.symm⟩
  · exact Or.inl (Prod.mk.inj failed).2.symm

/-- Giving up a transaction does not change what a call in another one answers. -/
theorem inTransaction_undone_fst (call : Call Storage Answer) (store : Storage) :
    (inTransaction call store.undone).1 = (inTransaction call store).1 := by
  rw [inTransaction_apply, inTransaction_apply, Storage.connected_undone, Storage.begun_undone]
  split
  · rfl
  · rfl

/-- A call in a transaction does not change the kind of backend. -/
theorem stored_inTransaction {call : Call Storage Answer} (within : Call.Keeps Within call)
    (store : Storage) : (inTransaction call store).2.stored = store.stored := by
  have inside := Storage.stored_of_within (within store.begun)
  rw [Storage.stored_begun] at inside
  rw [inTransaction_apply]
  split
  · split
    · next called => rw [called] at inside; exact (Storage.stored_confirmed _).trans inside
    · next called => rw [called] at inside; exact (Storage.stored_undone _).trans inside
  · rfl

/-! ### The calls stay within their transactions -/

theorem within_setCounter (key : String) (total : Int64) :
    Call.Keeps Within (storing (Repository.setCounter key total)) :=
  keeps_storing (Storage.within_either (Database.within_execute _))

theorem within_setCounters (totals : KeyMap Int64) :
    Call.Keeps Within (storing (Repository.setCounters totals)) :=
  keeps_storing (Storage.within_either (Database.within_executeAll _))

theorem within_setGauge (key : String) (reading : Binary64) :
    Call.Keeps Within (storing (Repository.setGauge key reading)) :=
  keeps_storing (Storage.within_either (Database.within_execute _))

theorem within_setGauges (readings : KeyMap Binary64) :
    Call.Keeps Within (storing (Repository.setGauges readings)) :=
  keeps_storing (Storage.within_either (Database.within_executeAll _))

theorem within_apply (update : Update) : Call.Keeps Within (apply update) := by
  unfold apply
  split
  · exact Call.keeps_bind Within.trans (within_setGauge _ _) fun _ =>
      Call.keeps_pure Within.refl _
  · exact Call.keeps_bind Within.trans
      (fun store => Storage.within_of_eq (newTotal_snd _ _ store)) fun total =>
        Call.keeps_bind Within.trans (within_setCounter _ _) fun _ =>
          Call.keeps_pure Within.refl _

theorem within_applyBatch (batch : Batch) : Call.Keeps Within (applyBatch batch) :=
  Call.keeps_bind Within.trans
    (fun store => Storage.within_of_eq (newTotals_snd batch.deltas store)) fun totals =>
      Call.keeps_bind Within.trans
        (fun store => Storage.within_of_eq (requireGauges_snd batch.gauges.keys store)) fun _ =>
          Call.keeps_bind Within.trans (within_setCounters totals) fun _ =>
            within_setGauges batch.gauges

/-! ### What callers are told -/

theorem read_apply (kind : Kind) (key : String) (store : Storage) :
    read kind key store =
      ((if store.isReached then store.seen.read key kind else .error .database).mapError
        ServiceError.storage, store) := by
  cases kind with
  | counter =>
    rw [read, Call.bind_apply, storing_apply, Storage.counter_on, Holdings.read]
    cases store.isReached with
    | false => rfl
    | true => rcases store.seen.counter key with _ | _ <;> rfl
  | gauge =>
    rw [read, Call.bind_apply, storing_apply, Storage.gauge_on, Holdings.read]
    cases store.isReached with
    | false => rfl
    | true => rcases store.seen.gauge key with _ | _ <;> rfl

/-- A caller who asks for a value is told what is kept, if the store can be reached. -/
theorem value_fst (kind : Kind) (key : String) (store : Storage) :
    (value kind key store).1 =
      (if store.connected && store.begun.isReached then store.kept.read key kind
        else .error .database).mapError ServiceError.storage := by
  rw [value, inTransaction_apply, read_apply, Storage.seen_begun]
  cases store.connected with
  | false => rfl
  | true =>
    simp only [if_true, Bool.true_and]
    cases store.begun.isReached with
    | false => rfl
    | true => rcases store.kept.read key kind with _ | _ <;> rfl

end Service

end Metering
