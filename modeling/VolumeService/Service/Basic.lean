import VolumeService.Lock.Basic
import VolumeService.MountTable.Request

/-! # The shared volume service

One mount table serves the whole system.  It stands behind a lock, and every call of the
service is one critical section: take the lock, work on the table, give the lock back.

* **Before `init`** there is no table and a call panics; a second `init` panics as well.  A
  panic leaves the critical section like any other exit, so the lock is free afterwards.
* **A held lock** makes a call wait.  No call ends with the lock held, so this can only be
  seen by a caller that runs inside another call. -/

namespace VolumeService

/-- How a call ended. -/
inductive Outcome (α : Type) where
  | value (a : α)
  | panic (p : Panic)
  | waits
deriving DecidableEq, Repr

/-- The mount table of the system behind its lock. -/
structure Service where
  volumes : Lock (Option MountTable) := .named "VOLUMES" none
deriving DecidableEq, Repr

namespace Service

/-- The service before its first call. -/
def fresh : Service := {}

/-- The table, once there is one. -/
def table? (s : Service) : Option MountTable := s.volumes.value

/-- Makes the table of the system. -/
def init (s : Service) (root : NodeId) (drivers : Registry) : Outcome Unit × Service :=
  match s.volumes.acquire with
  | (false, _) => (.waits, s)
  | (true, held) =>
    match held.value with
    | some _ => (.panic .alreadyInitialized, ⟨held.release⟩)
    | none => (.value (), ⟨(held.put (some (.create root drivers))).release⟩)

theorem init_of_free {s : Service} (h : s.volumes.locked = false) (root : NodeId)
    (drivers : Registry) :
    s.init root drivers = match s.table? with
      | some _ => (.panic .alreadyInitialized, s)
      | none => (.value (), ⟨s.volumes.put (some (.create root drivers))⟩) := by
  obtain ⟨name, locked, value⟩ := s
  cases value <;> simp_all [init, table?, Lock.acquire, Lock.release, Lock.put]

/-- Making the table leaves the one there is, or is the end of there being none. -/
theorem table?_init (s : Service) (root : NodeId) (drivers : Registry) :
    (s.init root drivers).2.table? = s.table? ∨
      s.table? = none ∧ (s.init root drivers).2.table? = some (.create root drivers) := by
  cases hlocked : s.volumes.locked with
  | true =>
    left
    rw [init, Lock.acquire_of_held hlocked]
  | false =>
    rw [init_of_free hlocked]
    cases htable : s.table? with
    | none => exact .inr ⟨rfl, rfl⟩
    | some t => exact .inl htable

variable {σ : Type} [DriverModel σ]

/-- Has the table of the system answer a request. -/
def call (s : Service) (w : World σ) (request : Request) :
    Outcome Reply × Service × World σ :=
  match s.volumes.acquire with
  | (false, _) => (.waits, s, w)
  | (true, held) =>
    match held.value with
    | none => (.panic .notInitialized, ⟨held.release⟩, w)
    | some t =>
      let answer := t.handle w request
      (.value answer.1, ⟨(held.put (some answer.2.1)).release⟩, answer.2.2)

/-- A call on a free lock has the table answer, or panics while there is none. -/
theorem call_of_free {s : Service} (h : s.volumes.locked = false) (w : World σ)
    (request : Request) :
    s.call w request = match s.table? with
      | none => (.panic .notInitialized, s, w)
      | some t =>
        let answer := t.handle w request
        (.value answer.1, ⟨s.volumes.put (some answer.2.1)⟩, answer.2.2) := by
  obtain ⟨name, locked, value⟩ := s
  cases value <;> simp_all [call, table?, Lock.acquire, Lock.release, Lock.put]

/-- A call on a held lock waits and changes nothing. -/
theorem call_of_held {s : Service} (h : s.volumes.locked = true) (w : World σ)
    (request : Request) : s.call w request = (.waits, s, w) := by
  rw [call, Lock.acquire_of_held h]

/-- A call on a free lock with a table behind it is the table's own answer. -/
theorem call_of_table {s : Service} {t : MountTable} (hfree : s.volumes.locked = false)
    (htable : s.table? = some t) (w : World σ) (request : Request) :
    s.call w request =
      (.value (t.handle w request).1, ⟨s.volumes.put (some (t.handle w request).2.1)⟩,
        (t.handle w request).2.2) := by
  rw [call_of_free hfree, htable]

end Service

end VolumeService
