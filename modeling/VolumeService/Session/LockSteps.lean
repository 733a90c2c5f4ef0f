import VolumeService.Lock.Contention
import VolumeService.Session.Answer
import VolumeService.Session.Step
import VolumeService.Text.Outline

/-! # What the uses of a lock do

A step about a lock makes one around a 64-bit number, uses it, and gives it up.

* **One guard.** The step keeps at most one guard (`LockUse.guarded`).  With a guard in hand,
  taking the lock again would wait for ever, and is answered as such.
* **Threads** are run as a `Contention`, one thread after the other.
* **Closing.** At the end the guard is dropped, and the step reports the lock word, the value,
  and the value after one is added. -/

namespace VolumeService.Session

/-- A lock in use: the lock, and whether the guard is in hand. -/
structure LockUse where
  lock : Lock Int64
  guarded : Bool := false
deriving DecidableEq, Repr

namespace LockUse

/-- Takes the lock if it is free, and says whether it was. -/
def take (u : LockUse) : Bool × LockUse :=
  let taken := u.lock.acquire
  (taken.1, { lock := taken.2, guarded := u.guarded || taken.1 })

/-- Drops the guard, if it is in hand. -/
def dropGuard (u : LockUse) : LockUse :=
  if u.guarded then { lock := u.lock.release, guarded := false } else u

/-- What a thread read, if it read anything. -/
def lastRead (c : Contention Int64) (thread : Nat) : Option Int64 :=
  (c.threads[thread]?).bind Thread.lastRead

/-- Hands the lock with a new value to a thread that waits for it, and lets that finish. -/
def handoff (u : LockUse) (value : Int64) : LockAnswer × LockUse :=
  let done := (Contention.ofHandoff u.lock value).run Contention.handoffSchedule
  (match lastRead done 1 with
    | some seen => .number seen
    | none => .absent,
    { lock := done.lock, guarded := false })

/-- Has threads add one under the lock, each a number of times. -/
def addInThreads (u : LockUse) (threads times : Nat) : LockAnswer × LockUse :=
  let start := Contention.ofUpdaters u.lock threads times (· + 1)
  let done := start.run (Contention.oneByOne threads (4 * times))
  (.number done.lock.value, { u with lock := done.lock })

/-- One use of the lock. -/
def step (u : LockUse) : LockStep → LockAnswer × LockUse
  | .lock => if u.guarded then (.wouldSpin, u) else (.done, u.take.2)
  | .attempt => (.flag u.take.1, u.take.2)
  | .unlock => (.flag u.guarded, u.dropGuard)
  | .get => (if u.guarded then .number u.lock.value else .absent, u)
  | .set value =>
    if u.guarded then (.done, { u with lock := u.lock.put value }) else (.absent, u)
  | .held => (.flag u.lock.locked, u)
  | .name => (.text u.lock.name, u)
  | .compact => (.text (Text.Outline.ofLock u.lock).compact, u)
  | .layered => (.text (Text.Outline.ofLock u.lock).layered, u)
  | .handoff value => if u.guarded then u.handoff value else (.absent, u)
  | .threads count times => if u.guarded then (.wouldSpin, u) else u.addInThreads count times

/-- Uses of the lock in a row. -/
def run (u : LockUse) : List LockStep → List LockAnswer × LockUse
  | [] => ([], u)
  | step :: rest =>
    let first := u.step step
    let more := first.2.run rest
    (first.1 :: more.1, more.2)

/-- The report when the lock is given up. -/
def closing (u : LockUse) : LockAnswer :=
  let u := u.dropGuard
  .closing u.lock.locked u.lock.value (u.lock.value + 1)

end LockUse

/-- The lock that a step starts with; the default is around zero. -/
def LockOrigin.lock : LockOrigin → Lock Int64
  | named name value => Lock.named name value
  | unnamed value => Lock.unnamed value
  | default => Lock.unnamed 0

/-- The answers of a step about a lock. -/
def useLock (origin : LockOrigin) (steps : List LockStep) : List LockAnswer :=
  let used := LockUse.run { lock := origin.lock } steps
  used.1 ++ [used.2.closing]

end VolumeService.Session
