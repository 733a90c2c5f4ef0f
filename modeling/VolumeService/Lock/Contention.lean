import VolumeService.Lock.Basic

/-! # Threads contending for a lock

Any number of threads, each with its own program, share one lock; a schedule says which thread
makes the next step.

* **Programs** (`Action`) are lists of taking the lock, trying to take it, reading and writing
  the value under it, and giving it back.  A write may depend on what the thread read last, so
  adding to the value is a read and a write, with room for other threads between them.
* **Steps.** Every access to the lock word is one step.  Taking the lock is an exchange; when
  it fails the thread waits, one look at the word per step, until it sees the word clear, and
  then tries the exchange again.  That exchange may also fail for no reason, when the schedule
  says so (`Turn.spurious`).
* **Guards.** `holding` says that the thread has the guard.  Reading, writing and giving back
  need it and do nothing without it.
* **Answers** list what a thread's trials and reads answered, in order. -/

namespace VolumeService

/-- One statement of a thread's program. -/
inductive Action (α : Type) where
  | lock
  | attempt
  | read
  | write (f : Option α → α)
  | unlock

/-- What a statement answered. -/
inductive Observation (α : Type) where
  | attempted (taken : Bool)
  | got (value : α)
deriving DecidableEq, Repr

/-- A thread: what is left of its program, and where it stands. -/
structure Thread (α : Type) where
  program : List (Action α)
  waiting : Bool := false
  holding : Bool := false
  lastRead : Option α := none
  answers : List (Observation α) := []

/-- Whose step is next, and whether a taking exchange fails without reason. -/
structure Turn where
  thread : Nat
  spurious : Bool := false
deriving DecidableEq, Repr

/-- A lock and the threads that share it. -/
structure Contention (α : Type) where
  lock : Lock α
  threads : List (Thread α)

namespace Thread

variable {α : Type}

/-- The thread with its current statement done. -/
def advance (t : Thread α) : Thread α := { t with program := t.program.tail }

/-- One step of a thread on the lock. -/
def step (t : Thread α) (l : Lock α) (spurious : Bool) : Thread α × Lock α :=
  match t.program.head? with
  | none => (t, l)
  | some .lock =>
    if t.waiting then ({ t with waiting := l.locked }, l)
    else if spurious then ({ t with waiting := true }, l)
    else
      match l.acquire with
      | (true, l) => ({ t.advance with holding := true }, l)
      | (false, l) => ({ t with waiting := true }, l)
  | some .attempt =>
    match l.acquire with
    | (true, l) =>
      ({ t.advance with holding := true, answers := t.answers ++ [.attempted true] }, l)
    | (false, l) => ({ t.advance with answers := t.answers ++ [.attempted false] }, l)
  | some .read =>
    if t.holding then
      ({ t.advance with lastRead := some l.value, answers := t.answers ++ [.got l.value] }, l)
    else (t.advance, l)
  | some (.write f) =>
    if t.holding then (t.advance, l.put (f t.lastRead)) else (t.advance, l)
  | some .unlock =>
    if t.holding then ({ t.advance with holding := false }, l.release) else (t.advance, l)

end Thread

namespace Contention

variable {α : Type}

/-- One step of the thread whose turn it is. -/
def step (c : Contention α) (turn : Turn) : Contention α :=
  match c.threads[turn.thread]? with
  | none => c
  | some t =>
    let next := t.step c.lock turn.spurious
    { lock := next.2, threads := c.threads.set turn.thread next.1 }

/-- Runs a schedule. -/
def run (c : Contention α) (schedule : List Turn) : Contention α := schedule.foldl step c

/-- The schedule that gives each thread in turn a number of steps in a row. -/
def oneByOne (threads steps : Nat) : List Turn :=
  (List.range threads).flatMap fun thread => List.replicate steps { thread }

/-- The program that changes the value under the lock a number of times. -/
def updating (times : Nat) (f : α → α) (initial : α) : List (Action α) :=
  (List.replicate times
    [.lock, .read, .write fun last => f (last.getD initial), .unlock]).flatten

/-- Threads that each change the value under the lock a number of times. -/
def ofUpdaters (lock : Lock α) (threads times : Nat) (f : α → α) : Contention α :=
  { lock, threads := List.replicate threads { program := updating times f lock.value } }

/-- A holder that writes a value and gives the lock back, and a thread that waits for it. -/
def ofHandoff (lock : Lock α) (value : α) : Contention α :=
  { lock
    threads := [
      { program := [.write fun _ => value, .unlock], holding := true },
      { program := [.lock, .read, .unlock] }] }

/-- The schedule of a hand-over: the waiting thread runs into the held lock first. -/
def handoffSchedule : List Turn :=
  [⟨1, false⟩, ⟨1, false⟩, ⟨0, false⟩, ⟨0, false⟩, ⟨1, false⟩, ⟨1, false⟩, ⟨1, false⟩, ⟨1, false⟩]

end Contention

end VolumeService
