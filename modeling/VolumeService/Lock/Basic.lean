/-! # The lock word and the value it protects

A lock is a word that says whether it is held, a value that only the holder may touch, and a
name for inspection.

* **Taking** (`acquire`) sets the word if it was clear and says whether it did; this is
  one indivisible step.
* **Giving back** (`release`) clears the word.
* The value is changed by `put`; that the lock is held at that time is the business of who
  calls it. -/

namespace VolumeService

/-- A lock around a value. -/
structure Lock (α : Type) where
  name : String
  locked : Bool
  value : α
deriving DecidableEq, Repr

namespace Lock

variable {α : Type}

/-- A free lock with a name. -/
def named (name : String) (value : α) : Lock α := { name, locked := false, value }

/-- A free lock without a name of its own. -/
def unnamed (value : α) : Lock α := named "<unnamed>" value

/-- Sets the word if it was clear; says whether it did. -/
def acquire (l : Lock α) : Bool × Lock α :=
  if l.locked then (false, l) else (true, { l with locked := true })

/-- Clears the word. -/
def release (l : Lock α) : Lock α := { l with locked := false }

/-- Replaces the value. -/
def put (l : Lock α) (value : α) : Lock α := { l with value }

theorem acquire_of_free {l : Lock α} (h : l.locked = false) :
    l.acquire = (true, { l with locked := true }) := by
  simp [acquire, h]

theorem acquire_of_held {l : Lock α} (h : l.locked = true) :
    l.acquire = (false, l) := by
  simp [acquire, h]

end Lock

end VolumeService
