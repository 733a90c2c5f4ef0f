import VolumeService.Error
import VolumeService.World

/-! # Answers of a session

* **Results.** A step answers with a value, or with a failure of one of the three layers, or
  with a panic of the shared service.  `bad` answers a step that names something that is not
  there or not of the right kind; such a step does nothing.
* **What else was seen.** An answer also brings the log records that reached a sink and the
  calls of drivers during the step, in order, and, after steps that are about the list of
  volumes of a table, that list. -/

namespace VolumeService.Session

/-- What one use of a cursor answered. -/
inductive CursorAnswer where
  | done
  | line (line : Option (UInt64 × Line))
  | lines (lines : List (UInt64 × Line))
  | position (position : UInt64)
  | refused (cause : NodeError)
deriving DecidableEq, Repr

/-- What one use of a lock answered. -/
inductive LockAnswer where
  | done
  | wouldSpin
  | flag (flag : Bool)
  | absent
  | number (value : Int64)
  | text (text : String)
  | closing (locked : Bool) (before after : Int64)
deriving DecidableEq, Repr

/-- A value that a step answers. -/
inductive Value where
  | done
  | absent
  | flag (flag : Bool)
  | count (count : Nat)
  | text (text : String)
  | texts (texts : List String)
  | level (level : Level)
  | size (size : Nat)
  | node (name : String) (kind : NodeKind)
  | nodeInfo (name : String) (kind : NodeKind) (isDevice : Bool) (parent : Option String)
  | bytes (count : Nat) (buffer : List UInt8)
  | line (line : Line)
  | browsed (answers : List CursorAnswer)
  | registered (answers : List (Except RegistryError Unit))
  | volume (volume : Volume) (id : Option VolumeId)
  | volumeInfo (volume : Volume) (id : Option VolumeId) (mountPoint : Option String)
      (compact layered : String)
  | volumes (list : List (Option VolumeId × String))
  | lock (answers : List LockAnswer)

/-- How a step ended. -/
inductive Result where
  | value (value : Value)
  | nodeError (cause : NodeError)
  | registryError (cause : RegistryError)
  | serviceError (cause : ServiceError)
  | panic (panic : Panic)
  | unfinished
  | bad

/-- The answer to a step. -/
structure Answer where
  result : Result
  records : List (Log.Record × Log.Sink) := []
  calls : List Event := []
  volumes : Option (List (Option VolumeId × String)) := none

end VolumeService.Session
