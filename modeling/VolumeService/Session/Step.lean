import VolumeService.Driver.Scripted
import VolumeService.MountTable.Request
import VolumeService.System

/-! # Steps of a session

A session is a run of steps over things that are kept under labels.  This module says what a
step can ask for; `Session.Run` says what it does.

* **Labels** name what earlier steps made.  A step that makes something keeps it under the
  label of its `Command`, if that has one.
* **Families.** Steps are grouped by what they are about: nodes, drivers and registries,
  volumes, mount tables and the service, labels themselves, the log, and a lock of their own.
* **Tables.** A step for a mount table goes to a labelled table or to the shared service
  (`TableRef`), and so does a step that only asks for drivers (`DriverSource`). -/

namespace VolumeService.Session

/-- The name under which a session keeps something. -/
abbrev Label := String

/-- A labelled mount table, or the shared service. -/
inductive TableRef where
  | service
  | label (label : Label)
deriving DecidableEq, Repr

/-- One use of a cursor over a listing, or a change of a directory between two uses. -/
inductive CursorStep where
  | next
  | rest
  | position
  | rewind
  | seek (position : UInt64)
  | add (dir child : Label)
  | remove (dir : Label) (name : String)
deriving DecidableEq, Repr

/-- Steps about nodes. -/
inductive NodeStep where
  | newDirectory (name : String)
  | newNull
  | newZero
  | newImage (name : String) (bytes : List UInt8)
  | newBare (name : String) (kind : NodeKind) (readFault : Option NodeError)
  | newFixed (name : String) (listing : List (Except NodeError Line))
      (links : List (String × Except NodeError Label))
  | newDevices (devices : List Label)
  | add (dir child : Label)
  | remove (dir : Label) (name : String)
  | info (node : Label)
  | read (node : Label) (offset size : Nat)
  | lineAt (node : Label) (index : Nat)
  | line (node : Label) (index : Nat)
  | lookup (node : Label) (name : String)
  | child (node : Label) (name : String)
  | parent (node : Label)
  | reparent (node parent : Label)
  | resolve (root : Label) (path : String)
  | browse (node : Label) (steps : List CursorStep)

/-- Steps about drivers and registries. -/
inductive DriverStep where
  | newDriver (name format : String) (identify : IdentifyRule) (mount : MountRule Label)
      (effects : List (Effect Label))
  | tune (driver : Label) (identify : Option IdentifyRule) (mount : Option (MountRule Label))
  | newRegistry (drivers : List Label)
  | register (registry driver : Label)
  | find (source : TableRef) (name : String)
  | identify (source : TableRef) (device : Label)
  | names (source : TableRef)

/-- Steps about volumes. -/
inductive VolumeStep where
  | newVolume (format : String) (mountPoint : Label)
  | newTreeless (format name : String)
  | share (volume : Label)
  | inspect (volume : Label)
  | mountPoint (volume : Label)
  | handles (volume : Label)

/-- Steps about mount tables and the shared service. -/
inductive TableStep where
  | newTable (root registry : Label)
  | initService (root registry : Label)
  | mount (table : TableRef) (device : Label) (name : Option String)
  | mountUsing (table : TableRef) (device driver : Label) (name : Option String)
  | unmount (table : TableRef) (name : String)
  | register (table : TableRef) (volume : Label)
  | unregister (table : TableRef) (volume : Label)
  | addDriver (table : TableRef) (driver : Label)
  | bootScan (table : TableRef)
  | systemVolume (table : TableRef)
  | find (table : TableRef) (name : String)
  | findId (table : TableRef) (id : Nat)
  | resolve (table : TableRef) (path : String)
  | root (table : TableRef)
  | volumes (table : TableRef)
  | race (device : Label) (workers rounds : Nat) (unmounts : Bool)

/-- Steps about labels. -/
inductive LabelStep where
  | size (of : Label)
  | same (a b : Label)
  | drop (of : Label)
  | clone (of : Label)

/-- Steps about the log. -/
inductive LogStep where
  | log (level : Level) (text : String)
  | setThreshold (level : Level)
  | threshold
  | setSink (sink : Log.Sink)

/-- How a lock around a 64-bit number is made. -/
inductive LockOrigin where
  | named (name : String) (value : Int64)
  | unnamed (value : Int64)
  | default
deriving DecidableEq, Repr

/-- One use of a lock around a 64-bit number. -/
inductive LockStep where
  | lock
  | attempt
  | unlock
  | get
  | set (value : Int64)
  | held
  | name
  | compact
  | layered
  | handoff (value : Int64)
  | threads (count times : Nat)
deriving DecidableEq, Repr

/-- A step of a session. -/
inductive Step where
  | node (step : NodeStep)
  | driver (step : DriverStep)
  | volume (step : VolumeStep)
  | table (step : TableStep)
  | label (step : LabelStep)
  | log (step : LogStep)
  | lock (origin : LockOrigin) (steps : List LockStep)

/-- A step and the label for what it makes. -/
structure Command where
  step : Step
  label : Option Label := none

end VolumeService.Session
