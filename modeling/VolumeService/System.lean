import VolumeService.Service.Basic

/-! # Systems of mount tables

A system is a shared world with any number of mount tables on it, and the shared service.

* **Tables** are opened over a root with a copy of a registry, and closed; a table that is
  closed lets go of its volumes, which keep the ids they have.
* **Requests** go to a table or to the service (`Target`). -/

namespace VolumeService

/-- The identity of a mount table. -/
structure TableId where
  index : Nat
deriving DecidableEq, Repr

/-- Who answers a request. -/
inductive Target where
  | service
  | table (id : TableId)
deriving DecidableEq, Repr

/-- A shared world, the mount tables on it, and the shared service. -/
structure System (σ : Type) where
  world : World σ := {}
  tables : Store MountTable := .empty
  service : Service := .fresh

namespace System

variable {σ : Type}

/-- Changes the shared world. -/
def modifyWorld (s : System σ) (f : World σ → World σ) : System σ :=
  { s with world := f s.world }

/-- The table behind an identity. -/
def table? (s : System σ) (id : TableId) : Option MountTable := s.tables.get? id.index

/-- The identity that the next opened table gets. -/
def freshTable (s : System σ) : TableId := ⟨s.tables.next⟩

/-- Opens an empty table over a root, under the identity `freshTable`. -/
def openTable (s : System σ) (root : NodeId) (drivers : Registry) : System σ :=
  { s with tables := s.tables.push (.create root drivers) }

/-- Closes a table. -/
def closeTable (s : System σ) (id : TableId) : System σ :=
  match s.table? id with
  | none => s
  | some t => { s with world := t.releaseAll s.world, tables := s.tables.free id.index }

/-- Makes the table of the shared service. -/
def initService (s : System σ) (root : NodeId) (drivers : Registry) : Outcome Unit × System σ :=
  let call := s.service.init root drivers
  (call.1, { s with service := call.2 })

/-- The table that answers for a target, if there is one. -/
def tableOf (s : System σ) : Target → Option MountTable
  | .service => s.service.table?
  | .table id => s.table? id

variable [DriverModel σ]

/-- Has a target answer a request; `none` if the target is a table that does not exist. -/
def request (s : System σ) (target : Target) (r : Request) : Option (Outcome Reply × System σ) :=
  match target with
  | .service =>
    let call := s.service.call s.world r
    some (call.1, { s with service := call.2.1, world := call.2.2 })
  | .table id =>
    (s.table? id).map fun t =>
      let answer := t.handle s.world r
      (.value answer.1,
        { s with
          world := answer.2.2
          tables := s.tables.modify id.index fun _ => answer.2.1 })

end System

end VolumeService
