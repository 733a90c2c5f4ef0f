import VolumeService.DeviceDir
import VolumeService.Lifetime
import VolumeService.System

/-! # Kernels

A kernel is a system of mount tables together with the registries of drivers that its callers hold.

* **Operations** (`Kernel.Operation`) are everything that callers can ask for, in three families:
  about nodes, about drivers and their registries, and about volumes and mount tables.  Callers may
  also send records of their own to the log.
* **Answers** (`Kernel.Answer`) bring what an operation found or made, or why it was refused.  An
  operation on a registry that does not exist is answered by `noRegistry` and changes nothing.
* **Settings of the log** (`Log.Setting`) are made between operations, by no operation itself, and
  so they are steps of a run of their own (`Kernel.Act`). -/

namespace VolumeService

/-- A change of the settings of the log. -/
inductive Log.Setting where
  | threshold (level : Level)
  | sink (sink : Option Log.Sink)
deriving DecidableEq, Repr

/-- The settings of the log after a change. -/
def Log.Config.set (config : Log.Config) : Log.Setting → Log.Config
  | .threshold level => { config with threshold := level }
  | .sink sink => { config with sink }

/-- The identity of a registry. -/
structure RegistryId where
  index : Nat
deriving DecidableEq, Repr

/-- A system and the registries that its callers hold. -/
structure Kernel (σ : Type) where
  system : System σ := {}
  registries : Store Registry := .empty

namespace Kernel

/-! ### What can be asked -/

/-- Operations on nodes. -/
inductive NodeOperation where
  | make (node : Node)
  | makeDevices (devices : List NodeId)
  | add (dir child : NodeId)
  | remove (dir : NodeId) (name : String)
  | reparent (n parent : NodeId)
  | look (n : NodeId)
  | read (n : NodeId) (offset : Nat) (buffer : List UInt8)
  | lookup (n : NodeId) (name : String)
  | lineAt (n : NodeId) (index : Nat)
  | next (n : NodeId) (cursor : Cursor)
  | resolve (root : NodeId) (path : String)
  | reclaim (holders : List NodeId)

/-- Operations on drivers and their registries. -/
inductive RegistryOperation (σ : Type) where
  | newDriver (name : String) (driver : σ)
  | create (drivers : List DriverHandle)
  | register (registry : RegistryId) (driver : DriverHandle)
  | find (registry : RegistryId) (name : String)
  | identify (registry : RegistryId) (device : NodeId)
  | list (registry : RegistryId)

/-- Operations on volumes and mount tables. -/
inductive VolumeOperation where
  | share (volume : Volume)
  | retain (v : VolumeHandle)
  | release (v : VolumeHandle)
  | idOf (v : VolumeHandle)
  | handlesOf (v : VolumeHandle)
  | openTable (root : NodeId) (registry : RegistryId)
  | closeTable (id : TableId)
  | initService (root : NodeId) (registry : RegistryId)
  | ask (target : Target) (request : Request)

/-- What callers can ask for. -/
inductive Operation (σ : Type) where
  | node (operation : NodeOperation)
  | registry (operation : RegistryOperation σ)
  | volume (operation : VolumeOperation)
  | report (record : Log.Record)

/-- What an operation answers. -/
inductive Answer where
  | done
  | node (result : Except NodeError NodeId)
  | refused (cause : NodeError)
  | looks (name : String) (kind : NodeKind) (parent : Option NodeId)
  | bytes (result : Except NodeError (Nat × List UInt8))
  | line (result : Except NodeError (Option Line))
  | next (result : Option ((UInt64 × Line) × Cursor))
  | driver (result : Option DriverHandle)
  | registry (id : RegistryId) (answers : List (Except RegistryError Unit))
  | registered (result : Except RegistryError Unit)
  | drivers (list : List DriverHandle)
  | noRegistry
  | volume (v : VolumeHandle)
  | id (id : Option VolumeId)
  | count (count : Nat)
  | table (id : TableId)
  | service (outcome : Outcome Unit)
  | reply (outcome : Option (Outcome Reply))

/-! ### What operations do -/

/-- Operations on nodes concern the graph alone. -/
def NodeOperation.apply (g : Graph) : NodeOperation → Answer × Graph
  | make node => (.node (.ok g.fresh), g.push node)
  | makeDevices devices =>
    let made := DeviceDir.createWith g devices
    (.node made.1, made.2)
  | add dir child =>
    match g.add dir child with
    | .ok g => (.done, g)
    | .error cause => (.refused cause, g)
  | remove dir name =>
    match g.remove dir name with
    | .ok (child, g) => (.node (.ok child), g)
    | .error cause => (.refused cause, g)
  | reparent n parent => (.done, g.reparent n parent)
  | look n => (.looks (g.name n) (g.kind n) (g.parent? n), g)
  | read n offset buffer => (.bytes (g.read n offset buffer), g)
  | lookup n name => (.node (g.lookup n name), g)
  | lineAt n index => (.line (g.lineAt n index), g)
  | next n cursor => (.next (cursor.next? g n), g)
  | resolve root path => (.node (Namespace.resolve g root path), g)
  | reclaim holders => (.done, g.reclaim holders)

variable {σ : Type}

/-- The shared world. -/
def world (k : Kernel σ) : World σ := k.system.world

/-- Replaces the shared world. -/
def setWorld (k : Kernel σ) (world : World σ) : Kernel σ :=
  { k with system := { k.system with world } }

/-- The settings of the log. -/
def log (k : Kernel σ) : Log.Config := k.world.log

/-- The registry behind an identity. -/
def registry? (k : Kernel σ) (id : RegistryId) : Option Registry := k.registries.get? id.index

variable [DriverModel σ]

/-- Does an operation on drivers and their registries. -/
def performRegistry (k : Kernel σ) : RegistryOperation σ → Answer × Kernel σ
  | .newDriver name driver =>
    (.driver (k.world.driverHandleFor name), k.setWorld (k.world.pushDriver driver))
  | .create drivers =>
    let call := Registry.empty.registerAll k.world drivers
    (.registry ⟨k.registries.next⟩ call.1,
      { k.setWorld call.2.2 with registries := k.registries.push call.2.1 })
  | .register id driver =>
    match k.registry? id with
    | none => (.noRegistry, k)
    | some r =>
      let call := r.register k.world driver
      (.registered call.1,
        { k.setWorld call.2.2 with
          registries := k.registries.modify id.index fun _ => call.2.1 })
  | .find id name =>
    match k.registry? id with
    | none => (.noRegistry, k)
    | some r => (.driver (r.find? name), k)
  | .identify id device =>
    match k.registry? id with
    | none => (.noRegistry, k)
    | some r =>
      let call := k.world.identifyFirst device r.drivers
      (.driver call.1, k.setWorld call.2)
  | .list id =>
    match k.registry? id with
    | none => (.noRegistry, k)
    | some r => (.drivers r.drivers, k)

/-- Does an operation on volumes and mount tables. -/
def performVolume (k : Kernel σ) : VolumeOperation → Answer × Kernel σ
  | .share volume => (.volume (k.world.handleFor volume), k.setWorld (k.world.share none))
  | .retain v => (.done, k.setWorld (k.world.retain v))
  | .release v => (.done, k.setWorld (k.world.release v))
  | .idOf v => (.id (k.world.idOf v), k)
  | .handlesOf v => (.count (k.world.handlesOf v), k)
  | .openTable root id =>
    match k.registry? id with
    | none => (.noRegistry, k)
    | some r => (.table k.system.freshTable, { k with system := k.system.openTable root r })
  | .closeTable id => (.done, { k with system := k.system.closeTable id })
  | .initService root id =>
    match k.registry? id with
    | none => (.noRegistry, k)
    | some r =>
      let call := k.system.initService root r
      (.service call.1, { k with system := call.2 })
  | .ask target request =>
    match k.system.request target request with
    | none => (.reply none, k)
    | some (outcome, system) => (.reply (some outcome), { k with system })

/-- Does an operation and answers it. -/
def perform (k : Kernel σ) : Operation σ → Answer × Kernel σ
  | .node operation =>
    let call := operation.apply k.world.graph
    (call.1, k.setWorld { k.world with graph := call.2 })
  | .registry operation => k.performRegistry operation
  | .volume operation => k.performVolume operation
  | .report record => (.done, k.setWorld (k.world.emit record))

/-! ### Runs -/

/-- What can happen next: an operation, or a change of the settings of the log. -/
inductive Act (σ : Type) where
  | operate (operation : Operation σ)
  | set (setting : Log.Setting)

/-- The operation of an act that is one. -/
def Act.operation? : Act σ → Option (Operation σ)
  | operate operation => some operation
  | set _ => none

/-- The setting of an act that is one. -/
def Act.setting? : Act σ → Option Log.Setting
  | operate _ => none
  | set setting => some setting

/-- Does acts one after the other; the answers are those of the operations among them. -/
def run (k : Kernel σ) : List (Act σ) → List Answer × Kernel σ
  | [] => ([], k)
  | .operate operation :: rest =>
    let first := k.perform operation
    let more := first.2.run rest
    (first.1 :: more.1, more.2)
  | .set setting :: rest => (k.setWorld { k.world with log := k.log.set setting }).run rest

end Kernel

end VolumeService
