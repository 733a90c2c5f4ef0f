import VolumeService.Driver
import VolumeService.Notice

/-! # The shared world

`World σ` gathers everything that the parts of the system share and change: the graph of
nodes, the cells of shared volumes, the states of drivers (of kind `σ`) and the log.

* **Trace.** Every record that is logged and every call of a driver is appended to `trace`, in
  order.  A record's entry says which sink it reached, if any; what the filter holds back is
  in the trace all the same.
* **Handles.** `share` makes a cell with its first handle, `retain` adds a handle and
  `release` takes one away.
* **Driver calls** go through `identify` and `mountVia`, which move the driver's state and
  the graph on and note the call. -/

namespace VolumeService

/-- Something that happened and that the outside can see. -/
inductive Event where
  /-- A record was logged; it reached the given sink, or none. -/
  | record (record : Log.Record) (sink : Option Log.Sink)
  /-- A driver was asked whether it recognises a device. -/
  | identify (driver device : String) (answer : Bool)
  /-- A driver was asked to build a volume. -/
  | mount (driver device name : String)
deriving DecidableEq, Repr

/-- Everything that is shared and changes. -/
structure World (σ : Type) where
  graph : Graph := .empty
  cells : Store VolumeCell := .empty
  drivers : Store σ := .empty
  log : Log.Config := {}
  trace : List Event := []

namespace World

variable {σ : Type}

/-! ### The log -/

/-- Logs a record. -/
def emit (w : World σ) (record : Log.Record) : World σ :=
  { w with trace := w.trace ++ [.record record (w.log.recipient record.level)] }

/-- Reports an event of the service. -/
def notify (w : World σ) (notice : Notice) : World σ := w.emit notice.record

/-! ### Shared volumes -/

/-- The cell behind a handle. -/
def cell? (w : World σ) (v : VolumeHandle) : Option VolumeCell := w.cells.get? v.cell.index

/-- The id of a shared volume. -/
def idOf (w : World σ) (v : VolumeHandle) : Option VolumeId := (w.cell? v).bind VolumeCell.id

/-- How many handles a shared volume has. -/
def handlesOf (w : World σ) (v : VolumeHandle) : Nat :=
  ((w.cell? v).map VolumeCell.handles).getD 0

/-- The first handle to a volume that becomes shared. -/
def handleFor (w : World σ) (volume : Volume) : VolumeHandle := ⟨volume, ⟨w.cells.next⟩⟩

/-- Makes the cell of a volume that becomes shared, with an id or without. -/
def share (w : World σ) (id : Option VolumeId) : World σ :=
  { w with cells := w.cells.push { id, handles := 1 } }

/-- Changes the cell behind a handle. -/
def modifyCell (w : World σ) (v : VolumeHandle) (f : VolumeCell → VolumeCell) : World σ :=
  { w with cells := w.cells.modify v.cell.index f }

/-- One more handle to a shared volume. -/
def retain (w : World σ) (v : VolumeHandle) : World σ :=
  w.modifyCell v fun cell => { cell with handles := cell.handles + 1 }

/-- One handle less to a shared volume. -/
def release (w : World σ) (v : VolumeHandle) : World σ :=
  w.modifyCell v fun cell => { cell with handles := cell.handles - 1 }

/-- Takes the id of a shared volume away. -/
def clearId (w : World σ) (v : VolumeHandle) : World σ :=
  w.modifyCell v fun cell => { cell with id := none }

/-! ### Mount points -/

/-- Points the mount point of a volume, if it has one, at a parent. -/
def linkMountPoint (w : World σ) (volume : Volume) (parent : NodeId) : World σ :=
  match volume.mountPoint with
  | some n => { w with graph := w.graph.reparent n parent }
  | none => w

/-! ### Drivers -/

/-- The handle to a driver that is about to be added. -/
def driverHandleFor (w : World σ) (name : String) : DriverHandle := ⟨name, ⟨w.drivers.next⟩⟩

/-- Adds a driver in the given state. -/
def pushDriver (w : World σ) (driver : σ) : World σ :=
  { w with drivers := w.drivers.push driver }

variable [DriverModel σ]

/-- Asks a driver whether it recognises a device. -/
def identify (w : World σ) (driver : DriverHandle) (device : NodeId) : Bool × World σ :=
  match w.drivers.get? driver.cell.index with
  | none => (false, w)
  | some state =>
    let call := DriverModel.identify state w.graph device
    (call.1,
      { w with
        graph := call.2.2
        drivers := w.drivers.modify driver.cell.index fun _ => call.2.1
        trace := w.trace ++ [.identify driver.name (w.graph.name device) call.1] })

/-- Asks drivers in order, up to the first that recognises the device. -/
def identifyFirst (w : World σ) (device : NodeId) :
    List DriverHandle → Option DriverHandle × World σ
  | [] => (none, w)
  | driver :: rest =>
    match w.identify driver device with
    | (true, w) => (some driver, w)
    | (false, w) => w.identifyFirst device rest

/-- Asks a driver to build a volume from a device. -/
def mountVia (w : World σ) (driver : DriverHandle) (device : NodeId) (name : String) :
    Except NodeError Volume × World σ :=
  match w.drivers.get? driver.cell.index with
  | none => (.error .ioError, w)
  | some state =>
    let call := DriverModel.mount state w.graph device name
    (call.1,
      { w with
        graph := call.2.2
        drivers := w.drivers.modify driver.cell.index fun _ => call.2.1
        trace := w.trace ++ [.mount driver.name (w.graph.name device) name] })

/-! ### What the operations leave alone -/

section frame

omit [DriverModel σ]

@[simp] theorem cells_notify (w : World σ) (n : Notice) : (w.notify n).cells = w.cells := rfl
@[simp] theorem log_notify (w : World σ) (n : Notice) : (w.notify n).log = w.log := rfl

theorem cell?_share_handleFor (w : World σ) (volume : Volume) (id : Option VolumeId) :
    (w.share id).cell? (w.handleFor volume) = some { id, handles := 1 } := by
  simp [cell?, share, handleFor]

theorem cell?_share_of_ne {w : World σ} {volume : Volume} {u : VolumeHandle}
    (h : ¬ (w.handleFor volume).Same u) (id : Option VolumeId) :
    (w.share id).cell? u = w.cell? u := by
  have hne : u.cell.index ≠ w.cells.next := fun he => h (congrArg CellId.mk he.symm)
  rw [cell?, share, Store.get?_push, if_neg hne, cell?]

@[simp] theorem cells_linkMountPoint (w : World σ) (volume : Volume) (parent : NodeId) :
    (w.linkMountPoint volume parent).cells = w.cells := by
  unfold linkMountPoint
  split <;> rfl

theorem cell?_modifyCell (w : World σ) (v u : VolumeHandle) (f : VolumeCell → VolumeCell) :
    (w.modifyCell v f).cell? u = if v.Same u then (w.cell? u).map f else w.cell? u := by
  obtain ⟨_, i⟩ := v
  obtain ⟨_, j⟩ := u
  obtain ⟨i⟩ := i
  obtain ⟨j⟩ := j
  unfold cell? modifyCell VolumeHandle.Same
  rw [Store.get?_modify]
  simp

/-- A volume that has yet to be shared has no id. -/
theorem idOf_of_next_le {w : World σ} {v : VolumeHandle} (h : w.cells.next ≤ v.cell.index) :
    w.idOf v = none := by
  rw [idOf, cell?, Store.get?_eq_none_of_next_le h]
  rfl

theorem idOf_clearId (w : World σ) (v u : VolumeHandle) :
    (w.clearId v).idOf u = if v.Same u then none else w.idOf u := by
  unfold idOf clearId
  rw [cell?_modifyCell]
  split
  · cases w.cell? u <;> rfl
  · rfl

theorem idOf_retain (w : World σ) (v u : VolumeHandle) : (w.retain v).idOf u = w.idOf u := by
  unfold idOf retain
  rw [cell?_modifyCell]
  split
  · cases w.cell? u <;> rfl
  · rfl

theorem idOf_release (w : World σ) (v u : VolumeHandle) : (w.release v).idOf u = w.idOf u := by
  unfold idOf release
  rw [cell?_modifyCell]
  split
  · cases w.cell? u <;> rfl
  · rfl

end frame

end World

end VolumeService
