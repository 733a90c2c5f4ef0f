import VolumeService.Cursor
import VolumeService.MountTable.Mount

/-! # The boot scan

At boot the system volume is mounted from the first usable device in `/dev`.

* **Order.** The lines of `/dev` are visited by a cursor, so in byte order of their names and
  as the directory is at each step.  A line that does not lead to a character device, or that
  no driver recognises, is passed over; one whose mount fails is passed over after the report
  of that failure.
* **Once.** The first success fills the system slot, and the slot is never emptied: later
  scans answer what is in it without looking at anything.
* **Bound.** Drivers may change `/dev` during the scan, so no bound on its length is known in
  advance.  The scan therefore takes a limit on the number of lines it reads; `none` says that
  the limit was reached with the scan unfinished. -/

namespace VolumeService

namespace MountTable

variable {σ : Type} [DriverModel σ]

/-- Tries to mount what a line of `/dev` leads to as the system volume. -/
def trySystem (t : MountTable) (w : World σ) (dev : NodeId) (name : String) :
    Option VolumeHandle × MountTable × World σ :=
  match Namespace.child? w.graph dev name with
  | none => (none, t, w)
  | some device =>
    if w.graph.isDevice device then
      match w.identifyFirst device t.drivers.drivers with
      | (none, w) => (none, t, w)
      | (some driver, w) =>
        let call := t.mountUsing w device driver (some systemName)
        (call.1.toOption, call.2)
    else (none, t, w)

/-- Fills the system slot with a volume mounted from a line of `/dev`. -/
def setSystem (t : MountTable) (w : World σ) (line : String) (v : VolumeHandle) :
    MountTable × World σ :=
  ({ t with system := some v }, (w.notify (.systemMounted line)).retain v)

/-- Visits the lines of `/dev` from a cursor on, reading at most `limit` of them. -/
def scan (dev : NodeId) :
    Nat → Cursor → MountTable → World σ →
      Option (Except ServiceError VolumeHandle) × MountTable × World σ
  | 0, _, t, w => (none, t, w)
  | limit + 1, cursor, t, w =>
    match cursor.next? w.graph dev with
    | none => (some (.error .noSystemDevice), t, w.notify .scanFruitless)
    | some ((position, line), cursor) =>
      match t.trySystem (w.notify (.scanVisits position.toNat line.name)) dev line.name with
      | (none, t, w) => scan dev limit cursor t w
      | (some v, t, w) => (some (.ok v), t.setSystem w line.name v)

/-- Mounts the system volume from `/dev`, or answers the one there is. -/
def bootScan (t : MountTable) (w : World σ) (limit : Nat) :
    Option (Except ServiceError VolumeHandle) × MountTable × World σ :=
  match t.system with
  | some v => (some (.ok v), t, (w.notify (.systemAlready v.name)).retain v)
  | none =>
    match Namespace.resolve w.graph t.root devicePath with
    | .error cause =>
      (some (.error .noDeviceDirectory), t, w.notify (.scanImpossible cause))
    | .ok dev => scan dev limit .start t w

end MountTable

end VolumeService
