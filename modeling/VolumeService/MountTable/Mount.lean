import VolumeService.MountTable.Basic

/-! # Mounting a device

Mounting turns a character device into a registered volume.

* **Order of checks** (`mountUsing`).  The node must be a character device; the driver must
  recognise it; a name that is given must be below the limit, and a name that is not given is
  made up; the driver must build the volume, under that name.  Only then is the volume
  registered.
* **Made-up names** (`claimName`) are `volume` and a running number.  The number is used up
  even when the driver then fails, and wraps around after 2 ^ 64 names.
* **Choice of the driver** (`mount`).  The drivers of the table are asked in order; the first
  that recognises the device is asked once more by `mountUsing`.
* **Reports.** Each failure is reported once, where it arises, and so is each success. -/

namespace VolumeService

namespace MountTable

/-- The name a mount goes under: the one given, if it is short enough, or the next made-up
one. -/
def claimName (t : MountTable) : Option String → Option (String × MountTable)
  | some name => if Name.size name < maxNameSize then some (name, t) else none
  | none => some (s!"{anonymousStem}{t.nextSuffix}", { t with nextSuffix := t.nextSuffix + 1 })

variable {σ : Type}

/-- Registers a volume that a driver built, if it has the name that was asked for. -/
def adopt (t : MountTable) (w : World σ) (device : NodeId) (driver : DriverHandle)
    (name : String) (volume : Volume) :
    Except ServiceError VolumeHandle × MountTable × World σ :=
  if volume.name = name then
    let call := t.register w volume
    let v := call.1
    let w := call.2.2
    let id := ((w.idOf v).map VolumeId.raw).getD 0
    (.ok v, call.2.1, w.notify (.mounted volume.format volume.name (w.graph.name device) id))
  else
    (.error .mountFailed, t,
      w.notify (.mountMisnamed driver.name (w.graph.name device) volume.name name))

variable [DriverModel σ]

/-- Has a driver build a volume under a name, and registers it. -/
def build (t : MountTable) (w : World σ) (device : NodeId) (driver : DriverHandle)
    (name : String) : Except ServiceError VolumeHandle × MountTable × World σ :=
  match w.mountVia driver device name with
  | (.ok volume, w) => t.adopt w device driver name volume
  | (.error cause, w) =>
    (.error .mountFailed, t,
      w.notify (.mountFailed driver.name (w.graph.name device) name cause))

/-- Mounts a device with a given driver. -/
def mountUsing (t : MountTable) (w : World σ) (device : NodeId) (driver : DriverHandle)
    (name? : Option String) : Except ServiceError VolumeHandle × MountTable × World σ :=
  if w.graph.isDevice device then
    match w.identify driver device with
    | (false, w) =>
      (.error .driverRefuses, t,
        w.notify (.mountMismatch (w.graph.name device) driver.name))
    | (true, w) =>
      match t.claimName name? with
      | none =>
        (.error .nameTooLong, t,
          w.notify (.mountNameTooLong (w.graph.name device) (Name.size (name?.getD ""))))
      | some (name, t) => t.build w device driver name
  else (.error .notADevice, t, w.notify (.mountNotDevice (w.graph.name device)))

/-- Mounts a device with the first driver of the table that recognises it. -/
def mount (t : MountTable) (w : World σ) (device : NodeId) (name? : Option String) :
    Except ServiceError VolumeHandle × MountTable × World σ :=
  if w.graph.isDevice device then
    match w.identifyFirst device t.drivers.drivers with
    | (none, w) =>
      (.error .unrecognised, t, w.notify (.mountUnrecognised (w.graph.name device)))
    | (some driver, w) => t.mountUsing w device driver name?
  else (.error .notADevice, t, w.notify (.mountNotDevice (w.graph.name device)))

end MountTable

end VolumeService
