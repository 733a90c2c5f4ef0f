import VolumeService.Error
import VolumeService.Log
import VolumeService.Volume

/-! # What the service tells the log

`Notice` lists the events that the volume service reports.  The level and the wording of each
are decided here and nowhere else.

* **Failures** of one call are errors; failures that leave the system without its system
  volume are fatal.
* **Tolerated oddities** (a volume unmounted while handles are out, a second boot scan, a
  driver registered twice) are warnings.
* **Progress** is information, and detail of registration and of the boot scan is for
  debugging. -/

namespace VolumeService

/-- The number of bytes that a name given to a mount must stay below. -/
def maxNameSize : Nat := 255

/-- The name of the volume mounted at boot. -/
def systemName : String := "system"

/-- What comes before the number in the name of a volume mounted without a name. -/
def anonymousStem : String := "volume"

/-- The directory that is scanned at boot. -/
def devicePath : String := "/dev"

/-- An event that the volume service reports. -/
inductive Notice where
  | driverTaken (driver : String)
  | driverRegistered (driver : String)
  | mountNotDevice (device : String)
  | mountUnrecognised (device : String)
  | mountMismatch (device driver : String)
  | mountNameTooLong (device : String) (size : Nat)
  | mountFailed (driver device name : String) (cause : NodeError)
  | mountMisnamed (driver device got expected : String)
  | mounted (format volume device : String) (id : Nat)
  | notRegistered (volume : String)
  | noSuchVolume (name : String)
  | handlesOpen (name : String) (count : Nat)
  | unmounted (name : String)
  | systemAlready (volume : String)
  | scanImpossible (cause : NodeError)
  | scanVisits (position : Nat) (line : String)
  | systemMounted (line : String)
  | scanFruitless
deriving DecidableEq, Repr

namespace Notice

/-- The level at which an event is reported. -/
def level : Notice → Level
  | driverTaken _ => .warn
  | driverRegistered _ => .debug
  | mountNotDevice _ => .error
  | mountUnrecognised _ => .error
  | mountMismatch _ _ => .error
  | mountNameTooLong _ _ => .error
  | mountFailed _ _ _ _ => .error
  | mountMisnamed _ _ _ _ => .error
  | mounted _ _ _ _ => .info
  | notRegistered _ => .error
  | noSuchVolume _ => .error
  | handlesOpen _ _ => .warn
  | unmounted _ => .info
  | systemAlready _ => .warn
  | scanImpossible _ => .fatal
  | scanVisits _ _ => .debug
  | systemMounted _ => .info
  | scanFruitless => .fatal

/-- The wording of an event. -/
def text : Notice → String
  | driverTaken driver => s!"fs: driver '{driver}' already registered"
  | driverRegistered driver => s!"fs: registered driver '{driver}'"
  | mountNotDevice device => s!"volume: cannot mount '{device}': not a character device"
  | mountUnrecognised device =>
    s!"volume: cannot mount '{device}': no filesystem driver recognises it"
  | mountMismatch device driver =>
    s!"volume: cannot mount '{device}': driver '{driver}' does not recognise it"
  | mountNameTooLong device size =>
    s!"volume: cannot mount '{device}': name is {size} bytes, limit is {maxNameSize - 1}"
  | mountFailed driver device name cause =>
    s!"volume: {driver} driver failed to mount '{device}' as '{name}': {cause.message}"
  | mountMisnamed driver device got expected =>
    s!"volume: {driver} driver mounted '{device}' as '{got}', expected '{expected}'"
  | mounted format volume device id =>
    s!"volume: mounted {format} volume '{volume}' from '{device}' (id {id})"
  | notRegistered volume => s!"volume: cannot unregister '{volume}': not registered"
  | noSuchVolume name => s!"volume: cannot unmount '{name}': no such volume"
  | handlesOpen name count => s!"volume: '{name}' unmounted with {count} handle(s) still open"
  | unmounted name => s!"volume: unmounted '{name}'"
  | systemAlready volume => s!"volume: system volume already mounted as '{volume}'"
  | scanImpossible cause =>
    s!"volume: cannot scan {devicePath} for the system volume: {cause.message}"
  | scanVisits position line => s!"volume: boot scan {devicePath}[{position}] = '{line}'"
  | systemMounted line => s!"volume: system volume mounted from {devicePath}/{line}"
  | scanFruitless => s!"volume: no device in {devicePath} holds a mountable filesystem"

/-- The log record of an event. -/
def record (notice : Notice) : Log.Record := { level := notice.level, text := notice.text }

end Notice

end VolumeService
