/-! # Failures and their wording

Three layers fail, each with its own causes.

* **Nodes** (`NodeError`): looking up, reading and changing the namespace.
* **Driver registries** (`RegistryError`): a driver's name is already taken.
* **The volume service** (`ServiceError`): mounting, unmounting and the boot scan.  Each
  cause also has a negative status code for callers that know only numbers.

`Panic` lists the two misuses of the shared service that stop the caller. -/

namespace VolumeService

/-- Why an operation on a node failed. -/
inductive NodeError where
  | notFound
  | notADirectory
  | isADirectory
  | notSupported
  | invalidArgument
  | alreadyExists
  | ioError
deriving DecidableEq, Repr

/-- The wording of a node error. -/
def NodeError.message : NodeError → String
  | notFound => "no such file or directory"
  | notADirectory => "not a directory"
  | isADirectory => "is a directory"
  | notSupported => "operation not supported"
  | invalidArgument => "invalid argument"
  | alreadyExists => "entry already exists"
  | ioError => "I/O error"

/-- Why a driver was not taken into a registry. -/
inductive RegistryError where
  | alreadyRegistered
deriving DecidableEq, Repr

/-- The wording of a registry error. -/
def RegistryError.message : RegistryError → String
  | alreadyRegistered => "driver already registered"

/-- Why an operation of the volume service failed. -/
inductive ServiceError where
  | notADevice
  | unrecognised
  | driverRefuses
  | nameTooLong
  | mountFailed
  | noSuchVolume
  | noSystemDevice
  | noDeviceDirectory
deriving DecidableEq, Repr

namespace ServiceError

/-- The status code of a service error. -/
def code : ServiceError → Int
  | notADevice => -1
  | unrecognised => -2
  | mountFailed => -3
  | noSuchVolume => -4
  | driverRefuses => -5
  | nameTooLong => -6
  | noSystemDevice => -7
  | noDeviceDirectory => -8

/-- The wording of a service error. -/
def message : ServiceError → String
  | notADevice => "not a character device"
  | unrecognised => "no filesystem driver recognises the device"
  | driverRefuses => "driver does not recognise the device"
  | nameTooLong => "volume name too long"
  | mountFailed => "driver failed to mount the volume"
  | noSuchVolume => "volume not found"
  | noSystemDevice => "no system volume found"
  | noDeviceDirectory => "device directory not found"

end ServiceError

/-- A misuse of the shared service that stops its caller. -/
inductive Panic where
  | notInitialized
  | alreadyInitialized
deriving DecidableEq, Repr

/-- The wording of a panic. -/
def Panic.message : Panic → String
  | notInitialized => "volume manager not initialized"
  | alreadyInitialized => "volume manager already initialized"

end VolumeService
