import VolumeService.Volume

/-! # File system drivers

A driver recognises its format on a device and builds a volume from such a device.

* **Any driver.** `DriverModel σ` makes the values of `σ` the inner states of drivers: each
  call sees the graph of nodes and answers together with the driver's next state and the graph
  as the driver leaves it.  Nothing is assumed about answers, so drivers that change their
  mind, or change directories, are drivers too.
* **Handles.** A driver's name never changes, so the handle carries it; `cell` tells drivers
  apart. -/

namespace VolumeService

/-- The values of `σ` are the inner states of drivers. -/
class DriverModel (σ : Type) where
  /-- Does the driver recognise what is on the device? -/
  identify : σ → Graph → NodeId → Bool × σ × Graph
  /-- Builds a volume from the device under the name asked for. -/
  mount : σ → Graph → NodeId → String → Except NodeError Volume × σ × Graph

/-- A handle to a driver. -/
structure DriverHandle where
  name : String
  cell : CellId
deriving DecidableEq, Repr

end VolumeService
