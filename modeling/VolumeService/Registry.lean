import VolumeService.World

/-! # Registries of drivers

A registry lists drivers in the order of their registration.

* **Names are taken once.** A driver whose name the registry already has is refused with a
  warning, and the registry stays as it was.
* **Search.** A driver is found by its name, and a device is identified by asking the drivers
  in order (`World.identifyFirst`). -/

namespace VolumeService

/-- Drivers in the order of their registration. -/
structure Registry where
  drivers : List DriverHandle := []
deriving DecidableEq, Repr

namespace Registry

/-- The registry without drivers. -/
def empty : Registry := {}

/-- The names of the drivers in order. -/
def names (r : Registry) : List String := r.drivers.map DriverHandle.name

/-- How many drivers the registry has. -/
def size (r : Registry) : Nat := r.drivers.length

/-- The driver of a name. -/
def find? (r : Registry) (name : String) : Option DriverHandle :=
  r.drivers.find? fun driver => driver.name = name

variable {σ : Type}

/-- Adds a driver at the end, unless its name is taken. -/
def register (r : Registry) (w : World σ) (driver : DriverHandle) :
    Except RegistryError Unit × Registry × World σ :=
  match r.find? driver.name with
  | some _ => (.error .alreadyRegistered, r, w.notify (.driverTaken driver.name))
  | none => (.ok (), ⟨r.drivers ++ [driver]⟩, w.notify (.driverRegistered driver.name))

/-- Adds drivers one by one; the answers are in the order of the drivers. -/
def registerAll (r : Registry) (w : World σ) :
    List DriverHandle → List (Except RegistryError Unit) × Registry × World σ
  | [] => ([], r, w)
  | driver :: rest =>
    let first := r.register w driver
    let more := first.2.1.registerAll first.2.2 rest
    (first.1 :: more.1, more.2)

theorem find?_eq_none_iff {r : Registry} {name : String} :
    r.find? name = none ↔ name ∉ r.names := by
  unfold find? names
  rw [List.find?_eq_none, List.mem_map]
  simp

theorem name_of_find? {r : Registry} {name : String} {driver : DriverHandle}
    (h : r.find? name = some driver) : driver.name = name := by
  simpa using List.find?_some h

end Registry

end VolumeService
