import VolumeService.Graph

/-! # The device directory

* **Built-in devices.** A device directory is a directory called `dev` that starts with the
  devices `null` and `zero`.
* **Further devices** are entered one by one, in the order given; the first name that is
  taken ends it with an error.  Devices entered before that keep their link to the directory
  that is then given up. -/

namespace VolumeService

namespace DeviceDir

/-- Enters nodes into a directory in order, up to the first that is refused. -/
def addAll (g : Graph) (dir : NodeId) : List NodeId → Except NodeError Unit × Graph
  | [] => (.ok (), g)
  | child :: rest =>
    match g.add dir child with
    | .ok g => addAll g dir rest
    | .error e => (.error e, g)

/-- The identity of a new device directory, and the graph with it and its built-in devices. -/
def create (g : Graph) : NodeId × Graph :=
  let dir := g.fresh
  let g := g.push (.newDirectory "dev")
  let null := g.fresh
  let g := g.push .newNull
  let zero := g.fresh
  let g := g.push .newZero
  (dir, (addAll g dir [null, zero]).2)

/-- A new device directory with further devices. -/
def createWith (g : Graph) (devices : List NodeId) : Except NodeError NodeId × Graph :=
  let (dir, g) := create g
  match addAll g dir devices with
  | (.ok (), g) => (.ok dir, g)
  | (.error e, g) => (.error e, g)

end DeviceDir

end VolumeService
