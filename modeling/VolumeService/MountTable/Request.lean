import VolumeService.MountTable.Boot
import VolumeService.MountTable.Resolve

/-! # Requests to a mount table

`Request` lists everything that can be asked of a mount table and `handle` answers it, so that
a history of a table is a list of requests.

* **Answers** are of one type, `Reply`; a volume in a reply is a handle that now belongs to
  the caller.
* **Lists** (`Request.volumes`) hand out a handle to each listed volume. -/

namespace VolumeService

/-- What can be asked of a mount table. -/
inductive Request where
  | mount (device : NodeId) (name? : Option String)
  | mountUsing (device : NodeId) (driver : DriverHandle) (name? : Option String)
  | unmount (name : String)
  | register (volume : Volume)
  | unregister (volume : VolumeHandle)
  | addDriver (driver : DriverHandle)
  | bootScan (limit : Nat)
  | systemVolume
  | find (name : String)
  | findId (id : VolumeId)
  | resolve (path : String)
  | root
  | volumes
  | identify (device : NodeId)
  | findDriver (name : String)
  | drivers
deriving DecidableEq, Repr

/-- What a mount table answers. -/
inductive Reply where
  | volume (result : Except ServiceError VolumeHandle)
  | found (result : Option VolumeHandle)
  | node (result : Except NodeError NodeId)
  | registered (result : Except RegistryError Unit)
  | volumes (list : List VolumeHandle)
  | driver (result : Option DriverHandle)
  | drivers (list : List DriverHandle)
  | unfinished

namespace MountTable

variable {σ : Type} [DriverModel σ]

/-- Answers a request. -/
def handle (t : MountTable) (w : World σ) : Request → Reply × MountTable × World σ
  | .mount device name? =>
    let call := t.mount w device name?
    (.volume call.1, call.2)
  | .mountUsing device driver name? =>
    let call := t.mountUsing w device driver name?
    (.volume call.1, call.2)
  | .unmount name =>
    let call := t.unmount w name
    (.volume call.1, call.2)
  | .register volume =>
    let call := t.register w volume
    (.volume (.ok call.1), call.2)
  | .unregister v =>
    let call := t.unregister w v
    (.volume call.1, call.2)
  | .addDriver driver =>
    let call := t.addDriver w driver
    (.registered call.1, call.2)
  | .bootScan limit =>
    let call := t.bootScan w limit
    match call.1 with
    | some result => (.volume result, call.2)
    | none => (.unfinished, call.2)
  | .systemVolume =>
    let call := t.systemVolume w
    (.found call.1, t, call.2)
  | .find name =>
    let call := t.find w name
    (.found call.1, t, call.2)
  | .findId id =>
    let call := t.findId w id
    (.found call.1, t, call.2)
  | .resolve path => (.node (t.resolve w.graph path), t, w)
  | .root => (.node (.ok t.root), t, w)
  | .volumes =>
    let call := t.snapshot w
    (.volumes call.1, t, call.2)
  | .identify device =>
    let call := w.identifyFirst device t.drivers.drivers
    (.driver call.1, t, call.2)
  | .findDriver name => (.driver (t.drivers.find? name), t, w)
  | .drivers => (.drivers t.drivers.drivers, t, w)

/-- Answers requests one after the other. -/
def handleAll (t : MountTable) (w : World σ) : List Request → List Reply × MountTable × World σ
  | [] => ([], t, w)
  | request :: rest =>
    let first := t.handle w request
    let more := first.2.1.handleAll first.2.2 rest
    (first.1 :: more.1, more.2)

end MountTable

end VolumeService
