import VolumeService.Service.Race
import VolumeService.Session.NodeSteps

/-! # What the steps about mount tables do

Most of these steps become one request to a table or to the shared service (`request?`), and
the reply becomes the response.

* **Handles in replies** belong to the step; a single one is what the step made, and the
  handles of a list are let go at once.
* **Boot scans** are given a limit that they cannot reach: the lines of `/dev`, and one more for
  each child that drivers may still enter, and one more to see the end. -/

namespace VolumeService.Session

/-- The volumes of a list, each with its id. -/
def describe (s : Session) (volumes : List VolumeHandle) : List (Option VolumeId × String) :=
  volumes.map fun v => (s.world.idOf v, v.name)

/-- The response with a handle to a shared volume. -/
def respondVolume (s : Session) (v : VolumeHandle) : Response :=
  { session := s
    result := .value (.volume v.volume (s.world.idOf v))
    made := some (.shared v) }

/-- The response to the reply of a table or of the service. -/
def respondReply (s : Session) : Outcome Reply → Response
  | .value (.volume (.ok v)) => s.respondVolume v
  | .value (.volume (.error cause)) => { session := s, result := .serviceError cause }
  | .value (.found (some v)) => s.respondVolume v
  | .value (.found none) => s.respond .absent
  | .value (.node found) => s.respondLookup found
  | .value (.registered (.ok ())) => s.respond .done
  | .value (.registered (.error cause)) => { session := s, result := .registryError cause }
  | .value (.volumes list) =>
    (s.modifyWorld fun w => list.foldl World.release w).respond (.volumes (s.describe list))
  | .panic p => { session := s, result := .panic p }
  | _ => { session := s, result := .unfinished }

/-- A limit that a boot scan over a root cannot reach. -/
def scanLimit (s : Session) (root : NodeId) : Nat :=
  let lines := match Namespace.resolve s.graph root devicePath with
    | .ok dev => Cursor.listingSize s.graph dev
    | .error _ => 0
  let additions := (s.world.drivers.ids.filterMap s.world.drivers.get?).map
    ScriptedDriver.additionsLeft
  lines + additions.foldl (· + ·) 0 + 1

/-- The limit for a boot scan of a target. -/
def targetLimit (s : Session) (target : Target) : Nat :=
  ((s.system.tableOf target).map fun t => s.scanLimit t.root).getD 0

/-- The table that a step is for and the request that it makes. -/
def request? (s : Session) : TableStep → Option (TableRef × Request)
  | .mount table device name => (s.node? device).map fun device => (table, .mount device name)
  | .mountUsing table device driver name =>
    match s.node? device, s.driver? driver with
    | some device, some driver => some (table, .mountUsing device driver name)
    | _, _ => none
  | .unmount table name => some (table, .unmount name)
  | .register table volume => (s.owned? volume).map fun volume => (table, .register volume)
  | .unregister table volume => (s.shared? volume).map fun v => (table, .unregister v)
  | .addDriver table driver => (s.driver? driver).map fun d => (table, .addDriver d)
  | .bootScan table =>
    (s.target? table).map fun target => (table, .bootScan (s.targetLimit target))
  | .systemVolume table => some (table, .systemVolume)
  | .find table name => some (table, .find name)
  | .findId table id => (VolumeId.ofNat? id).map fun id => (table, .findId id)
  | .resolve table path => some (table, .resolve path)
  | .root table => some (table, .root)
  | .volumes table => some (table, .volumes)
  | .newTable _ _ => none
  | .initService _ _ => none
  | .race _ _ _ _ => none

/-- The session without the volume that a step hands over. -/
def handOver (s : Session) : TableStep → Session
  | .register _ volume => s.unlabel volume
  | _ => s

/-- Makes the request of a step and responds to the reply. -/
def ask (s : Session) (step : TableStep) : Option Response :=
  (s.request? step).bind fun (table, request) =>
    (s.target? table).bind fun target =>
      (s.system.request target request).map fun answer =>
        { s.handOver step with system := answer.2 }.respondReply answer.1

/-- Lets workers race on the shared service, one after the other. -/
def race (s : Session) (device : NodeId) (workers rounds : Nat) (unmounts : Bool) : Response :=
  let start : Race ScriptedDriver :=
    { device
      service := s.system.service
      world := s.world
      workers := List.replicate workers { rounds := List.replicate rounds unmounts } }
  let calls := rounds * if unmounts then 2 else 1
  let done := start.run (Race.oneByOne workers calls)
  let s := { s with system := { s.system with service := done.service, world := done.world } }
  match done.panic? with
  | some p => { session := s, result := .panic p }
  | none => s.respond (.texts done.names)

/-- What a step about mount tables does. -/
def performTable (s : Session) : TableStep → Option Response
  | .newTable root registry =>
    match s.node? root, s.registry? registry with
    | some root, some drivers =>
      some
        { session := { s with system := s.system.openTable root drivers }
          result := .value .done
          made := some (.table s.system.freshTable) }
    | _, _ => none
  | .initService root registry =>
    match s.node? root, s.registry? registry with
    | some root, some drivers =>
      let call := s.system.initService root drivers
      let s := { s with system := call.2 }
      match call.1 with
      | .value () => some (s.respond .done)
      | .panic p => some { session := s, result := .panic p }
      | .waits => some { session := s, result := .unfinished }
    | _, _ => none
  | .race device workers rounds unmounts =>
    (s.node? device).map fun device => s.race device workers rounds unmounts
  | step => s.ask step

/-- The table whose list of volumes a step is about. -/
def listedTable? : TableStep → Option TableRef
  | .mount table _ _ => some table
  | .mountUsing table _ _ _ => some table
  | .unmount table _ => some table
  | .register table _ => some table
  | .unregister table _ => some table
  | .bootScan table => some table
  | _ => none

/-- The volumes of the table that a step is about. -/
def listed? (s : Session) (step : TableStep) : Option (List (Option VolumeId × String)) :=
  (listedTable? step).bind fun table =>
    (s.target? table).bind fun target =>
      (s.system.tableOf target).map fun t => s.describe t.volumes

end VolumeService.Session
