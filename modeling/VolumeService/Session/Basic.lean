import VolumeService.Lifetime
import VolumeService.Session.Answer
import VolumeService.Session.Step

/-! # Sessions and what they keep

* **Things.** Under its labels a session keeps nodes, drivers, registries, mount tables,
  volumes that are not shared, and handles to shared volumes.  Of a node it also keeps how it
  came by it (`Origin`), because only directories that the session made itself can be changed
  and measured.
* **Letting go.** When a label is reused or dropped, a volume handle is released, and a mount
  table is closed with its last label.
* **Settling.** At the end of each step the nodes that nobody holds are reclaimed
  (`Session.settle`).  Holders outside the graph are labels, mount tables, drivers that are
  still in use and the mount points of volumes. -/

namespace VolumeService

/-- How a session came by a node. -/
inductive Session.Origin where
  | directory
  | devices
  | image
  | other
deriving DecidableEq, Repr

/-- Something kept under a label. -/
inductive Session.Thing where
  | node (origin : Session.Origin) (node : NodeId)
  | driver (driver : DriverHandle)
  | registry (registry : Registry)
  | table (id : TableId)
  | owned (volume : Volume)
  | shared (volume : VolumeHandle)
deriving DecidableEq, Repr

/-- A system and what is kept under labels. -/
structure Session where
  system : System ScriptedDriver := {}
  things : List (Session.Label × Session.Thing) := []

namespace Session

/-- The session of a new process, with a sink for the log or without. -/
def start (sink : Option Log.Sink) : Session :=
  { system := { world := { log := { sink } } } }

/-- The shared world. -/
def world (s : Session) : World ScriptedDriver := s.system.world

/-- The graph of nodes. -/
def graph (s : Session) : Graph := s.world.graph

/-- Changes the shared world. -/
def modifyWorld (s : Session) (f : World ScriptedDriver → World ScriptedDriver) : Session :=
  { s with system := s.system.modifyWorld f }

/-- Replaces the graph of nodes. -/
def setGraph (s : Session) (graph : Graph) : Session := s.modifyWorld ({ · with graph })

/-! ### Labels -/

/-- What is kept under a label. -/
def thing? (s : Session) (label : Label) : Option Thing := s.things.lookup label

/-- The node under a label. -/
def node? (s : Session) (label : Label) : Option NodeId :=
  match s.thing? label with
  | some (.node _ n) => some n
  | _ => none

/-- The directory under a label, if the session made it itself. -/
def dir? (s : Session) (label : Label) : Option NodeId :=
  match s.thing? label with
  | some (.node .directory n) => some n
  | some (.node .devices n) => some n
  | _ => none

/-- The driver under a label. -/
def driver? (s : Session) (label : Label) : Option DriverHandle :=
  match s.thing? label with
  | some (.driver d) => some d
  | _ => none

/-- The registry under a label. -/
def registry? (s : Session) (label : Label) : Option Registry :=
  match s.thing? label with
  | some (.registry r) => some r
  | _ => none

/-- The mount table under a label. -/
def table? (s : Session) (label : Label) : Option TableId :=
  match s.thing? label with
  | some (.table id) => some id
  | _ => none

/-- The volume under a label that is not shared. -/
def owned? (s : Session) (label : Label) : Option Volume :=
  match s.thing? label with
  | some (.owned v) => some v
  | _ => none

/-- The handle to a shared volume under a label. -/
def shared? (s : Session) (label : Label) : Option VolumeHandle :=
  match s.thing? label with
  | some (.shared v) => some v
  | _ => none

/-- The volume under a label, shared or not, and its id. -/
def volume? (s : Session) (label : Label) : Option (Volume × Option VolumeId) :=
  match s.thing? label with
  | some (.owned v) => some (v, none)
  | some (.shared v) => some (v.volume, s.world.idOf v)
  | _ => none

/-- Who answers for a reference to a table. -/
def target? (s : Session) : TableRef → Option Target
  | .service => some .service
  | .label label => (s.table? label).map .table

/-! ### Keeping and letting go -/

/-- Lets go of something that is under no label any more. -/
def letGo (s : Session) : Thing → Session
  | .shared v => s.modifyWorld (·.release v)
  | .table id =>
    if s.things.any fun kept => decide (kept.2 = .table id) then s
    else { s with system := s.system.closeTable id }
  | _ => s

/-- Takes a label away without letting go of what is under it. -/
def unlabel (s : Session) (label : Label) : Session :=
  { s with things := s.things.filter (·.1 ≠ label) }

/-- Drops a label and what is under it. -/
def drop (s : Session) (label : Label) : Session :=
  match s.thing? label with
  | none => s
  | some thing => (s.unlabel label).letGo thing

/-- Keeps something under a label; what was there before is let go afterwards. -/
def keep (s : Session) (label : Label) (thing : Thing) : Session :=
  let kept := { s.unlabel label with things := (label, thing) :: (s.unlabel label).things }
  match s.thing? label with
  | none => kept
  | some old => kept.letGo old

/-- Keeps what a step made under the step's label, or lets go of it. -/
def keepOrLetGo (s : Session) : Option Label → Option Thing → Session
  | _, none => s
  | some label, some thing => s.keep label thing
  | none, some thing => s.letGo thing

/-! ### Holders of nodes -/

/-- The nodes that a mount table holds: its root and the mount points of its volumes. -/
def tableNodes (t : MountTable) : List NodeId :=
  t.root :: (t.volumes ++ t.system.toList).filterMap fun v => v.volume.mountPoint

/-- The mount tables in being, that of the service among them. -/
def liveTables (s : Session) : List MountTable :=
  s.system.tables.ids.filterMap s.system.tables.get? ++ s.system.service.table?.toList

/-- The nodes that a thing holds by itself. -/
def thingNodes : Thing → List NodeId
  | .node _ n => [n]
  | .owned v => v.mountPoint.toList
  | .shared v => v.volume.mountPoint.toList
  | _ => []

/-- The drivers that a thing keeps in use. -/
def thingDrivers : Thing → List DriverHandle
  | .driver d => [d]
  | .registry r => r.drivers
  | _ => []

/-- The drivers in use. -/
def liveDrivers (s : Session) : List DriverHandle :=
  s.things.flatMap (fun kept => thingDrivers kept.2) ++
    s.liveTables.flatMap fun t => t.drivers.drivers

/-- The nodes held from outside the graph. -/
def holders (s : Session) : List NodeId :=
  s.things.flatMap (fun kept => thingNodes kept.2) ++
    s.liveTables.flatMap tableNodes ++
    s.liveDrivers.flatMap fun d =>
      ((s.world.drivers.get? d.cell.index).map ScriptedDriver.holds).getD []

/-- Reclaims the nodes that nobody holds. -/
def settle (s : Session) : Session := s.setGraph (s.graph.reclaim s.holders)

end Session

end VolumeService
