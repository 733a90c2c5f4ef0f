import VolumeService.Session.NodeSteps
import VolumeService.Text.Outline

/-! # What the steps about volumes and labels do

Volumes are made, shared and inspected here; labels are measured, compared, dropped and
doubled. -/

namespace VolumeService.Session

/-- The response of making a volume that is not shared. -/
def respondOwned (s : Session) (volume : Volume) : Response :=
  { session := s, result := .value (.volume volume none), made := some (.owned volume) }

/-- What a step about volumes does. -/
def performVolume (s : Session) : VolumeStep → Option Response
  | .newVolume format mountPoint =>
    (s.node? mountPoint).map fun n => s.respondOwned (.ofNode s.graph format n)
  | .newTreeless format name => some (s.respondOwned (.treeless format name))
  | .share label =>
    (s.owned? label).map fun volume =>
      let v := s.world.handleFor volume
      ((s.modifyWorld (·.share none)).keep label (.shared v)).respond .done
  | .inspect label =>
    (s.volume? label).map fun (volume, id) =>
      let mountPoint := volume.mountPoint.map s.graph.name
      let outline := Text.Outline.ofVolume volume id mountPoint
      s.respond (.volumeInfo volume id mountPoint outline.compact outline.layered)
  | .mountPoint label => (s.volume? label).map fun (volume, _) => s.respondNode? volume.mountPoint
  | .handles label => (s.shared? label).map fun v => s.respond (.count (s.world.handlesOf v))

/-- The size of what is under a label, if it has one. -/
def sizeOf? (s : Session) : Thing → Option Nat
  | .node .directory n => (s.graph.directory? n).map Directory.size
  | .node .image n =>
    match s.graph.content? n with
    | some (.image bytes) => some bytes.length
    | _ => none
  | .registry r => some r.size
  | .table id => (s.system.table? id).map MountTable.size
  | _ => none

/-- Are two things the same node, or handles to the same volume? -/
def sameThing? : Thing → Thing → Option Bool
  | .node _ a, .node _ b => some (decide (a = b))
  | .shared a, .shared b => some (decide (a.Same b))
  | _, _ => none

/-- Another handle to a thing; volumes that are not shared have none. -/
def cloneThing? (s : Session) : Thing → Option Session
  | .owned _ => none
  | .shared v => some (s.modifyWorld (·.retain v))
  | _ => some s

/-- What a step about labels does. -/
def performLabel (s : Session) : LabelStep → Option Response
  | .size label =>
    ((s.thing? label).bind s.sizeOf?).map fun size => s.respond (.size size)
  | .same a b =>
    match s.thing? a, s.thing? b with
    | some a, some b => (sameThing? a b).map fun same => s.respond (.flag same)
    | _, _ => none
  | .drop label => (s.thing? label).map fun _ => (s.drop label).respond .done
  | .clone label =>
    (s.thing? label).bind fun thing =>
      (s.cloneThing? thing).map fun s =>
        { session := s, result := .value .done, made := some thing }

end VolumeService.Session
