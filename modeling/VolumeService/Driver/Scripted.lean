import VolumeService.Driver

/-! # Scripted drivers

A scripted driver answers by rules that are given as data.

* **Recognition** (`IdentifyRule`): always, never, by bytes at an offset of the device, or by a
  list of answers, one per probe, of which the last repeats.
* **Building** (`MountRule`): a new directory under the name asked for (with or without
  children), no tree at all, the same under another name, a failure, a given node, or the
  device itself.  Building fails when two children are to have one name.
* **Effects.** At given probes, counted from the driver's making, directories are changed;
  a change that is refused is forgotten.

Rules and effects mention nodes; the type `ν` of these mentions is `NodeId` in a driver that
runs, and may be something to be looked up before. -/

namespace VolumeService

/-- How a scripted driver recognises a device. -/
inductive IdentifyRule where
  | always
  | never
  | magic (bytes : List UInt8) (offset : Nat)
  | answers (list : List Bool)
deriving DecidableEq, Repr

/-- What a scripted driver builds. -/
inductive MountRule (ν : Type) where
  | directory
  | children (names : List String)
  | treeless
  | renamed (name : String)
  | renamedDirectory (name : String)
  | fails (cause : NodeError)
  | node (node : ν)
  | device
deriving DecidableEq, Repr

/-- A change of a directory. -/
inductive Edit (ν : Type) where
  | add (dir child : ν)
  | remove (dir : ν) (name : String)
deriving DecidableEq, Repr

/-- A change of a directory at a certain probe. -/
structure Effect (ν : Type) where
  probe : Nat
  edit : Edit ν
deriving DecidableEq, Repr

/-- A driver that answers by rules; `probes` counts how often it was asked. -/
structure ScriptedDriver where
  format : String
  identify : IdentifyRule
  mount : MountRule NodeId
  effects : List (Effect NodeId) := []
  probes : Nat := 0
deriving DecidableEq, Repr

namespace IdentifyRule

/-- The answer to the probe with a given number, counted from 1. -/
def answer (rule : IdentifyRule) (g : Graph) (device : NodeId) (probe : Nat) : Bool :=
  match rule with
  | always => true
  | never => false
  | magic bytes offset =>
    match g.read device offset (List.replicate bytes.length 0) with
    | .ok (count, buffer) => count == bytes.length && buffer == bytes
    | .error _ => false
  | answers list => ((list[probe - 1]?).or list.getLast?).getD false

end IdentifyRule

namespace MountRule

variable {ν μ : Type}

/-- The same rule with nodes looked up; `none` if one is not found. -/
def mapNodes? (f : ν → Option μ) : MountRule ν → Option (MountRule μ)
  | directory => some directory
  | children names => some (children names)
  | treeless => some treeless
  | renamed name => some (renamed name)
  | renamedDirectory name => some (renamedDirectory name)
  | fails cause => some (fails cause)
  | node n => (f n).map node
  | device => some device

/-- Enters new empty directories into a directory in order, up to the first whose name is
taken. -/
def addEmptyDirectories (dir : NodeId) (g : Graph) : List String → Except NodeError Graph
  | [] => .ok g
  | name :: rest =>
    match (g.push (.newDirectory name)).add dir g.fresh with
    | .ok g => addEmptyDirectories dir g rest
    | .error cause => .error cause

/-- A volume on a new directory with new empty children, and the graph that has them.  When
the children cannot all be entered the whole tree is given up, so the graph is as before. -/
def onNewDirectory (g : Graph) (format name : String) (childNames : List String) :
    Except NodeError Volume × Graph :=
  let dir := g.fresh
  match addEmptyDirectories dir (g.push (.newDirectory name)) childNames with
  | .ok after => (.ok (.ofNode after format dir), after)
  | .error cause => (.error cause, g)

/-- What the rule builds from a device under a name. -/
def build (rule : MountRule NodeId) (g : Graph) (format : String) (dev : NodeId)
    (name : String) : Except NodeError Volume × Graph :=
  match rule with
  | directory => onNewDirectory g format name []
  | children names => onNewDirectory g format name names
  | treeless => (.ok (.treeless format name), g)
  | renamed other => (.ok (.treeless format other), g)
  | renamedDirectory other => onNewDirectory g format other []
  | fails cause => (.error cause, g)
  | node n => (.ok (.ofNode g format n), g)
  | device => (.ok (.ofNode g format dev), g)

/-- The nodes that the rule keeps in being. -/
def holds : MountRule NodeId → List NodeId
  | node n => [n]
  | _ => []

end MountRule

namespace Edit

variable {ν μ : Type}

/-- The same change with nodes looked up; directories and other nodes have each their own
look-up. -/
def mapNodes? (dir? node? : ν → Option μ) : Edit ν → Option (Edit μ)
  | add dir child =>
    match dir? dir, node? child with
    | some dir, some child => some (add dir child)
    | _, _ => none
  | remove dir name => (dir? dir).map fun dir => remove dir name

/-- Makes the change, or leaves the graph as it is when the change is refused. -/
def apply (edit : Edit NodeId) (g : Graph) : Graph :=
  match edit with
  | add dir child => ((g.add dir child).toOption).getD g
  | remove dir name => (((g.remove dir name).toOption).map (·.2)).getD g

/-- Does the change enter a child? -/
def isAdd : Edit ν → Bool
  | add _ _ => true
  | remove _ _ => false

/-- The nodes that the change keeps in being. -/
def holds : Edit NodeId → List NodeId
  | add dir child => [dir, child]
  | remove dir _ => [dir]

end Edit

/-- The same effect with nodes looked up. -/
def Effect.mapNodes? {ν μ : Type} (dir? node? : ν → Option μ) (effect : Effect ν) :
    Option (Effect μ) :=
  (effect.edit.mapNodes? dir? node?).map fun edit => { probe := effect.probe, edit }

namespace ScriptedDriver

/-- The graph after the effects of a probe. -/
def affect (d : ScriptedDriver) (g : Graph) (probe : Nat) : Graph :=
  (d.effects.filter (·.probe = probe)).foldl (fun g effect => effect.edit.apply g) g

/-- How many children the driver may still enter into directories. -/
def additionsLeft (d : ScriptedDriver) : Nat :=
  d.effects.countP fun effect => d.probes < effect.probe && effect.edit.isAdd

/-- The nodes that the driver keeps in being. -/
def holds (d : ScriptedDriver) : List NodeId :=
  d.mount.holds ++ d.effects.flatMap fun effect => effect.edit.holds

instance : DriverModel ScriptedDriver where
  identify d g device :=
    let probe := d.probes + 1
    (d.identify.answer g device probe, { d with probes := probe }, d.affect g probe)
  mount d g device name :=
    let built := d.mount.build g d.format device name
    (built.1, d, built.2)

end ScriptedDriver

end VolumeService
