import VolumeService.MountTable.Basic

/-! # Paths through mounted volumes

Resolution through a mount table is the walk of plain resolution with one difference: at the
root, a name leads to the mount point of the earliest registered volume of that name, when
that volume has one.  Everywhere else, and for all other names, the child is entered. -/

namespace VolumeService

namespace MountTable

/-- The mount point that a name leads to at the root. -/
def mountPoint? (t : MountTable) (name : String) : Option NodeId :=
  (t.named? name).bind fun v => v.volume.mountPoint

/-- Enters a name at a node: a mounted volume at the root, a child otherwise. -/
def enter (t : MountTable) (g : Graph) (n : NodeId) (name : String) : Except NodeError NodeId :=
  if n = t.root then
    match t.mountPoint? name with
    | some mountPoint => .ok mountPoint
    | none => g.lookup n name
  else g.lookup n name

/-- The node at an absolute path through the namespace and the mounted volumes. -/
def resolve (t : MountTable) (g : Graph) (path : String) : Except NodeError NodeId :=
  if Path.isAbsolute path then
    Namespace.walk g.parent? (t.enter g) t.root (Path.components path)
  else .error .invalidArgument

theorem enter_of_ne_root {t : MountTable} {g : Graph} {n : NodeId} (h : n ≠ t.root)
    (name : String) : t.enter g n name = g.lookup n name := if_neg h

theorem enter_root_of_mountPoint? {t : MountTable} {g : Graph} {name : String} {n : NodeId}
    (h : t.mountPoint? name = some n) : t.enter g t.root name = .ok n := by
  rw [enter, if_pos rfl, h]

theorem enter_of_mountPoint?_eq_none {t : MountTable} {g : Graph} {name : String}
    (h : t.mountPoint? name = none) (n : NodeId) : t.enter g n name = g.lookup n name := by
  unfold enter
  rw [h]
  exact ite_self _

end MountTable

end VolumeService
