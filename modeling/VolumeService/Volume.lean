import VolumeService.Graph

/-! # Volumes, their ids and handles

* **Ids** are the numbers from 1 to `2 ^ 64 - 1`.  `next` counts up and stays at the largest.
* **Volumes** carry fixed facts: the kind of file system, a name, and the node where the
  file system's tree starts (the *mount point*), if it has one.
* **Handles.** Once shared, a volume is spoken of by handles.  All handles to one volume name
  the same *cell*, which holds what changes: the id the volume is registered under, if any,
  and how many handles there are.  Two handles are to the same volume exactly when their
  cells agree. -/

namespace VolumeService

/-- The largest number that is an id. -/
def VolumeId.maxRaw : Nat := UInt64.size - 1

/-- The id of a registered volume. -/
structure VolumeId where
  raw : Nat
  pos : 0 < raw
  le_max : raw ≤ VolumeId.maxRaw
deriving DecidableEq, Repr

namespace VolumeId

/-- The id with a given number, if there is one. -/
def ofNat? (raw : Nat) : Option VolumeId :=
  if h : 0 < raw ∧ raw ≤ maxRaw then some ⟨raw, h.1, h.2⟩ else none

/-- The id of the first registration. -/
def first : VolumeId := ⟨1, by decide, by decide⟩

/-- The id after this one; the largest id is its own successor. -/
def next (id : VolumeId) : VolumeId :=
  ⟨min (id.raw + 1) maxRaw, Nat.lt_min.2 ⟨Nat.succ_pos _, by decide⟩, Nat.min_le_right ..⟩

/-- The id that many steps further on. -/
def advance (id : VolumeId) : Nat → VolumeId
  | 0 => id
  | steps + 1 => id.next.advance steps

/-- The order of two ids. -/
def compare (a b : VolumeId) : Ordering := Ord.compare a.raw b.raw

/-- The number of an id in decimal. -/
def display (id : VolumeId) : String := toString id.raw

theorem ext_raw {a b : VolumeId} (h : a.raw = b.raw) : a = b := by
  obtain ⟨a, _, _⟩ := a
  obtain ⟨b, _, _⟩ := b
  subst h
  rfl

theorem raw_next (id : VolumeId) : id.next.raw = min (id.raw + 1) maxRaw := rfl

theorem raw_advance (id : VolumeId) (steps : Nat) :
    (id.advance steps).raw = min (id.raw + steps) maxRaw := by
  induction steps generalizing id with
  | zero =>
    have := id.le_max
    rw [advance]
    omega
  | succ steps ih =>
    rw [advance, ih, raw_next]
    omega

theorem next_advance (id : VolumeId) (steps : Nat) :
    (id.advance steps).next = id.advance (steps + 1) := by
  apply ext_raw
  rw [raw_next, raw_advance, raw_advance]
  omega

end VolumeId

/-- The fixed facts of a volume. -/
structure Volume where
  format : String
  name : String
  mountPoint : Option NodeId
deriving DecidableEq, Repr

namespace Volume

/-- A volume whose tree starts at a node; it is called what the node is called. -/
def ofNode (g : Graph) (format : String) (mountPoint : NodeId) : Volume :=
  { format, name := g.name mountPoint, mountPoint := some mountPoint }

/-- A volume without a tree. -/
def treeless (format name : String) : Volume := { format, name, mountPoint := none }

end Volume

/-- The identity of a shared volume. -/
structure CellId where
  index : Nat
deriving DecidableEq, Repr

/-- A handle to a shared volume. -/
structure VolumeHandle where
  volume : Volume
  cell : CellId
deriving DecidableEq, Repr

namespace VolumeHandle

/-- The name of the volume. -/
def name (v : VolumeHandle) : String := v.volume.name

/-- Are the two handles to the same volume? -/
def Same (a b : VolumeHandle) : Prop := a.cell = b.cell

instance (a b : VolumeHandle) : Decidable (Same a b) :=
  inferInstanceAs (Decidable (a.cell = b.cell))

/-- A volume that was shared before a certain cell was made is not one that was shared later. -/
theorem not_same_of_lt {u v : VolumeHandle} {bound : Nat} (hv : bound ≤ v.cell.index)
    (hu : u.cell.index < bound) : ¬ v.Same u := by
  intro hsame
  rw [show v.cell = u.cell from hsame] at hv
  exact Nat.not_lt.2 hv hu

end VolumeHandle

/-- What changes about a shared volume: its id while registered, and the number of handles. -/
structure VolumeCell where
  id : Option VolumeId
  handles : Nat
deriving DecidableEq, Repr

end VolumeService
