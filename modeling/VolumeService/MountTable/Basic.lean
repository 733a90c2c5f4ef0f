import VolumeService.Namespace
import VolumeService.Registry

/-! # Mount tables

A mount table records which volumes are mounted over a namespace.

* **State.** The root of the namespace, the drivers asked when a mount names none, the
  registered volumes in mount order, the system volume once there is one, the id of the next
  registration and the number of the next synthetic name.  That number is a machine word,
  and starts again after the last one.
* **Registration** (`register`) gives a volume the next id, points its mount point at the
  root and appends it to the list.  It asks nothing about the name.
* **Removal** takes a volume out of the list and clears its id; the list's own handle goes to
  the caller.  `unregister` picks the volume by identity, `unmount` the earliest of a name.
* **Search.** `find`, `findId` and `systemVolume` hand out a new handle to what they find. -/

namespace VolumeService

/-- Which volumes are mounted over a namespace. -/
structure MountTable where
  root : NodeId
  drivers : Registry
  volumes : List VolumeHandle := []
  system : Option VolumeHandle := none
  nextId : VolumeId := .first
  nextSuffix : UInt64 := 0
deriving DecidableEq, Repr

namespace MountTable

/-- The empty table over a root. -/
def create (root : NodeId) (drivers : Registry) : MountTable := { root, drivers }

/-- How many volumes are registered. -/
def size (t : MountTable) : Nat := t.volumes.length

/-- The earliest registered volume of a name. -/
def named? (t : MountTable) (name : String) : Option VolumeHandle :=
  t.volumes.find? fun v => v.name = name

/-- Is the volume the system volume? -/
def isSystem (t : MountTable) (v : VolumeHandle) : Bool :=
  match t.system with
  | some system => decide (system.Same v)
  | none => false

variable {σ : Type}

/-- The earliest registered volume with an id. -/
def withId? (t : MountTable) (w : World σ) (id : VolumeId) : Option VolumeHandle :=
  t.volumes.find? fun v => w.idOf v = some id

/-- Hands out a new handle to what a search found. -/
def handOut (found : Option VolumeHandle) (w : World σ) : Option VolumeHandle × World σ :=
  (found, match found with
    | some v => w.retain v
    | none => w)

/-- Finds the earliest registered volume of a name. -/
def find (t : MountTable) (w : World σ) (name : String) : Option VolumeHandle × World σ :=
  handOut (t.named? name) w

/-- Finds the registered volume with an id. -/
def findId (t : MountTable) (w : World σ) (id : VolumeId) : Option VolumeHandle × World σ :=
  handOut (t.withId? w id) w

/-- The system volume, if the boot scan has mounted one. -/
def systemVolume (t : MountTable) (w : World σ) : Option VolumeHandle × World σ :=
  handOut t.system w

/-- The registered volumes in mount order, with a new handle to each. -/
def snapshot (t : MountTable) (w : World σ) : List VolumeHandle × World σ :=
  (t.volumes, t.volumes.foldl World.retain w)

/-- Adds a driver to those asked when a mount names none. -/
def addDriver (t : MountTable) (w : World σ) (driver : DriverHandle) :
    Except RegistryError Unit × MountTable × World σ :=
  let call := t.drivers.register w driver
  (call.1, { t with drivers := call.2.1 }, call.2.2)

/-- Registers a volume; the answer is a handle besides the list's own. -/
def register (t : MountTable) (w : World σ) (volume : Volume) :
    VolumeHandle × MountTable × World σ :=
  let v := w.handleFor volume
  (v, { t with volumes := t.volumes ++ [v], nextId := t.nextId.next },
    ((w.share (some t.nextId)).linkMountPoint volume t.root).retain v)

/-- Takes the first listed volume with a property out of the list and clears its id. -/
def removeFirst? (t : MountTable) (w : World σ) (p : VolumeHandle → Bool) :
    Option (VolumeHandle × MountTable × World σ) :=
  (t.volumes.find? p).map fun v =>
    (v, { t with volumes := t.volumes.eraseP p }, w.clearId v)

/-- Takes a volume, picked by identity, out of the list. -/
def unregister (t : MountTable) (w : World σ) (v : VolumeHandle) :
    Except ServiceError VolumeHandle × MountTable × World σ :=
  match t.removeFirst? w fun u => decide (u.Same v) with
  | none => (.error .noSuchVolume, t, w.notify (.notRegistered v.name))
  | some (held, t, w) => (.ok held, t, w)

/-- The handles to a volume that neither the one in the caller's hand nor the system slot
accounts for. -/
def otherHandles (t : MountTable) (w : World σ) (v : VolumeHandle) : Nat :=
  w.handlesOf v - (1 + if t.isSystem v then 1 else 0)

/-- Unmounts the earliest volume of a name, with a warning while other handles are out. -/
def unmount (t : MountTable) (w : World σ) (name : String) :
    Except ServiceError VolumeHandle × MountTable × World σ :=
  match t.removeFirst? w fun u => decide (u.name = name) with
  | none => (.error .noSuchVolume, t, w.notify (.noSuchVolume name))
  | some (v, t, w) =>
    let count := t.otherHandles w v
    let w := if 0 < count then w.notify (.handlesOpen name count) else w
    (.ok v, t, w.notify (.unmounted name))

/-- Gives up the table: its list and its system slot let go of their handles. -/
def releaseAll (t : MountTable) (w : World σ) : World σ :=
  t.system.toList.foldl World.release (t.volumes.foldl World.release w)

/-! ### What searches and changes bring -/

theorem named?_eq_none_iff {t : MountTable} {name : String} :
    t.named? name = none ↔ ∀ v ∈ t.volumes, v.name ≠ name := by
  simp [named?]

theorem name_of_named? {t : MountTable} {name : String} {v : VolumeHandle}
    (h : t.named? name = some v) : v.name = name := by
  simpa using List.find?_some h

theorem mem_volumes_of_named? {t : MountTable} {name : String} {v : VolumeHandle}
    (h : t.named? name = some v) : v ∈ t.volumes := List.mem_of_find?_eq_some h

theorem idOf_of_withId? {t : MountTable} {w : World σ} {id : VolumeId} {v : VolumeHandle}
    (h : t.withId? w id = some v) : w.idOf v = some id := by
  simpa using List.find?_some h

theorem mem_volumes_of_withId? {t : MountTable} {w : World σ} {id : VolumeId} {v : VolumeHandle}
    (h : t.withId? w id = some v) : v ∈ t.volumes := List.mem_of_find?_eq_some h

theorem withId?_eq_none_iff {t : MountTable} {w : World σ} {id : VolumeId} :
    t.withId? w id = none ↔ ∀ v ∈ t.volumes, w.idOf v ≠ some id := by
  simp [withId?]

theorem volumes_register (t : MountTable) (w : World σ) (volume : Volume) :
    (t.register w volume).2.1.volumes = t.volumes ++ [w.handleFor volume] := rfl

theorem nextId_register (t : MountTable) (w : World σ) (volume : Volume) :
    (t.register w volume).2.1.nextId = t.nextId.next := rfl

theorem removeFirst?_eq_none_iff {t : MountTable} {w : World σ} {p : VolumeHandle → Bool} :
    t.removeFirst? w p = none ↔ ∀ v ∈ t.volumes, p v = false := by
  simp [removeFirst?]

/-- What is removed is the first listed volume with the property; it loses its id, and the
others stay in their order. -/
theorem split_of_removeFirst? {t t' : MountTable} {w w' : World σ} {p : VolumeHandle → Bool}
    {v : VolumeHandle} (h : t.removeFirst? w p = some (v, t', w')) :
    ∃ before after, t.volumes = before ++ v :: after ∧ (∀ u ∈ before, p u = false) ∧
      p v = true ∧ t' = { t with volumes := before ++ after } ∧ w' = w.clearId v := by
  obtain ⟨u, hu, he⟩ := Option.map_eq_some_iff.1 h
  injection he with hv he
  injection he with ht hw
  subst hv ht hw
  obtain ⟨hp, before, after, hsplit, hbefore⟩ := List.find?_eq_some_iff_append.1 hu
  have hnot : ∀ x ∈ before, ¬ p x = true := fun x hx => by simpa using hbefore x hx
  refine ⟨before, after, hsplit, fun x hx => by simpa using hbefore x hx, hp, ?_, rfl⟩
  rw [hsplit, List.eraseP_append_right _ hnot, List.eraseP_cons_of_pos hp]

/-- Seen from what is removed: it was listed, the rest of the list stays, and its id is gone. -/
theorem erase_of_removeFirst? {t t' : MountTable} {w w' : World σ} {p : VolumeHandle → Bool}
    {v : VolumeHandle} (h : t.removeFirst? w p = some (v, t', w')) :
    v ∈ t.volumes ∧ p v = true ∧ t' = { t with volumes := t.volumes.erase v } ∧
      w' = w.clearId v := by
  obtain ⟨before, after, hsplit, hbefore, hp, rfl, rfl⟩ := split_of_removeFirst? h
  have hnot : v ∉ before := by
    intro hv
    rw [hbefore v hv] at hp
    cases hp
  have herase : t.volumes.erase v = before ++ after := by
    rw [hsplit, List.erase_append_right _ hnot, List.erase_cons_head]
  rw [herase]
  refine ⟨?_, hp, rfl, rfl⟩
  rw [hsplit]
  exact List.mem_append_cons_self

/-- Unmounting is removal by name and a report or two. -/
theorem unmount_of_removeFirst? {t t' : MountTable} {w w' : World σ} {name : String}
    {v : VolumeHandle}
    (h : t.removeFirst? w (fun u => decide (u.name = name)) = some (v, t', w')) :
    ∃ w'', t.unmount w name = (.ok v, t', w'') ∧ w''.graph = w'.graph ∧ w''.cells = w'.cells ∧
      w''.drivers = w'.drivers := by
  rw [unmount, h]
  refine ⟨_, rfl, ?_, ?_, ?_⟩ <;> split <;> rfl

/-- Of a table, unregistering changes the list only, and brings nothing new into it. -/
theorem table_of_unregister (t : MountTable) (w : World σ) (v : VolumeHandle) :
    ∃ list, list.Sublist t.volumes ∧ (t.unregister w v).2.1 = { t with volumes := list } := by
  unfold unregister
  split
  next => exact ⟨t.volumes, .refl _, rfl⟩
  next hpick =>
    obtain ⟨_, _, rfl, _⟩ := erase_of_removeFirst? hpick
    exact ⟨_, List.erase_sublist, rfl⟩

/-- Of a table, unmounting changes the list only, and brings nothing new into it. -/
theorem table_of_unmount (t : MountTable) (w : World σ) (name : String) :
    ∃ list, list.Sublist t.volumes ∧ (t.unmount w name).2.1 = { t with volumes := list } := by
  unfold unmount
  split
  next => exact ⟨t.volumes, .refl _, rfl⟩
  next hpick =>
    obtain ⟨_, _, rfl, _⟩ := erase_of_removeFirst? hpick
    exact ⟨_, List.erase_sublist, rfl⟩

/-- Registration gives the new volume the id that was next, and touches no other id. -/
theorem idOf_register (t : MountTable) (w : World σ) (volume : Volume) (u : VolumeHandle) :
    (t.register w volume).2.2.idOf u =
      if (t.register w volume).1.Same u then some t.nextId else w.idOf u := by
  unfold register
  rw [World.idOf_retain, World.idOf, World.cell?, World.cells_linkMountPoint, ← World.cell?]
  split
  next hsame =>
    rw [World.cell?, ← hsame, ← World.cell?, World.cell?_share_handleFor]
    rfl
  next hsame => rw [World.cell?_share_of_ne hsame, World.idOf]

theorem cells_register_next (t : MountTable) (w : World σ) (volume : Volume) :
    (t.register w volume).2.2.cells.next = w.cells.next + 1 := by
  simp [register, World.retain, World.modifyCell, World.share]

end MountTable

end VolumeService
