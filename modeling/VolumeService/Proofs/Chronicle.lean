import VolumeService.MountTable.Request
import VolumeService.Proofs.Lists
import VolumeService.Proofs.MountOutcome

/-! # Histories of one mount table

A *chronicle* follows one table from its creation through any number of moves.

* **Moves** (`Move`).  The table answers a request, or something else happens to the world it
  shares: callers clone and drop handles and share volumes of their own, and nodes, driver states
  and the configuration of the log become whatever they become (`Deed`).  Nothing but the
  table's own requests gives or takes ids.
* **The ledger** lists all registrations so far, in order, each with the id that the volume
  carried when its request was answered.  Which request registered a volume is read off the
  request and its reply (`Request.registered?`), and so is which removed one
  (`Request.removed?`).
* **One change at a time** (`Change`).  A move keeps the list of volumes and all ids, or appends
  one volume with the next id, or takes one out and clears its id (`Change.of_handle`).
* **The invariant** (`Chronicle.Sound`).  The `k`-th entry of the ledger has the `k`-th id; the
  listed volumes are those of the ledger that have not been removed, in the order of the ledger;
  the listed ones carry their ids and the removed ones none (`Chronicle.sound_run`). -/

namespace VolumeService

variable {σ : Type}

/-! ### Moves -/

/-- Something that happens to the shared world without a mount table being asked. -/
inductive Deed (σ : Type) where
  | retain (v : VolumeHandle)
  | release (v : VolumeHandle)
  | share
  | setGraph (graph : Graph)
  | setDrivers (drivers : Store σ)
  | setLog (log : Log.Config)
  | report (record : Log.Record)

/-- The world after a deed. -/
def Deed.apply : Deed σ → World σ → World σ
  | retain v, w => w.retain v
  | release v, w => w.release v
  | share, w => w.share none
  | setGraph graph, w => { w with graph }
  | setDrivers drivers, w => { w with drivers }
  | setLog log, w => { w with log }
  | report record, w => w.emit record

/-- What can happen next in the history of a table. -/
inductive Move (σ : Type) where
  | ask (request : Request)
  | deed (deed : Deed σ)

/-- The volume of a reply that has one. -/
def Reply.volume? : Reply → Option VolumeHandle
  | .volume result => result.toOption
  | _ => none

/-- The volume that a request registered, read off the reply.  A boot scan that finds the system
slot full answers what is in it and registers nothing. -/
def Request.registered? (t : MountTable) : Request → Reply → Option VolumeHandle
  | .mount _ _, reply => reply.volume?
  | .mountUsing _ _ _, reply => reply.volume?
  | .register _, reply => reply.volume?
  | .bootScan _, reply => if t.system.isSome then none else reply.volume?
  | _, _ => none

/-- The volume that a request took out of the list, read off the reply. -/
def Request.removed? : Request → Reply → Option VolumeHandle
  | .unmount _, reply => reply.volume?
  | .unregister _, reply => reply.volume?
  | _, _ => none

/-! ### What a move does to the list and to the ids -/

/-- The list of volumes, the counter and all ids are as they were. -/
structure Kept (t : MountTable) (w : World σ) (t' : MountTable) (w' : World σ) : Prop where
  volumes : t'.volumes = t.volumes
  nextId : t'.nextId = t.nextId
  cells : w.cells.next ≤ w'.cells.next
  ids : ∀ u, w'.idOf u = w.idOf u

/-- What happened to the list of volumes and to the ids between two states: nothing, one volume
was registered, or one was removed. -/
inductive Change (t : MountTable) (w : World σ) (t' : MountTable) (w' : World σ) :
    Option VolumeHandle → Option VolumeHandle → Prop where
  | kept (h : Kept t w t' w') : Change t w t' w' none none
  | registered {v : VolumeHandle} (hnew : w.cells.next ≤ v.cell.index)
      (hcells : v.cell.index < w'.cells.next) (hvolumes : t'.volumes = t.volumes ++ [v])
      (hnext : t'.nextId = t.nextId.next)
      (hids : ∀ u, w'.idOf u = if v.Same u then some t.nextId else w.idOf u) :
      Change t w t' w' (some v) none
  | removed {v : VolumeHandle} (hv : v ∈ t.volumes) (hvolumes : t'.volumes = t.volumes.erase v)
      (hnext : t'.nextId = t.nextId) (hcells : w.cells.next ≤ w'.cells.next)
      (hids : ∀ u, w'.idOf u = if v.Same u then none else w.idOf u) :
      Change t w t' w' none (some v)

namespace Kept

variable {t : MountTable} {w w' : World σ}

theorem of_cells (t : MountTable) (hcells : w'.cells = w.cells) : Kept t w t w' := by
  refine ⟨rfl, rfl, ?_, fun u => ?_⟩
  · exact Nat.le_of_eq (congrArg Store.next hcells).symm
  · rw [World.idOf, World.cell?, hcells, World.idOf, World.cell?]

theorem of_retain (t : MountTable) (w : World σ) (v : VolumeHandle) : Kept t w t (w.retain v) :=
  ⟨rfl, rfl, by simp [World.retain, World.modifyCell], World.idOf_retain w v⟩

theorem of_release (t : MountTable) (w : World σ) (v : VolumeHandle) : Kept t w t (w.release v) :=
  ⟨rfl, rfl, by simp [World.release, World.modifyCell], World.idOf_release w v⟩

theorem trans {t' t'' : MountTable} {w'' : World σ} (h₁ : Kept t w t' w')
    (h₂ : Kept t' w' t'' w'') : Kept t w t'' w'' :=
  ⟨h₂.volumes.trans h₁.volumes, h₂.nextId.trans h₁.nextId, Nat.le_trans h₁.cells h₂.cells,
    fun u => (h₂.ids u).trans (h₁.ids u)⟩

/-- A volume that becomes shared without being registered has no id. -/
theorem of_share (t : MountTable) (w : World σ) : Kept t w t (w.share none) := by
  refine ⟨rfl, rfl, by simp [World.share], fun u => ?_⟩
  rw [World.idOf, World.cell?, World.share, Store.get?_push]
  split
  next h =>
    rw [World.idOf, World.cell?, Store.get?_eq_none_of_next_le (Nat.le_of_eq h.symm)]
    rfl
  next => rfl

theorem of_claimName {t' : MountTable} {name? : Option String} {name : String}
    (hname : t.claimName name? = some (name, t')) (hcells : w'.cells = w.cells) :
    Kept t w t' w' := by
  have hkept := Kept.of_cells t hcells
  obtain rfl := MountTable.table_of_claimName hname
  exact ⟨rfl, rfl, hkept.cells, hkept.ids⟩

theorem of_setSystem (t : MountTable) (w : World σ) (line : String) (v : VolumeHandle) :
    Kept t w (t.setSystem w line v).1 (t.setSystem w line v).2 := by
  have hkept := of_retain t (w.notify (.systemMounted line)) v
  exact ⟨rfl, rfl, hkept.cells, hkept.ids⟩

theorem of_deed (t : MountTable) (w : World σ) (deed : Deed σ) : Kept t w t (deed.apply w) := by
  cases deed with
  | retain v => exact .of_retain t w v
  | release v => exact .of_release t w v
  | share => exact .of_share t w
  | setGraph graph => exact .of_cells t rfl
  | setDrivers drivers => exact .of_cells t rfl
  | setLog log => exact .of_cells t rfl
  | report record => exact .of_cells t rfl

theorem of_handOut (t : MountTable) (w : World σ) (found : Option VolumeHandle) :
    Kept t w t (MountTable.handOut found w).2 := by
  cases found with
  | none => exact .of_cells t rfl
  | some v => exact .of_retain t w v

theorem of_snapshot (t : MountTable) (w : World σ) : Kept t w t (t.snapshot w).2 := by
  rw [MountTable.snapshot]
  generalize t.volumes = list
  induction list generalizing w with
  | nil => exact .of_cells t rfl
  | cons v rest ih => exact (of_retain t w v).trans (ih (w.retain v))

end Kept

namespace Change

variable {t t₁ t₂ t₃ : MountTable} {w w₁ w₂ w₃ : World σ} {entered left : Option VolumeHandle}

/-- What is kept before and after a change does not count. -/
theorem frame (hbefore : Kept t w t₁ w₁) (h : Change t₁ w₁ t₂ w₂ entered left)
    (hafter : Kept t₂ w₂ t₃ w₃) : Change t w t₃ w₃ entered left := by
  cases h with
  | kept hkept => exact .kept ((hbefore.trans hkept).trans hafter)
  | registered hnew hcells hvolumes hnext hids =>
      refine .registered (Nat.le_trans hbefore.cells hnew) (Nat.lt_of_lt_of_le hcells hafter.cells)
        ?_ ?_ fun u => ?_
      · rw [hafter.volumes, hvolumes, hbefore.volumes]
      · rw [hafter.nextId, hnext, hbefore.nextId]
      · rw [hafter.ids, hids, hbefore.ids, hbefore.nextId]
  | removed hv hvolumes hnext hcells hids =>
      refine .removed (hbefore.volumes ▸ hv) ?_ ?_
        (Nat.le_trans (Nat.le_trans hbefore.cells hcells) hafter.cells) fun u => ?_
      · rw [hafter.volumes, hvolumes, hbefore.volumes]
      · rw [hafter.nextId, hnext, hbefore.nextId]
      · rw [hafter.ids, hids, hbefore.ids]

theorem of_register (t : MountTable) (w : World σ) (volume : Volume) :
    Change t w (t.register w volume).2.1 (t.register w volume).2.2
      (some (t.register w volume).1) none :=
  .registered (Nat.le_refl _)
    (by rw [MountTable.cells_register_next]; exact Nat.lt_succ_self _)
    (t.volumes_register w volume) (t.nextId_register w volume) (t.idOf_register w volume)

theorem of_afterMount (t : MountTable) (w : World σ) (device : NodeId) (volume : Volume) :
    Change t w (t.afterMount w device volume).1 (t.afterMount w device volume).2
      (some (w.handleFor volume)) none :=
  .frame (.of_cells t rfl) (.of_register t w volume) (.of_cells _ rfl)

theorem of_removeFirst? {p : VolumeHandle → Bool} {v : VolumeHandle}
    (h : t.removeFirst? w p = some (v, t₁, w₁)) : Change t w t₁ w₁ none (some v) := by
  obtain ⟨hv, _, rfl, rfl⟩ := MountTable.erase_of_removeFirst? h
  exact .removed hv rfl rfl (by simp [World.clearId, World.modifyCell])
    fun u => World.idOf_clearId w v u

theorem of_unregister (t : MountTable) (w : World σ) (v : VolumeHandle) :
    Change t w (t.unregister w v).2.1 (t.unregister w v).2.2 none
      ((t.unregister w v).1.toOption) := by
  unfold MountTable.unregister
  split
  next => exact .kept (.of_cells t rfl)
  next h => exact .of_removeFirst? h

theorem of_unmount (t : MountTable) (w : World σ) (name : String) :
    Change t w (t.unmount w name).2.1 (t.unmount w name).2.2 none
      ((t.unmount w name).1.toOption) := by
  unfold MountTable.unmount
  split
  next => exact .kept (.of_cells t rfl)
  next v t₁ w₁ h =>
    refine .frame (.of_cells t rfl) (.of_removeFirst? h) (.of_cells t₁ ?_)
    dsimp only
    split <;> rfl

variable [DriverModel σ]

theorem of_mountOutcome {ds : List DriverHandle} {device : NodeId} {name? : Option String}
    {result : Except ServiceError VolumeHandle × MountTable × World σ}
    (h : MountTable.MountOutcome ds t w device name? result) :
    Change t w result.2.1 result.2.2 result.1.toOption none := by
  cases h with
  | refused _ hw => exact .kept (.of_cells t hw.consults.cells)
  | failed hname hw => exact .kept (.of_claimName hname hw.consults.cells)
  | @registered _ t' _ w' volume hname hw hbuilt _ =>
      exact .frame (.of_claimName hname (hbuilt.probes hw).consults.cells)
        (.of_afterMount t' w' device volume) (.of_cells _ rfl)

theorem of_bootScan (t : MountTable) (w : World σ) (limit : Nat) :
    Change t w (t.bootScan w limit).2.1 (t.bootScan w limit).2.2
      (if t.system.isSome then none else (t.bootScan w limit).1.bind Except.toOption) none := by
  have h := t.bootScan_outcome w limit
  generalize t.bootScan w limit = result at h
  cases h with
  | @already v hsystem =>
      rw [hsystem]
      have hlog : Kept t w t (w.notify (.systemAlready v.name)) := .of_cells t rfl
      exact .kept (hlog.trans (.of_retain t _ v))
  | unfinished hsystem hw =>
      rw [hsystem]
      exact .kept (.of_cells t hw.consults.cells)
  | failed hsystem _ hw =>
      rw [hsystem]
      exact .kept (.of_cells t hw.consults.cells)
  | @mounted w₁ w₂ w' device line volume hsystem hw hdevice hprobes hbuilt _ =>
      rw [hsystem]
      have hsurvey := hw.probe hdevice (hbuilt.probes hprobes)
      exact .frame (.of_cells t hsurvey.consults.cells) (.of_afterMount t w' device volume)
        (.of_setSystem _ _ line (w'.handleFor volume))

/-- Whatever a table is asked, at most one volume comes or goes, and the reply tells which. -/
theorem of_handle (t : MountTable) (w : World σ) (request : Request) :
    Change t w (t.handle w request).2.1 (t.handle w request).2.2
      (request.registered? t (t.handle w request).1) (request.removed? (t.handle w request).1) := by
  cases request with
  | mount device name? => exact of_mountOutcome (t.mount_outcome w device name?)
  | mountUsing device driver name? =>
      exact of_mountOutcome
        (t.mountUsing_outcome w device (List.mem_singleton_self driver) name?)
  | unmount name => exact of_unmount t w name
  | register volume => exact of_register t w volume
  | unregister v => exact of_unregister t w v
  | addDriver driver =>
      refine .kept ?_
      rw [MountTable.handle, MountTable.addDriver, Registry.register]
      split
      · exact .of_cells t rfl
      · have hkept : Kept t w t (w.notify (.driverRegistered driver.name)) := .of_cells t rfl
        exact ⟨rfl, rfl, hkept.cells, hkept.ids⟩
  | bootScan limit =>
      have h := of_bootScan t w limit
      rw [MountTable.handle]
      generalize t.bootScan w limit = result at h ⊢
      obtain ⟨answer, t', w'⟩ := result
      cases answer <;> exact h
  | systemVolume => exact .kept (.of_handOut t w t.system)
  | find name => exact .kept (.of_handOut t w (t.named? name))
  | findId id => exact .kept (.of_handOut t w (t.withId? w id))
  | resolve path => exact .kept (.of_cells t rfl)
  | root => exact .kept (.of_cells t rfl)
  | volumes => exact .kept (.of_snapshot t w)
  | identify device =>
      exact .kept (.of_cells t (w.consults_identifyFirst device t.drivers.drivers).cells)
  | findDriver name => exact .kept (.of_cells t rfl)
  | drivers => exact .kept (.of_cells t rfl)

end Change

/-! ### Chronicles -/

/-- A registration: the volume, and the id that it carried when the request was answered. -/
structure Registration where
  volume : VolumeHandle
  id : Option VolumeId
deriving DecidableEq, Repr

/-- A table and its world with the registrations and removals so far, in order. -/
structure Chronicle (σ : Type) where
  table : MountTable
  world : World σ
  ledger : List Registration := []
  removed : List VolumeHandle := []

namespace Chronicle

/-- The chronicle of a table that has just been created. -/
def start (root : NodeId) (drivers : Registry) (w : World σ) : Chronicle σ :=
  { table := .create root drivers, world := w }

/-- How the ledger, the list of volumes and the ids belong together. -/
structure Sound (c : Chronicle σ) : Prop where
  /-- The counter stands at the id after those given out. -/
  nextId : c.table.nextId = VolumeId.first.advance c.ledger.length
  /-- The `k`-th registration was given the `k`-th id. -/
  given : ∀ k entry, c.ledger[k]? = some entry → entry.id = some (VolumeId.first.advance k)
  /-- The listed volumes are those registered and not removed, in the order of registration. -/
  volumes : c.table.volumes =
    (c.ledger.map Registration.volume).filter fun v => decide (v ∉ c.removed)
  known : ∀ entry ∈ c.ledger, entry.volume.cell.index < c.world.cells.next
  distinct : (c.ledger.map fun entry => entry.volume.cell).Nodup
  /-- A volume keeps the id that it was given until it is removed. -/
  carried : ∀ entry ∈ c.ledger, entry.volume ∉ c.removed →
    c.world.idOf entry.volume = entry.id
  gone : ∀ v ∈ c.removed, v ∈ c.ledger.map Registration.volume ∧ c.world.idOf v = none

namespace Sound

theorem start (root : NodeId) (drivers : Registry) (w : World σ) :
    Sound (Chronicle.start root drivers w) where
  nextId := rfl
  given := by
    intro k entry h
    cases h
  volumes := rfl
  known := by
    intro entry h
    cases h
  distinct := .nil
  carried := by
    intro entry h
    cases h
  gone := by
    intro v h
    cases h

variable {c : Chronicle σ} {t : MountTable} {w : World σ}

/-- A change that keeps list and ids keeps the chronicle sound. -/
theorem kept (h : c.Sound) (hkept : Kept c.table c.world t w) :
    Sound { c with table := t, world := w } where
  nextId := hkept.nextId.trans h.nextId
  given := h.given
  volumes := hkept.volumes.trans h.volumes
  known entry hentry := Nat.lt_of_lt_of_le (h.known entry hentry) hkept.cells
  distinct := h.distinct
  carried entry hentry hlive := (hkept.ids _).trans (h.carried entry hentry hlive)
  gone v hv := ⟨(h.gone v hv).1, (hkept.ids v).trans (h.gone v hv).2⟩

/-- Volumes that are listed or removed have been shared before. -/
theorem lt_next_of_removed (h : c.Sound) {v : VolumeHandle} (hv : v ∈ c.removed) :
    v.cell.index < c.world.cells.next := by
  obtain ⟨entry, hentry, rfl⟩ := List.mem_map.1 (h.gone v hv).1
  exact h.known entry hentry

theorem nodup_registered (h : c.Sound) : (c.ledger.map Registration.volume).Nodup := by
  refine List.Nodup.of_map VolumeHandle.cell ?_
  rw [List.map_map]
  exact h.distinct

/-- Two entries of the ledger for one shared volume are one entry. -/
theorem eq_of_same (h : c.Sound) {a b : Registration} (ha : a ∈ c.ledger) (hb : b ∈ c.ledger)
    (hsame : a.volume.Same b.volume) : a = b :=
  List.inj_on_of_nodup_map h.distinct ha hb hsame

/-- A listed volume has an entry in the ledger and has not been removed. -/
theorem mem_volumes_iff (h : c.Sound) {v : VolumeHandle} :
    v ∈ c.table.volumes ↔ (∃ entry ∈ c.ledger, entry.volume = v) ∧ v ∉ c.removed := by
  rw [h.volumes, List.mem_filter, List.mem_map, decide_eq_true_iff]

/-- One more registration, with the next id and on a new cell, keeps the chronicle sound. -/
theorem registered (h : c.Sound) {v : VolumeHandle}
    (hnew : c.world.cells.next ≤ v.cell.index) (hcells : v.cell.index < w.cells.next)
    (hvolumes : t.volumes = c.table.volumes ++ [v]) (hnext : t.nextId = c.table.nextId.next)
    (hids : ∀ u, w.idOf u = if v.Same u then some c.table.nextId else c.world.idOf u) :
    Sound
      { table := t, world := w, ledger := c.ledger ++ [⟨v, w.idOf v⟩], removed := c.removed } where
  nextId := by
    rw [hnext, h.nextId, VolumeId.next_advance, List.length_append, List.length_singleton]
  given := by
    intro k entry hk
    rcases getElem?_append_singleton_cases hk with hold | ⟨rfl, rfl⟩
    · exact h.given k entry hold
    · rw [hids, if_pos (show VolumeHandle.Same v v from rfl), h.nextId]
  volumes := by
    have hlive : v ∉ c.removed := fun hv => by
      have := h.lt_next_of_removed hv
      omega
    rw [hvolumes, h.volumes, List.map_append, List.filter_append]
    simp [hlive]
  known := by
    intro entry hentry
    rcases List.mem_append.1 hentry with hold | hlast
    · exact Nat.lt_trans (Nat.lt_of_lt_of_le (h.known entry hold) hnew) hcells
    · rw [List.mem_singleton.1 hlast]
      exact hcells
  distinct := by
    rw [List.map_append, List.map_singleton]
    refine List.nodup_append.2 ⟨h.distinct, List.nodup_singleton _, ?_⟩
    intro cell hcell last hlast heq
    obtain ⟨entry, hentry, rfl⟩ := List.mem_map.1 hcell
    rw [List.mem_singleton.1 hlast] at heq
    exact VolumeHandle.not_same_of_lt hnew (h.known entry hentry) heq.symm
  carried := by
    intro entry hentry hlive
    rcases List.mem_append.1 hentry with hold | hlast
    · rw [hids, if_neg (VolumeHandle.not_same_of_lt hnew (h.known entry hold))]
      exact h.carried entry hold hlive
    · rw [List.mem_singleton.1 hlast]
  gone := by
    intro u hu
    obtain ⟨hmem, hnone⟩ := h.gone u hu
    refine ⟨?_, ?_⟩
    · rw [List.map_append]
      exact List.mem_append_left _ hmem
    · rw [hids, if_neg (VolumeHandle.not_same_of_lt hnew (h.lt_next_of_removed hu)), hnone]

/-- Taking one listed volume out and clearing its id keeps the chronicle sound. -/
theorem removed (h : c.Sound) {v : VolumeHandle} (hv : v ∈ c.table.volumes)
    (hvolumes : t.volumes = c.table.volumes.erase v) (hnext : t.nextId = c.table.nextId)
    (hcells : c.world.cells.next ≤ w.cells.next)
    (hids : ∀ u, w.idOf u = if v.Same u then none else c.world.idOf u) :
    Sound { table := t, world := w, ledger := c.ledger, removed := c.removed ++ [v] } where
  nextId := hnext.trans h.nextId
  given := h.given
  volumes := by
    rw [hvolumes, h.volumes, erase_filter_notMem h.nodup_registered]
  known entry hentry := Nat.lt_of_lt_of_le (h.known entry hentry) hcells
  distinct := h.distinct
  carried := by
    intro entry hentry hlive
    rw [List.mem_append, not_or, List.mem_singleton] at hlive
    obtain ⟨⟨other, hother, rfl⟩, _⟩ := h.mem_volumes_iff.1 hv
    have hne : ¬ other.volume.Same entry.volume := fun hsame =>
      hlive.2 (congrArg _ (h.eq_of_same hother hentry hsame)).symm
    rw [hids, if_neg hne]
    exact h.carried entry hentry hlive.1
  gone := by
    intro u hu
    rcases List.mem_append.1 hu with hold | hlast
    · obtain ⟨hmem, hnone⟩ := h.gone u hold
      refine ⟨hmem, ?_⟩
      rw [hids, hnone]
      exact ite_self _
    · obtain rfl := List.mem_singleton.1 hlast
      refine ⟨List.mem_map.2 (h.mem_volumes_iff.1 hv).1, ?_⟩
      rw [hids, if_pos (show VolumeHandle.Same u u from rfl)]

end Sound

/-! ### Runs -/

variable [DriverModel σ]

/-- The chronicle after one more move. -/
def step (c : Chronicle σ) : Move σ → Chronicle σ
  | .deed deed => { c with world := deed.apply c.world }
  | .ask request =>
    let answer := c.table.handle c.world request
    { table := answer.2.1
      world := answer.2.2
      ledger := c.ledger ++ ((request.registered? c.table answer.1).map fun v =>
        { volume := v, id := answer.2.2.idOf v }).toList
      removed := c.removed ++ (request.removed? answer.1).toList }

/-- The chronicle after a number of moves. -/
def run (c : Chronicle σ) (moves : List (Move σ)) : Chronicle σ := moves.foldl step c

/-- One more move keeps a chronicle sound. -/
theorem Sound.step {c : Chronicle σ} (h : c.Sound) (move : Move σ) : (c.step move).Sound := by
  cases move with
  | deed deed => exact h.kept (.of_deed c.table c.world deed)
  | ask request =>
      have hchange := Change.of_handle c.table c.world request
      rw [Chronicle.step]
      generalize request.registered? c.table (c.table.handle c.world request).1 = entered
        at hchange ⊢
      generalize request.removed? (c.table.handle c.world request).1 = left at hchange ⊢
      cases hchange with
      | kept hkept =>
          have hsound := h.kept hkept
          rwa [← List.append_nil c.ledger, ← List.append_nil c.removed] at hsound
      | registered hnew hcells hvolumes hnext hids =>
          have hsound := h.registered hnew hcells hvolumes hnext hids
          rwa [← List.append_nil c.removed] at hsound
      | removed hv hvolumes hnext hcells hids =>
          have hsound := h.removed hv hvolumes hnext hcells hids
          rwa [← List.append_nil c.ledger] at hsound

/-- A sound chronicle stays sound, whatever moves follow. -/
theorem sound_run {c : Chronicle σ} (h : c.Sound) (moves : List (Move σ)) :
    (c.run moves).Sound := by
  induction moves generalizing c with
  | nil => exact h
  | cons move rest ih => exact ih (h.step move)

end Chronicle

end VolumeService
