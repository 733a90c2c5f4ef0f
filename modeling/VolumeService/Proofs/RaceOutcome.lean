import VolumeService.Driver.Scripted
import VolumeService.Proofs.DependableMounts
import VolumeService.Proofs.Lists
import VolumeService.Proofs.RaceTurns

/-! # What races come to

Workers mount and unmount one device through the shared service, with a driver that can be relied
on.  Whatever the schedule, the calls take effect in some order, one after the other.

* **Rounds** (`Round`).  A round that goes well mounts a volume and, if it is to, gets this same
  volume back by its name.  No worker ever sees anything else (`Worker.OnTrack`).
* **The order** (`Race.Serial`).  The volumes mounted so far stand in one order: the `k`-th has the
  `k`-th made-up name and the `k`-th id, counted from where the table started, and the table lists
  them in that order, without those unmounted again.
* **No mix-up.**  Made-up names are never used twice, so unmounting by name cannot hit the volume
  of another worker, or one that was there before (`Serial.unmountStep`).
* **The end** (`Race.race_outcome`).  Once all workers are done, every name and id of the range has
  been given out once.  A schedule that lets each worker have its turns gets there. -/

namespace VolumeService

/-! ### Rounds -/

/-- A round that went well: whether it was to unmount, and what it mounted. -/
structure Round where
  unmounts : Bool
  volume : VolumeHandle
  id : Option VolumeId

/-- What the calls of a round brought. -/
def Round.events (round : Round) : List RaceEvent :=
  .mounted round.volume round.id ::
    if round.unmounts then [.unmounted round.volume round.volume] else []

/-- The volume that a call unmounted. -/
def RaceEvent.unmounted? : RaceEvent → Option VolumeHandle
  | .unmounted _ got => some got
  | _ => none

/-- A worker that set out with certain rounds has had none but good ones, and stands between two
rounds or, with a volume in hand, within one. -/
inductive Worker.OnTrack (first : List Bool) : Worker → Prop where
  | between {done : List Round} {rounds : List Bool}
      (h : first = done.map Round.unmounts ++ rounds) :
      OnTrack first { rounds, history := done.flatMap Round.events }
  | within {done : List Round} {rounds : List Bool} {v : VolumeHandle} {id : Option VolumeId}
      (h : first = done.map Round.unmounts ++ true :: rounds) :
      OnTrack first
        { rounds, inHand := some v, history := done.flatMap Round.events ++ [.mounted v id] }

namespace Worker

/-- A good mount keeps a worker on track. -/
theorem OnTrack.mounted {first rounds : List Bool} {unmounts : Bool} {history : List RaceEvent}
    (h : OnTrack first { rounds := unmounts :: rounds, history }) (v : VolumeHandle)
    (id : Option VolumeId) :
    OnTrack first
      { rounds
        inHand := if unmounts then some v else none
        history := history ++ [.mounted v id] } := by
  cases h with
  | @between done _ h =>
      cases unmounts with
      | false =>
          have hnext : OnTrack first
              { rounds, history := (done ++ [Round.mk false v id]).flatMap Round.events } :=
            .between (by simpa using h)
          simpa [Round.events] using hnext
      | true => exact .within h

/-- Getting back the volume in hand keeps a worker on track. -/
theorem OnTrack.unmounted {first : List Bool} {worker : Worker} {v : VolumeHandle}
    (h : OnTrack first worker) (hhand : worker.inHand = some v) :
    OnTrack first
      { worker with inHand := none, history := worker.history ++ [.unmounted v v] } := by
  cases h with
  | between h => cases hhand
  | @within done rounds u id h =>
      obtain rfl := Option.some.inj hhand
      have hnext : OnTrack first
          { rounds, history := (done ++ [Round.mk true u id]).flatMap Round.events } :=
        .between (by simpa using h)
      simpa [Round.events] using hnext

/-- No worker on track has seen anything but mounts and its own volumes coming back. -/
theorem OnTrack.event_cases {first : List Bool} {worker : Worker}
    (h : worker.OnTrack first) {event : RaceEvent} (hevent : event ∈ worker.history) :
    (∃ v id, event = .mounted v id) ∨ ∃ v, event = .unmounted v v := by
  have hround : ∀ done : List Round, event ∈ done.flatMap Round.events →
      (∃ v id, event = .mounted v id) ∨ ∃ v, event = .unmounted v v := by
    intro done hmem
    obtain ⟨⟨unmounts, v, id⟩, _, hmem⟩ := List.mem_flatMap.1 hmem
    rcases List.mem_cons.1 hmem with rfl | hmem
    · exact .inl ⟨v, id, rfl⟩
    · cases unmounts with
      | false => cases hmem
      | true => exact .inr ⟨v, List.mem_singleton.1 hmem⟩
  cases h with
  | between _ => exact hround _ hevent
  | @within _ _ v id _ =>
      rcases List.mem_append.1 hevent with hmem | hmem
      · exact hround _ hmem
      · exact .inl ⟨v, id, List.mem_singleton.1 hmem⟩

end Worker

/-! ### The order of the mounts -/

namespace Race

variable {σ : Type}

/-- The volumes that workers have unmounted, worker by worker. -/
def unmounted (r : Race σ) : List VolumeHandle :=
  r.workers.flatMap fun worker => worker.history.filterMap RaceEvent.unmounted?

/-- The volumes that workers have in hand. -/
def hands (r : Race σ) : List VolumeHandle := r.workers.flatMap fun worker => worker.inHand.toList

/-- The rounds that workers have not begun. -/
def roundsLeft (r : Race σ) : List Bool := r.workers.flatMap Worker.rounds

/-- The table after mounts in a certain order, of which some are undone. -/
def tableAfter (t : MountTable) (order gone : List VolumeHandle) : MountTable :=
  { t with
    volumes := t.volumes ++ order.filter fun v => decide (v ∉ gone)
    nextId := t.nextId.advance order.length
    nextSuffix := t.nextSuffix + .ofNat order.length }

/-- The table before any mount. -/
theorem tableAfter_nil (t : MountTable) (gone : List VolumeHandle) : tableAfter t [] gone = t := by
  simp [tableAfter, VolumeId.advance]

theorem tableAfter_congr (t : MountTable) (order : List VolumeHandle)
    {gone gone' : List VolumeHandle} (h : gone.Perm gone') :
    tableAfter t order gone = tableAfter t order gone' := by
  unfold tableAfter
  congr 2
  exact List.filter_congr fun v _ => decide_eq_decide.2 (not_congr h.mem_iff)

/-- The table after one more mount. -/
theorem tableAfter_append (t : MountTable) (order : List VolumeHandle) {gone : List VolumeHandle}
    {v : VolumeHandle} (hv : v ∉ gone) :
    tableAfter t (order ++ [v]) gone =
      { tableAfter t order gone with
        volumes := (tableAfter t order gone).volumes ++ [v]
        nextId := (tableAfter t order gone).nextId.next
        nextSuffix := (tableAfter t order gone).nextSuffix + 1 } := by
  simp [tableAfter, VolumeId.next_advance, hv, UInt64.ofNat_add, UInt64.add_assoc]

/-- The table after a mount has been undone. -/
theorem tableAfter_erase (t : MountTable) {order : List VolumeHandle} (hnodup : order.Nodup)
    (gone : List VolumeHandle) {v : VolumeHandle} (hv : v ∉ t.volumes) :
    tableAfter t order (gone ++ [v]) =
      { tableAfter t order gone with
        volumes := (tableAfter t order gone).volumes.erase v } := by
  unfold tableAfter
  dsimp only
  rw [List.erase_append_right _ hv, erase_filter_notMem hnodup]

/-! ### What one call changes for a worker -/

section set

variable {r r' : Race σ} {i : Nat} {worker worker' : Worker}

/-- What is read off the histories grows by what is read off the new events. -/
theorem history_set {β : Type} (f : RaceEvent → Option β) (hi : r.workers[i]? = some worker)
    (hworkers : r'.workers = r.workers.set i worker') {events : List RaceEvent}
    (hhistory : worker'.history = worker.history ++ events) :
    (r'.workers.flatMap fun worker => worker.history.filterMap f).Perm
      ((r.workers.flatMap fun worker => worker.history.filterMap f) ++ events.filterMap f) := by
  have hparts : (worker'.history.filterMap f ++ []).Perm
      (worker.history.filterMap f ++ events.filterMap f) := by
    rw [hhistory, List.filterMap_append, List.append_nil]
  have hset := perm_flatMap_set (fun worker => worker.history.filterMap f) hi hparts
  rwa [List.append_nil, ← hworkers] at hset

theorem hands_set (hi : r.workers[i]? = some worker)
    (hworkers : r'.workers = r.workers.set i worker') {lost gained : List VolumeHandle}
    (hhands : (worker'.inHand.toList ++ lost).Perm (worker.inHand.toList ++ gained)) :
    (r'.hands ++ lost).Perm (r.hands ++ gained) := by
  have hset := perm_flatMap_set (fun worker => worker.inHand.toList) hi hhands
  rwa [← hworkers] at hset

theorem roundsLeft_set (hi : r.workers[i]? = some worker)
    (hworkers : r'.workers = r.workers.set i worker') {begun : List Bool}
    (hrounds : worker.rounds = begun ++ worker'.rounds) :
    r'.roundsLeft.length + begun.length = r.roundsLeft.length := by
  have hparts : (worker'.rounds ++ begun).Perm (worker.rounds ++ []) := by
    rw [hrounds, List.append_nil]
    exact List.perm_append_comm
  have hset := perm_flatMap_set Worker.rounds hi hparts
  rw [← hworkers, List.append_nil] at hset
  rw [roundsLeft, roundsLeft, ← hset.length_eq, List.length_append]

end set

/-- A race from `start` on table `t` has come to `r` as if the volumes of `order` had been mounted
in this order. -/
structure Serial (start : Race σ) (t : MountTable) (ds : List DriverHandle) (fit : Graph → Prop)
    (own : CellId → σ → Prop) (r : Race σ) (order : List VolumeHandle) : Prop where
  device : r.device = start.device
  free : r.service.volumes.locked = false
  table : r.service.table? = some (tableAfter t order r.unmounted)
  /-- The `k`-th volume has the `k`-th name. -/
  names : ∀ k v, order[k]? = some v → v.name = anonymousName (t.nextSuffix.toNat + k)
  /-- The mounts of all workers are those of the order, the `k`-th with the `k`-th id. -/
  mounts : r.mounts.Perm (order.mapIdx fun k v => (v, some (t.nextId.advance k)))
  /-- No volume is unmounted twice, in two hands, or unmounted and in hand. -/
  apart : (r.unmounted ++ r.hands).Nodup
  known : ∀ v ∈ r.unmounted ++ r.hands, v ∈ order
  left : order.length + r.roundsLeft.length = start.roundsLeft.length
  onTrack : ∀ (i : Nat) (worker : Worker), r.workers[i]? = some worker →
    ∃ first, start.workers[i]? = some first ∧ worker.OnTrack first.rounds
  ready : r.world.Ready ds fit own

namespace Serial

variable {start r : Race σ} {t : MountTable} {ds : List DriverHandle} {fit : Graph → Prop}
  {own : CellId → σ → Prop} {order : List VolumeHandle}

/-- Volumes of the order are known by their names. -/
theorem eq_of_name_eq (h : Serial start t ds fit own r order) {u v : VolumeHandle} (hu : u ∈ order)
    (hv : v ∈ order) (hname : u.name = v.name) : u = v := by
  obtain ⟨j, hj⟩ := List.mem_iff_getElem?.1 hu
  obtain ⟨k, hk⟩ := List.mem_iff_getElem?.1 hv
  rw [h.names j u hj, h.names k v hk] at hname
  have hjk : j = k := by
    have := anonymousName_inj hname
    omega
  rw [hjk, hk] at hj
  exact (Option.some.inj hj).symm

theorem nodup (h : Serial start t ds fit own r order) : order.Nodup := by
  refine List.nodup_iff_getElem?_ne_getElem?.2 ?_
  intro j k hjk hk heq
  rw [List.getElem?_eq_getElem hk] at heq
  have hname := h.names j _ heq
  rw [h.names k _ (List.getElem?_eq_getElem hk)] at hname
  have := anonymousName_inj hname
  omega

/-- The volume of the next name is a new one. -/
theorem not_mem_of_name (h : Serial start t ds fit own r order) {v : VolumeHandle}
    (hname : v.name = anonymousName (t.nextSuffix.toNat + order.length)) : v ∉ order := by
  intro hv
  obtain ⟨k, hk⟩ := List.mem_iff_getElem?.1 hv
  have hlt : k < order.length := (List.getElem?_eq_some_iff.1 hk).1
  have := anonymousName_inj ((h.names k v hk).symm.trans hname)
  omega

/-- A worker that stays on track keeps all on track. -/
theorem onTrack_set (h : Serial start t ds fit own r order) {i : Nat} {worker worker' : Worker}
    (hi : r.workers[i]? = some worker)
    (hworker : ∀ first, worker.OnTrack first → worker'.OnTrack first) (j : Nat) (w : Worker)
    (hj : (r.workers.set i worker')[j]? = some w) :
    ∃ first, start.workers[j]? = some first ∧ w.OnTrack first.rounds := by
  rw [List.getElem?_set] at hj
  split at hj
  next hij =>
    split at hj
    next =>
      obtain rfl := Option.some.inj hj
      obtain ⟨first, hfirst, htrack⟩ := h.onTrack i worker hi
      exact ⟨first, hij ▸ hfirst, hworker _ htrack⟩
    next => cases hj
  next => exact h.onTrack j w hj

/-- One more mount takes effect after those before. -/
theorem mounted (h : Serial start t ds fit own r order) {i : Nat} {unmounts : Bool}
    {rounds : List Bool} {history : List RaceEvent} {v : VolumeHandle} {r' : Race σ}
    (hi : r.workers[i]? = some { rounds := unmounts :: rounds, history })
    (hname : v.name = anonymousName (t.nextSuffix.toNat + order.length))
    (hdevice : r'.device = r.device) (hfree : r'.service.volumes.locked = false)
    (htable : r'.service.table? = some
      { tableAfter t order r.unmounted with
        volumes := (tableAfter t order r.unmounted).volumes ++ [v]
        nextId := (tableAfter t order r.unmounted).nextId.next
        nextSuffix := (tableAfter t order r.unmounted).nextSuffix + 1 })
    (hworkers : r'.workers = r.workers.set i
      { rounds
        inHand := if unmounts then some v else none
        history := history ++ [.mounted v (some (t.nextId.advance order.length))] })
    (hready : r'.world.Ready ds fit own) :
    Serial start t ds fit own r' (order ++ [v]) := by
  have hnew := h.not_mem_of_name hname
  have hfresh : v ∉ r.unmounted ++ r.hands := fun hv => hnew (h.known v hv)
  have hmounts : r'.mounts.Perm (r.mounts ++ [(v, some (t.nextId.advance order.length))]) :=
    history_set RaceEvent.mount? hi hworkers rfl
  have hunmounted : r'.unmounted.Perm (r.unmounted ++ []) :=
    history_set RaceEvent.unmounted? hi hworkers rfl
  have hhands : (r'.hands ++ []).Perm (r.hands ++ if unmounts then [v] else []) :=
    hands_set hi hworkers (by cases unmounts <;> exact List.Perm.refl _)
  have hleft : r'.roundsLeft.length + [unmounts].length = r.roundsLeft.length :=
    roundsLeft_set hi hworkers rfl
  rw [List.append_nil] at hunmounted hhands
  have htaken : (r'.unmounted ++ r'.hands).Perm
      (r.unmounted ++ r.hands ++ if unmounts then [v] else []) := by
    rw [List.append_assoc]
    exact hunmounted.append hhands
  refine ⟨hdevice.trans h.device, hfree, ?_, ?_, ?_, ?_, ?_, ?_, ?_, hready⟩
  · have hlive : v ∉ r.unmounted := fun hv => hfresh (List.mem_append_left _ hv)
    rw [htable, tableAfter_congr t _ hunmounted, tableAfter_append t order hlive]
  · intro k u hk
    rcases getElem?_append_singleton_cases hk with hold | ⟨rfl, rfl⟩
    · exact h.names k u hold
    · exact hname
  · rw [List.mapIdx_concat]
    exact hmounts.trans (h.mounts.append_right _)
  · refine htaken.nodup_iff.2 (List.nodup_append.2 ⟨h.apart, ?_, ?_⟩)
    · cases unmounts <;> simp
    · intro u hu last hlast heq
      cases unmounts with
      | false => cases hlast
      | true =>
          rw [heq, List.mem_singleton.1 hlast] at hu
          exact hfresh hu
  · intro u hu
    rcases List.mem_append.1 (htaken.mem_iff.1 hu) with hold | hlast
    · exact List.mem_append_left _ (h.known u hold)
    · cases unmounts with
      | false => cases hlast
      | true => exact List.mem_append_right _ hlast
  · have := h.left
    rw [List.length_append]
    simp only [List.length_singleton] at hleft ⊢
    omega
  · rw [hworkers]
    exact h.onTrack_set hi fun first htrack => htrack.mounted v _

/-- One more unmount takes effect after those before. -/
theorem unmounted (h : Serial start t ds fit own r order) {i : Nat} {worker : Worker}
    {v : VolumeHandle} {r' : Race σ} (hi : r.workers[i]? = some worker)
    (hhand : worker.inHand = some v) (hv : v ∉ t.volumes) (hdevice : r'.device = r.device)
    (hfree : r'.service.volumes.locked = false)
    (htable : r'.service.table? = some
      { tableAfter t order r.unmounted with
        volumes := (tableAfter t order r.unmounted).volumes.erase v })
    (hworkers : r'.workers = r.workers.set i
      { worker with inHand := none, history := worker.history ++ [.unmounted v v] })
    (hready : r'.world.Ready ds fit own) : Serial start t ds fit own r' order := by
  have hmounts : r'.mounts.Perm (r.mounts ++ []) :=
    history_set RaceEvent.mount? hi hworkers rfl
  have hunmounted : r'.unmounted.Perm (r.unmounted ++ [v]) :=
    history_set RaceEvent.unmounted? hi hworkers rfl
  have hhands : (r'.hands ++ [v]).Perm (r.hands ++ []) :=
    hands_set hi hworkers (by rw [hhand]; exact List.Perm.refl _)
  have hleft : r'.roundsLeft.length + [].length = r.roundsLeft.length :=
    roundsLeft_set hi hworkers rfl
  rw [List.append_nil] at hmounts hhands
  have htaken : (r'.unmounted ++ r'.hands).Perm (r.unmounted ++ r.hands) := by
    have hmoved : ([v] ++ r'.hands).Perm r.hands := List.perm_append_comm.trans hhands
    have hparts := (hunmounted.append_right r'.hands).trans
      (List.append_assoc r.unmounted [v] r'.hands ▸ hmoved.append_left r.unmounted)
    exact hparts
  refine ⟨hdevice.trans h.device, hfree, ?_, h.names, hmounts.trans h.mounts,
    htaken.nodup_iff.2 h.apart, fun u hu => h.known u (htaken.mem_iff.1 hu), ?_, ?_, hready⟩
  · rw [htable, tableAfter_congr t _ hunmounted, tableAfter_erase t h.nodup r.unmounted hv]
  · have := h.left
    simp only [List.length_nil] at hleft
    omega
  · rw [hworkers]
    exact h.onTrack_set hi fun first htrack => htrack.unmounted hhand

/-- A volume in hand is mounted, and not unmounted yet. -/
theorem of_inHand (h : Serial start t ds fit own r order) {i : Nat} {worker : Worker}
    {v : VolumeHandle} (hi : r.workers[i]? = some worker) (hhand : worker.inHand = some v) :
    v ∈ order ∧ v ∉ r.unmounted := by
  have hv : v ∈ r.hands := List.mem_flatMap.2 ⟨worker, List.mem_of_getElem? hi, by simp [hhand]⟩
  refine ⟨h.known v (List.mem_append_right _ hv), fun hgone => ?_⟩
  exact (List.nodup_append.1 h.apart).2.2 v hgone v hv rfl

theorem names_eq (h : Serial start t ds fit own r order) :
    order.map VolumeHandle.name =
      (List.range order.length).map fun k => anonymousName (t.nextSuffix.toNat + k) := by
  refine List.ext_getElem (by simp) fun k hk _ => ?_
  rw [List.getElem_map, List.getElem_map, List.getElem_range]
  exact h.names k _ (List.getElem?_eq_getElem (by simpa using hk))

theorem names_perm (h : Serial start t ds fit own r order) :
    (r.mounts.map fun mount => mount.1.name).Perm
      ((List.range order.length).map fun k => anonymousName (t.nextSuffix.toNat + k)) := by
  have hmap := h.mounts.map fun mount => mount.1.name
  refine hmap.trans (List.Perm.of_eq ?_)
  rw [← h.names_eq]
  exact List.ext_getElem (by simp) fun k _ _ => by simp

/-- The ids given out are consecutive numbers, as long as there are any. -/
theorem ids_perm (h : Serial start t ds fit own r order)
    (hids : t.nextId.raw + order.length ≤ VolumeId.maxRaw + 1) :
    (r.mounts.map fun mount => mount.2.map VolumeId.raw).Perm
      ((List.range order.length).map fun k => some (t.nextId.raw + k)) := by
  have hmap := h.mounts.map fun mount => mount.2.map VolumeId.raw
  refine hmap.trans (List.Perm.of_eq ?_)
  refine List.ext_getElem (by simp) fun k hk _ => ?_
  have hlt : k < order.length := by simpa using hk
  simp only [List.getElem_map, List.getElem_mapIdx, List.getElem_range, Option.map_some]
  rw [VolumeId.raw_advance]
  congr 1
  omega

/-- A worker that is done has been through all its rounds. -/
theorem rounds_of_finished (h : Serial start t ds fit own r order) (hfinished : r.Finished)
    {i : Nat} {first last : Worker} (hfirst : start.workers[i]? = some first)
    (hlast : r.workers[i]? = some last) :
    ∃ done : List Round, done.map Round.unmounts = first.rounds ∧
      last.history = done.flatMap Round.events := by
  obtain ⟨other, hother, htrack⟩ := h.onTrack i last hlast
  obtain rfl := Option.some.inj (hfirst.symm.trans hother)
  obtain ⟨hrounds, hhand⟩ := hfinished last (List.mem_of_getElem? hlast)
  cases htrack with
  | @between done rounds hdone =>
      refine ⟨done, ?_, rfl⟩
      rw [hdone, show rounds = [] from hrounds, List.append_nil]
  | within _ => cases hhand

variable [DriverModel σ] {before after : List DriverHandle} {driver : DriverHandle}

/-- A worker that mounts gets the next volume. -/
theorem mountStep (hdep : DriverModel.Dependable start.device before driver fit own)
    (hdrivers : t.drivers.drivers = before ++ driver :: after)
    (hwords : t.nextSuffix.toNat + start.roundsLeft.length < UInt64.size)
    (h : Serial start t (before ++ [driver]) fit own r order) {i : Nat} {unmounts : Bool}
    {rounds : List Bool} {history : List RaceEvent}
    (hi : r.workers[i]? = some { rounds := unmounts :: rounds, history }) :
    ∃ v, Serial start t (before ++ [driver]) fit own
      (r.mountStep i { rounds := unmounts :: rounds, history } unmounts rounds) (order ++ [v]) := by
  obtain ⟨v, w', hmount, hname, hid, hready⟩ :=
    MountTable.mount_dependable (t := tableAfter t order r.unmounted) hdep hdrivers h.ready
  have hcall := Service.call_of_table h.free h.table r.world (.mount r.device none)
  rw [MountTable.handle, h.device, hmount] at hcall
  refine ⟨v, ?_⟩
  rw [Race.mountStep, h.device, hcall]
  have hnumber : (tableAfter t order r.unmounted).nextSuffix.toNat =
      t.nextSuffix.toNat + order.length := by
    have hleft := h.left
    exact MountTable.toNat_add_ofNat (by omega)
  rw [hnumber] at hname
  refine h.mounted hi hname h.device.symm h.free rfl ?_ ?_
  · dsimp only
    rw [hid]
    rfl
  · cases unmounts with
    | false => exact hready.of_drivers_eq rfl hready.fit
    | true => exact hready

/-- A worker that unmounts gets the volume in its hand. -/
theorem unmountStep
    (hothers : ∀ u ∈ t.volumes, ∀ k, t.nextSuffix.toNat ≤ k →
      k < t.nextSuffix.toNat + start.roundsLeft.length → u.name ≠ anonymousName k)
    (h : Serial start t ds fit own r order) {i : Nat} {worker : Worker} {v : VolumeHandle}
    (hi : r.workers[i]? = some worker) (hhand : worker.inHand = some v) :
    Serial start t ds fit own (r.unmountStep i worker v) order := by
  obtain ⟨hv, hlive⟩ := h.of_inHand hi hhand
  have hforeign : ∀ u ∈ t.volumes, u.name ≠ v.name := by
    intro u hu
    obtain ⟨k, hk⟩ := List.mem_iff_getElem?.1 hv
    have hlt : k < order.length := (List.getElem?_eq_some_iff.1 hk).1
    have hleft := h.left
    rw [h.names k v hk]
    exact hothers u hu _ (Nat.le_add_right ..) (by omega)
  have hlisted : v ∈ (tableAfter t order r.unmounted).volumes :=
    List.mem_append_right _ (List.mem_filter.2 ⟨hv, decide_eq_true hlive⟩)
  have hunique : ∀ u ∈ (tableAfter t order r.unmounted).volumes, u.name = v.name → u = v := by
    intro u hu hname
    rcases List.mem_append.1 hu with hu | hu
    · exact absurd hname (hforeign u hu)
    · exact h.eq_of_name_eq (List.mem_filter.1 hu).1 hv hname
  obtain ⟨w', hunmount, hdrivers, hgraph⟩ :=
    MountTable.unmount_of_unique r.world hlisted hunique
  have hcall := Service.call_of_table h.free h.table r.world (.unmount v.name)
  rw [MountTable.handle, hunmount] at hcall
  rw [Race.unmountStep, hcall]
  refine h.unmounted hi hhand (fun hmem => hforeign v hmem rfl) rfl h.free rfl rfl ?_
  refine h.ready.of_drivers_eq hdrivers ?_
  show fit w'.graph
  rw [hgraph]
  exact h.ready.fit

/-- Whoever's call is next, the calls so far have taken effect in some order. -/
theorem step (hdep : DriverModel.Dependable start.device before driver fit own)
    (hdrivers : t.drivers.drivers = before ++ driver :: after)
    (hwords : t.nextSuffix.toNat + start.roundsLeft.length < UInt64.size)
    (hothers : ∀ u ∈ t.volumes, ∀ k, t.nextSuffix.toNat ≤ k →
      k < t.nextSuffix.toNat + start.roundsLeft.length → u.name ≠ anonymousName k)
    (h : Serial start t (before ++ [driver]) fit own r order) (i : Nat) :
    ∃ order', Serial start t (before ++ [driver]) fit own (r.step i) order' := by
  unfold Race.step
  split
  next => exact ⟨order, h⟩
  next worker hi =>
    split
    next v hhand => exact ⟨order, h.unmountStep hothers hi hhand⟩
    next unmounts rounds hhand hrounds =>
      obtain ⟨_, _, history⟩ := worker
      obtain rfl : _ = none := hhand
      obtain rfl : _ = unmounts :: rounds := hrounds
      obtain ⟨v, hnext⟩ := h.mountStep hdep hdrivers hwords hi
      exact ⟨_, hnext⟩
    next => exact ⟨order, h⟩

end Serial

/-! ### Whole schedules -/

section runs

variable [DriverModel σ] {start : Race σ} {t : MountTable} {before after : List DriverHandle}
  {driver : DriverHandle} {fit : Graph → Prop} {own : CellId → σ → Prop}

omit [DriverModel σ] in
/-- Before the first call nothing is mounted. -/
theorem serial_start {ds : List DriverHandle} (hready : start.world.Ready ds fit own)
    (hfree : start.service.volumes.locked = false) (htable : start.service.table? = some t)
    (hworkers : ∀ worker ∈ start.workers, worker.inHand = none ∧ worker.history = []) :
    Serial start t ds fit own start [] := by
  have hmounts : start.mounts = [] := List.flatMap_eq_nil_iff.2 fun worker hmem => by
    rw [(hworkers worker hmem).2]
    rfl
  have hunmounted : start.unmounted = [] := List.flatMap_eq_nil_iff.2 fun worker hmem => by
    rw [(hworkers worker hmem).2]
    rfl
  have hhands : start.hands = [] := List.flatMap_eq_nil_iff.2 fun worker hmem => by
    rw [(hworkers worker hmem).1]
    rfl
  refine ⟨rfl, hfree, ?_, ?_, ?_, ?_, ?_, Nat.zero_add _, ?_, hready⟩
  · rw [htable, tableAfter_nil]
  · intro k v hk
    cases hk
  · rw [hmounts]
    exact List.Perm.refl _
  · rw [hunmounted, hhands]
    exact List.nodup_nil
  · rw [hunmounted, hhands]
    intro v hv
    cases hv
  · intro i worker hi
    refine ⟨worker, hi, ?_⟩
    obtain ⟨hhand, hhistory⟩ := hworkers worker (List.mem_of_getElem? hi)
    obtain ⟨rounds, _, _⟩ := worker
    obtain rfl : _ = none := hhand
    obtain rfl : _ = [] := hhistory
    exact .between (show rounds = List.map Round.unmounts [] ++ rounds from rfl)

/-- After any schedule the calls so far have taken effect in some order. -/
theorem serial_run (hdep : DriverModel.Dependable start.device before driver fit own)
    (hdrivers : t.drivers.drivers = before ++ driver :: after)
    (hwords : t.nextSuffix.toNat + start.roundsLeft.length < UInt64.size)
    (hothers : ∀ u ∈ t.volumes, ∀ k, t.nextSuffix.toNat ≤ k →
      k < t.nextSuffix.toNat + start.roundsLeft.length → u.name ≠ anonymousName k)
    {r : Race σ} {order : List VolumeHandle}
    (h : Serial start t (before ++ [driver]) fit own r order) (schedule : List Nat) :
    ∃ order', Serial start t (before ++ [driver]) fit own (r.run schedule) order' := by
  induction schedule generalizing r order with
  | nil => exact ⟨order, h⟩
  | cons i rest ih =>
      obtain ⟨order', hstep⟩ := h.step hdep hdrivers hwords hothers i
      exact ih hstep

end runs

/-! ### The outcome -/

theorem length_roundsLeft {r : Race σ} {per : Nat}
    (h : ∀ worker ∈ r.workers, worker.rounds.length = per) :
    r.roundsLeft.length = r.workers.length * per := by
  rw [roundsLeft]
  generalize r.workers = workers at h ⊢
  induction workers with
  | nil => rw [List.flatMap_nil, List.length_nil, List.length_nil, Nat.zero_mul]
  | cons worker rest ih =>
      rw [List.flatMap_cons, List.length_append, h worker (List.mem_cons_self ..),
        ih fun other hmem => h other (List.mem_cons_of_mem _ hmem), List.length_cons,
        Nat.succ_mul, Nat.add_comm]

theorem roundsLeft_of_finished {r : Race σ} (h : r.Finished) : r.roundsLeft = [] :=
  List.flatMap_eq_nil_iff.2 fun worker hmem => (h worker hmem).1

variable [DriverModel σ]

/-- Workers that mount one device without names through the shared service, in any interleaving of
their calls, get what they would get one after the other: every call succeeds, every unmount gives
back the worker's own volume, and in the end exactly the next names and ids have been given out and
the table lists, after what it listed before, the volumes not unmounted in the order of their
mounts.  This holds as long as there are numbers for all the names and ids, and none of these names
is taken. -/
theorem race_outcome {before after : List DriverHandle} {driver : DriverHandle}
    {fit : Graph → Prop} {own : CellId → σ → Prop} (start : Race σ) (t : MountTable)
    (threads per : Nat)
    (hdep : DriverModel.Dependable start.device before driver fit own)
    (hready : start.world.Ready (before ++ [driver]) fit own)
    (hfree : start.service.volumes.locked = false) (htable : start.service.table? = some t)
    (hdrivers : t.drivers.drivers = before ++ driver :: after)
    (hthreads : start.workers.length = threads)
    (hworkers : ∀ worker ∈ start.workers, worker.inHand = none ∧ worker.history = [])
    (hrounds : ∀ worker ∈ start.workers, worker.rounds.length = per)
    (hids : t.nextId.raw + threads * per ≤ VolumeId.maxRaw + 1)
    (hwords : t.nextSuffix.toNat + threads * per < UInt64.size)
    (hothers : ∀ v ∈ t.volumes, ∀ k, t.nextSuffix.toNat ≤ k →
      k < t.nextSuffix.toNat + threads * per → v.name ≠ anonymousName k)
    (schedule : List Nat) :
    let r := start.run schedule
    (∀ worker ∈ r.workers, ∀ event ∈ worker.history,
      (∃ v id, event = .mounted v id) ∨ ∃ v, event = .unmounted v v) ∧
    ((∀ i, i < threads → 2 * per ≤ schedule.count i) → r.Finished) ∧
    (r.Finished →
      (r.mounts.map fun mount => mount.1.name).Perm
        ((List.range (threads * per)).map fun k => anonymousName (t.nextSuffix.toNat + k)) ∧
      (r.mounts.map fun mount => mount.2.map VolumeId.raw).Perm
        ((List.range (threads * per)).map fun k => some (t.nextId.raw + k)) ∧
      (∀ (i : Nat) (first last : Worker), start.workers[i]? = some first →
        r.workers[i]? = some last → ∃ done : List Round,
          done.map Round.unmounts = first.rounds ∧ last.history = done.flatMap Round.events) ∧
      r.service.volumes.locked = false ∧
      ∃ order : List VolumeHandle,
        r.mounts.Perm (order.mapIdx fun k v => (v, some (t.nextId.advance k))) ∧
        order.map VolumeHandle.name =
          ((List.range (threads * per)).map fun k => anonymousName (t.nextSuffix.toNat + k)) ∧
        r.service.table? = some
          { t with
            volumes := t.volumes ++ order.filter fun v => decide (v ∉ r.unmounted)
            nextId := t.nextId.advance (threads * per)
            nextSuffix := t.nextSuffix + .ofNat (threads * per) }) := by
  intro r
  have htotal : start.roundsLeft.length = threads * per := by
    rw [length_roundsLeft hrounds, hthreads]
  obtain ⟨order, h⟩ := serial_run hdep hdrivers (htotal ▸ hwords) (htotal ▸ hothers)
    (serial_start hready hfree htable hworkers) schedule
  refine ⟨?_, ?_, ?_⟩
  · intro worker hworker event hevent
    obtain ⟨i, hi⟩ := List.mem_iff_getElem?.1 hworker
    obtain ⟨first, _, htrack⟩ := h.onTrack i worker hi
    exact htrack.event_cases hevent
  · intro hturns
    refine finished_of_turns (fun worker hmem => (hworkers worker hmem).1) ?_
    intro i worker hi
    have hlt : i < threads := hthreads ▸ (List.getElem?_eq_some_iff.1 hi).1
    rw [hrounds worker (List.mem_of_getElem? hi)]
    exact hturns i hlt
  · intro hfinished
    have hlength : order.length = threads * per := by
      have hleft := h.left
      rw [roundsLeft_of_finished hfinished, htotal] at hleft
      exact hleft
    have hnames := h.names_perm
    have hnumbers := h.ids_perm (hlength ▸ hids)
    have horder := h.names_eq
    rw [hlength] at hnames hnumbers horder
    refine ⟨hnames, hnumbers, fun i first last => h.rounds_of_finished hfinished, h.free, order,
      h.mounts, horder, ?_⟩
    rw [h.table, tableAfter, hlength]

end Race

/-! ### Two workers -/

namespace RaceExample

/-- A driver that recognises everything and builds volumes without trees. -/
def script (probes : Nat) : ScriptedDriver :=
  { format := "fat", identify := .always, mount := .treeless, probes }

/-- A table whose next made-up name is `volume3`. -/
def table : MountTable :=
  { MountTable.create ⟨0⟩ ⟨[⟨"fat", ⟨0⟩⟩]⟩ with nextSuffix := 3 }

/-- Two workers with one round each, of whom the first is going to unmount. -/
def start : Race ScriptedDriver where
  device := ⟨1⟩
  service := ⟨.named "VOLUMES" (some table)⟩
  world :=
    { graph := (Graph.empty.push (.newDirectory "/")).push (.newImage "disk" [])
      drivers := Store.empty.push (script 0) }
  workers := [{ rounds := [true] }, { rounds := [false] }]

theorem dependable :
    DriverModel.Dependable (σ := ScriptedDriver) ⟨1⟩ [] ⟨"fat", ⟨0⟩⟩
      (fun g => g.isDevice ⟨1⟩ = true) (fun _ d => ∃ probes, d = script probes) where
  isDevice := id
  linked := by
    intro g n parent hg
    rw [Graph.isDevice, Graph.kind_eq, Graph.content?_reparent, ← Graph.kind_eq]
    exact hg
  passes := by
    intro d hd
    cases hd
  recognises := by
    rintro g _ hg ⟨probes, rfl⟩
    exact ⟨⟨probes + 1, rfl⟩, hg, rfl⟩
  mounts := by
    rintro g name _ hg ⟨probes, rfl⟩
    exact ⟨⟨probes, rfl⟩, hg, _, rfl, rfl⟩

/-- In turns, the two workers get the next two names and finish. -/
theorem race_of_two :
    let r := start.run [0, 1, 0, 1]
    r.Finished ∧
      (r.mounts.map fun mount => mount.1.name).Perm [anonymousName 3, anonymousName 4] := by
  have hready : start.world.Ready ([] ++ [⟨"fat", ⟨0⟩⟩]) (fun g => g.isDevice ⟨1⟩ = true)
      (fun _ d => ∃ probes, d = script probes) := by
    refine ⟨?_, by decide, by decide⟩
    intro driver hmem state hstate
    obtain rfl := List.mem_singleton.1 hmem
    exact ⟨0, (Option.some.inj hstate).symm⟩
  obtain ⟨_, hturns, houtcome⟩ := Race.race_outcome start table 2 1 dependable hready rfl rfl rfl
    rfl (by decide) (by decide) (by decide) (by decide) (fun v hv => by cases hv) [0, 1, 0, 1]
  have hfinished := hturns (by decide)
  exact ⟨hfinished, (houtcome hfinished).1⟩

end RaceExample

end VolumeService
