import VolumeService.System

/-! # Operations under other settings of the log

The filter level and the sink decide who reads a record, and nothing else.  So each operation does
under one setting of the log what it does under any other.

* **The world under other settings** (`World.under`).  It is the same but for the log: its settings
  are others, all its records went where these settings send them, and the trace may begin with
  another past.
* **Operations commute with it.**  An operation answers the same under other settings, and leaves
  the world that it leaves otherwise, under these settings.  There is one lemma for each operation,
  from single reports (`World.emit_under`) to the requests to a mount table
  (`MountTable.handle_under`) and to a whole system (`System.request_under`). -/

namespace VolumeService

/-- The event under other settings of the log: a record goes where these settings send it. -/
def Event.under (config : Log.Config) : Event → Event
  | record r _ => record r (config.recipient r.level)
  | identify driver device answer => identify driver device answer
  | mount driver device name => mount driver device name

variable {σ : Type} (config : Log.Config) (past : List Event)

namespace World

/-- The world under other settings of the log, and after another past. -/
def under (w : World σ) : World σ :=
  { w with log := config, trace := past ++ w.trace.map (Event.under config) }

variable (w : World σ)

theorem emit_under (record : Log.Record) :
    (w.under config past).emit record = (w.emit record).under config past := by
  unfold emit under
  simp [Event.under]

theorem notify_under (notice : Notice) :
    (w.under config past).notify notice = (w.notify notice).under config past :=
  w.emit_under config past notice.record

theorem linkMountPoint_under (volume : Volume) (parent : NodeId) :
    (w.under config past).linkMountPoint volume parent =
      (w.linkMountPoint volume parent).under config past := by
  unfold linkMountPoint
  split <;> rfl

theorem foldl_under {f : World σ → VolumeHandle → World σ}
    (hf : ∀ (w : World σ) v, f (w.under config past) v = (f w v).under config past)
    (list : List VolumeHandle) :
    list.foldl f (w.under config past) = (list.foldl f w).under config past := by
  induction list generalizing w with
  | nil => rfl
  | cons v rest ih =>
      rw [List.foldl_cons, hf, ih]
      rfl

variable [DriverModel σ]

theorem identify_under (driver : DriverHandle) (device : NodeId) :
    (w.under config past).identify driver device =
      ((w.identify driver device).1, (w.identify driver device).2.under config past) := by
  unfold identify
  rw [show (w.under config past).drivers = w.drivers from rfl]
  split
  next => rfl
  next => simp [under, Event.under]

theorem identifyFirst_under (device : NodeId) (drivers : List DriverHandle) :
    (w.under config past).identifyFirst device drivers =
      ((w.identifyFirst device drivers).1,
        (w.identifyFirst device drivers).2.under config past) := by
  induction drivers generalizing w with
  | nil => rfl
  | cons driver rest ih =>
      rw [identifyFirst, identifyFirst, identify_under]
      obtain ⟨answer, w'⟩ := w.identify driver device
      cases answer with
      | true => rfl
      | false => exact ih w'

theorem mountVia_under (driver : DriverHandle) (device : NodeId) (name : String) :
    (w.under config past).mountVia driver device name =
      ((w.mountVia driver device name).1,
        (w.mountVia driver device name).2.under config past) := by
  unfold mountVia
  rw [show (w.under config past).drivers = w.drivers from rfl]
  split
  next => rfl
  next => simp [under, Event.under]

end World

/-! ### Registries -/

namespace Registry

theorem register_under (r : Registry) (w : World σ) (driver : DriverHandle) :
    r.register (w.under config past) driver =
      ((r.register w driver).1, (r.register w driver).2.1,
        (r.register w driver).2.2.under config past) := by
  unfold register
  split
  next => rw [World.notify_under]
  next => rw [World.notify_under]

theorem registerAll_under (r : Registry) (w : World σ) (drivers : List DriverHandle) :
    r.registerAll (w.under config past) drivers =
      ((r.registerAll w drivers).1, (r.registerAll w drivers).2.1,
        (r.registerAll w drivers).2.2.under config past) := by
  induction drivers generalizing r w with
  | nil => rfl
  | cons driver rest ih =>
      simp only [registerAll, register_under, ih]

end Registry

/-! ### Mount tables -/

namespace MountTable

variable (t : MountTable) (w : World σ)

theorem handOut_under (found : Option VolumeHandle) :
    handOut found (w.under config past) =
      ((handOut found w).1, (handOut found w).2.under config past) := by
  cases found <;> rfl

theorem snapshot_under :
    t.snapshot (w.under config past) =
      ((t.snapshot w).1, (t.snapshot w).2.under config past) := by
  unfold snapshot
  rw [World.foldl_under config past w (fun _ _ => rfl)]

theorem addDriver_under (driver : DriverHandle) :
    t.addDriver (w.under config past) driver =
      ((t.addDriver w driver).1, (t.addDriver w driver).2.1,
        (t.addDriver w driver).2.2.under config past) := by
  unfold addDriver
  rw [Registry.register_under]

theorem register_under (volume : Volume) :
    t.register (w.under config past) volume =
      ((t.register w volume).1, (t.register w volume).2.1,
        (t.register w volume).2.2.under config past) := by
  have hshare : (w.under config past).share (some t.nextId) =
      (w.share (some t.nextId)).under config past := rfl
  unfold register
  rw [hshare, World.linkMountPoint_under]
  rfl

theorem removeFirst?_under (p : VolumeHandle → Bool) :
    t.removeFirst? (w.under config past) p =
      (t.removeFirst? w p).map fun removed =>
        (removed.1, removed.2.1, removed.2.2.under config past) := by
  unfold removeFirst?
  rw [Option.map_map]
  rfl

theorem unregister_under (v : VolumeHandle) :
    t.unregister (w.under config past) v =
      ((t.unregister w v).1, (t.unregister w v).2.1,
        (t.unregister w v).2.2.under config past) := by
  unfold unregister
  rw [removeFirst?_under]
  cases t.removeFirst? w fun u => decide (u.Same v) with
  | none => simp only [Option.map_none, World.notify_under]
  | some removed => rfl

theorem unmount_under (name : String) :
    t.unmount (w.under config past) name =
      ((t.unmount w name).1, (t.unmount w name).2.1,
        (t.unmount w name).2.2.under config past) := by
  unfold unmount
  rw [removeFirst?_under]
  cases t.removeFirst? w fun u => decide (u.name = name) with
  | none => simp only [Option.map_none, World.notify_under]
  | some removed =>
      obtain ⟨v, t', w'⟩ := removed
      have hcount : t'.otherHandles (w'.under config past) v = t'.otherHandles w' v := rfl
      simp only [Option.map_some, hcount, World.notify_under]
      split <;> rw [World.notify_under]

theorem releaseAll_under :
    t.releaseAll (w.under config past) = (t.releaseAll w).under config past := by
  unfold releaseAll
  rw [World.foldl_under config past w (fun _ _ => rfl),
    World.foldl_under config past _ (fun _ _ => rfl)]

theorem adopt_under (device : NodeId) (driver : DriverHandle) (name : String) (volume : Volume) :
    t.adopt (w.under config past) device driver name volume =
      ((t.adopt w device driver name volume).1, (t.adopt w device driver name volume).2.1,
        (t.adopt w device driver name volume).2.2.under config past) := by
  unfold adopt
  rw [register_under]
  split
  next =>
    simp only [World.notify_under]
    rfl
  next =>
    rw [World.notify_under]
    rfl

variable [DriverModel σ]

theorem build_under (device : NodeId) (driver : DriverHandle) (name : String) :
    t.build (w.under config past) device driver name =
      ((t.build w device driver name).1, (t.build w device driver name).2.1,
        (t.build w device driver name).2.2.under config past) := by
  unfold build
  rw [World.mountVia_under]
  obtain ⟨built, w'⟩ := w.mountVia driver device name
  cases built with
  | ok volume => exact t.adopt_under config past w' device driver name volume
  | error cause =>
      simp only [World.notify_under]
      rfl

theorem mountUsing_under (device : NodeId) (driver : DriverHandle) (name? : Option String) :
    t.mountUsing (w.under config past) device driver name? =
      ((t.mountUsing w device driver name?).1, (t.mountUsing w device driver name?).2.1,
        (t.mountUsing w device driver name?).2.2.under config past) := by
  unfold mountUsing
  rw [World.identify_under, show (w.under config past).graph = w.graph from rfl]
  split
  next =>
    obtain ⟨answer, w'⟩ := w.identify driver device
    cases answer with
    | false =>
        simp only [World.notify_under]
        rfl
    | true =>
        dsimp only
        split
        next =>
          rw [World.notify_under]
          rfl
        next name t' _ => exact t'.build_under config past w' device driver name
  next => rw [World.notify_under]

theorem mount_under (device : NodeId) (name? : Option String) :
    t.mount (w.under config past) device name? =
      ((t.mount w device name?).1, (t.mount w device name?).2.1,
        (t.mount w device name?).2.2.under config past) := by
  unfold mount
  rw [World.identifyFirst_under, show (w.under config past).graph = w.graph from rfl]
  split
  next =>
    obtain ⟨found, w'⟩ := w.identifyFirst device t.drivers.drivers
    cases found with
    | none =>
        simp only [World.notify_under]
        rfl
    | some driver => exact t.mountUsing_under config past w' device driver name?
  next => rw [World.notify_under]

/-! ### The boot scan -/

theorem trySystem_under (dev : NodeId) (name : String) :
    t.trySystem (w.under config past) dev name =
      ((t.trySystem w dev name).1, (t.trySystem w dev name).2.1,
        (t.trySystem w dev name).2.2.under config past) := by
  unfold trySystem
  rw [show (w.under config past).graph = w.graph from rfl]
  split
  next => rfl
  next device _ =>
    rw [World.identifyFirst_under]
    split
    next =>
      obtain ⟨found, w'⟩ := w.identifyFirst device t.drivers.drivers
      cases found with
      | none => rfl
      | some driver =>
          dsimp only
          rw [mountUsing_under]
    next => rfl

omit [DriverModel σ] in
theorem setSystem_under (line : String) (v : VolumeHandle) :
    t.setSystem (w.under config past) line v =
      ((t.setSystem w line v).1, (t.setSystem w line v).2.under config past) := by
  unfold setSystem
  rw [World.notify_under]
  rfl

theorem scan_under (dev : NodeId) (limit : Nat) (cursor : Cursor) :
    t.scan dev limit cursor (w.under config past) =
      ((t.scan dev limit cursor w).1, (t.scan dev limit cursor w).2.1,
        (t.scan dev limit cursor w).2.2.under config past) := by
  induction limit generalizing cursor t w with
  | zero => rfl
  | succ limit ih =>
      rw [scan, scan, show (w.under config past).graph = w.graph from rfl]
      split
      next => rw [World.notify_under]
      next position line cursor _ =>
        rw [World.notify_under, trySystem_under]
        obtain ⟨found, t', w'⟩ :=
          t.trySystem (w.notify (.scanVisits position.toNat line.name)) dev line.name
        cases found with
        | none => exact ih t' w' cursor
        | some v =>
            dsimp only
            rw [setSystem_under]

theorem bootScan_under (limit : Nat) :
    t.bootScan (w.under config past) limit =
      ((t.bootScan w limit).1, (t.bootScan w limit).2.1,
        (t.bootScan w limit).2.2.under config past) := by
  unfold bootScan
  split
  next =>
    rw [World.notify_under]
    rfl
  next =>
    rw [show (w.under config past).graph = w.graph from rfl]
    split
    next => rw [World.notify_under]
    next dev _ => exact t.scan_under config past w dev limit .start

/-! ### Requests -/

/-- A request is answered alike under other settings of the log. -/
theorem handle_under (request : Request) :
    t.handle (w.under config past) request =
      ((t.handle w request).1, (t.handle w request).2.1,
        (t.handle w request).2.2.under config past) := by
  cases request with
  | mount device name? => simp only [handle, mount_under]
  | mountUsing device driver name? => simp only [handle, mountUsing_under]
  | unmount name => simp only [handle, unmount_under]
  | register volume => simp only [handle, register_under]
  | unregister v => simp only [handle, unregister_under]
  | addDriver driver => simp only [handle, addDriver_under]
  | bootScan limit =>
      simp only [handle, bootScan_under]
      cases (t.bootScan w limit).1 <;> rfl
  | systemVolume => simp only [handle, systemVolume, handOut_under]
  | find name => simp only [handle, find, handOut_under]
  | findId id =>
      have hfound : t.withId? (w.under config past) id = t.withId? w id := rfl
      simp only [handle, findId, hfound, handOut_under]
  | resolve path => rfl
  | root => rfl
  | volumes => simp only [handle, snapshot_under]
  | identify device => simp only [handle, World.identifyFirst_under]
  | findDriver name => rfl
  | drivers => rfl

end MountTable

/-! ### Systems -/

theorem Service.call_under [DriverModel σ] (s : Service) (w : World σ) (request : Request) :
    s.call (w.under config past) request =
      ((s.call w request).1, (s.call w request).2.1,
        (s.call w request).2.2.under config past) := by
  unfold call
  split
  next => rfl
  next held _ =>
    split
    next => rfl
    next => rw [MountTable.handle_under]

namespace System

/-- The system under other settings of the log, and after another past. -/
def under (s : System σ) : System σ := s.modifyWorld (World.under config past)

theorem closeTable_under (s : System σ) (id : TableId) :
    (s.under config past).closeTable id = (s.closeTable id).under config past := by
  unfold closeTable
  rw [show (s.under config past).table? id = s.table? id from rfl]
  split
  next => rfl
  next t _ =>
    show System.mk (t.releaseAll (s.world.under config past)) _ _ = _
    rw [MountTable.releaseAll_under]
    rfl

theorem request_under [DriverModel σ] (s : System σ) (target : Target) (r : Request) :
    (s.under config past).request target r =
      (s.request target r).map fun answer => (answer.1, answer.2.under config past) := by
  cases target with
  | service =>
      show some _ = some _
      simp only [under, modifyWorld, Service.call_under]
  | table id =>
      have hworld : (s.under config past).world = s.world.under config past := rfl
      unfold request
      rw [Option.map_map, hworld]
      refine Option.map_congr fun t _ => ?_
      simp only [MountTable.handle_under]
      rfl

end System

end VolumeService
