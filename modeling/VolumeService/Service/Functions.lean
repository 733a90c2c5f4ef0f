import VolumeService.Service.Basic

/-! # The functions of the shared service

Callers without a mount table of their own use that of the system, through functions named like the
methods of a table.

* **Access.**  `exclusively` runs a piece of work on the table while the lock is held, and `look`
  one that only reads the table.  Both panic while there is no table, and both give the lock back
  however they end; work that itself panics is work whose result says so.
* **Functions.**  Each is one of the two with the method of its name as the work.
* **Requests** (`perform`).  A request is made by its function, or by looking at the table if it has
  none of its own.  Either way it is one call (`perform_eq_call`). -/

namespace VolumeService

/-- The outcome with another value in it. -/
def Outcome.map {α β : Type} (f : α → β) : Outcome α → Outcome β
  | value a => .value (f a)
  | panic p => .panic p
  | waits => .waits

namespace Service

variable {σ α β : Type}

/-- Runs work on the table of the system. -/
def exclusively (s : Service) (w : World σ)
    (work : MountTable → World σ → α × MountTable × World σ) : Outcome α × Service × World σ :=
  match s.volumes.acquire with
  | (false, _) => (.waits, s, w)
  | (true, held) =>
    match held.value with
    | none => (.panic .notInitialized, ⟨held.release⟩, w)
    | some t =>
      let result := work t w
      (.value result.1, ⟨(held.put (some result.2.1)).release⟩, result.2.2)

/-- Runs work that reads the table of the system. -/
def look (s : Service) (w : World σ) (read : MountTable → World σ → α × World σ) :
    Outcome α × Service × World σ :=
  match s.volumes.acquire with
  | (false, _) => (.waits, s, w)
  | (true, held) =>
    match held.value with
    | none => (.panic .notInitialized, ⟨held.release⟩, w)
    | some t =>
      let result := read t w
      (.value result.1, ⟨held.release⟩, result.2)

/-- A call with its result in another form. -/
def answering (form : α → β) (call : Outcome α × Service × World σ) :
    Outcome β × Service × World σ :=
  (call.1.map form, call.2)

/-! ### The functions -/

def register (s : Service) (w : World σ) (volume : Volume) :
    Outcome VolumeHandle × Service × World σ :=
  s.exclusively w fun t w => t.register w volume

def unregister (s : Service) (w : World σ) (v : VolumeHandle) :
    Outcome (Except ServiceError VolumeHandle) × Service × World σ :=
  s.exclusively w fun t w => t.unregister w v

def unmount (s : Service) (w : World σ) (name : String) :
    Outcome (Except ServiceError VolumeHandle) × Service × World σ :=
  s.exclusively w fun t w => t.unmount w name

def addDriver (s : Service) (w : World σ) (driver : DriverHandle) :
    Outcome (Except RegistryError Unit) × Service × World σ :=
  s.exclusively w fun t w => t.addDriver w driver

def find (s : Service) (w : World σ) (name : String) :
    Outcome (Option VolumeHandle) × Service × World σ :=
  s.look w fun t w => t.find w name

def resolve (s : Service) (w : World σ) (path : String) :
    Outcome (Except NodeError NodeId) × Service × World σ :=
  s.look w fun t w => (t.resolve w.graph path, w)

def systemVolume (s : Service) (w : World σ) : Outcome (Option VolumeHandle) × Service × World σ :=
  s.look w fun t w => t.systemVolume w

def listVolumes (s : Service) (w : World σ) : Outcome (List VolumeHandle) × Service × World σ :=
  s.look w fun t w => t.snapshot w

variable [DriverModel σ]

def mount (s : Service) (w : World σ) (device : NodeId) (name? : Option String) :
    Outcome (Except ServiceError VolumeHandle) × Service × World σ :=
  s.exclusively w fun t w => t.mount w device name?

def mountUsing (s : Service) (w : World σ) (device : NodeId) (driver : DriverHandle)
    (name? : Option String) : Outcome (Except ServiceError VolumeHandle) × Service × World σ :=
  s.exclusively w fun t w => t.mountUsing w device driver name?

def bootScan (s : Service) (w : World σ) (limit : Nat) :
    Outcome (Option (Except ServiceError VolumeHandle)) × Service × World σ :=
  s.exclusively w fun t w => t.bootScan w limit

/-- Has the function for a request make it. -/
def perform (s : Service) (w : World σ) : Request → Outcome Reply × Service × World σ
  | .mount device name? => answering .volume (s.mount w device name?)
  | .mountUsing device driver name? => answering .volume (s.mountUsing w device driver name?)
  | .unmount name => answering .volume (s.unmount w name)
  | .register volume => answering (fun v => .volume (.ok v)) (s.register w volume)
  | .unregister v => answering .volume (s.unregister w v)
  | .addDriver driver => answering .registered (s.addDriver w driver)
  | .bootScan limit =>
    answering (fun | some result => .volume result | none => .unfinished) (s.bootScan w limit)
  | .systemVolume => answering .found (s.systemVolume w)
  | .find name => answering .found (s.find w name)
  | .resolve path => answering .node (s.resolve w path)
  | .volumes => answering .volumes (s.listVolumes w)
  | .findId id => answering .found (s.look w fun t w => t.findId w id)
  | .root => answering .node (s.look w fun t w => (.ok t.root, w))
  | .identify device =>
    answering .driver (s.look w fun t w => w.identifyFirst device t.drivers.drivers)
  | .findDriver name => answering .driver (s.look w fun t w => (t.drivers.find? name, w))
  | .drivers => answering .drivers (s.look w fun t w => (t.drivers.drivers, w))

/-! ### Functions are calls -/

/-- A function whose work is what the table does on a request is the call with that request. -/
theorem exclusively_eq_call (s : Service) (w : World σ)
    {work : MountTable → World σ → α × MountTable × World σ} {form : α → Reply} {request : Request}
    (h : ∀ t w, t.handle w request = (form (work t w).1, (work t w).2)) :
    answering form (s.exclusively w work) = s.call w request := by
  unfold answering exclusively call
  obtain ⟨taken, held⟩ := s.volumes.acquire
  cases taken with
  | false => rfl
  | true =>
    dsimp only
    cases held.value with
    | none => rfl
    | some t =>
      dsimp only
      rw [h]
      rfl

theorem look_eq_call (s : Service) (w : World σ) {read : MountTable → World σ → α × World σ}
    {form : α → Reply} {request : Request}
    (h : ∀ t w, t.handle w request = (form (read t w).1, t, (read t w).2)) :
    answering form (s.look w read) = s.call w request := by
  unfold answering look call
  obtain ⟨taken, ⟨name, locked, value⟩⟩ := s.volumes.acquire
  cases taken with
  | false => rfl
  | true =>
    cases value with
    | none => rfl
    | some t =>
      dsimp only
      rw [h]
      rfl

/-- Each request that a function makes is one call of the service. -/
theorem perform_eq_call (s : Service) (w : World σ) (request : Request) :
    s.perform w request = s.call w request := by
  cases request with
  | mount device name? => exact s.exclusively_eq_call w fun _ _ => rfl
  | mountUsing device driver name? => exact s.exclusively_eq_call w fun _ _ => rfl
  | unmount name => exact s.exclusively_eq_call w fun _ _ => rfl
  | register volume => exact s.exclusively_eq_call w fun _ _ => rfl
  | unregister v => exact s.exclusively_eq_call w fun _ _ => rfl
  | addDriver driver => exact s.exclusively_eq_call w fun _ _ => rfl
  | bootScan limit =>
    refine s.exclusively_eq_call w fun t w => ?_
    rw [MountTable.handle]
    cases (t.bootScan w limit).1 <;> rfl
  | systemVolume => exact s.look_eq_call w fun _ _ => rfl
  | find name => exact s.look_eq_call w fun _ _ => rfl
  | findId id => exact s.look_eq_call w fun _ _ => rfl
  | resolve path => exact s.look_eq_call w fun _ _ => rfl
  | root => exact s.look_eq_call w fun _ _ => rfl
  | volumes => exact s.look_eq_call w fun _ _ => rfl
  | identify device => exact s.look_eq_call w fun _ _ => rfl
  | findDriver name => exact s.look_eq_call w fun _ _ => rfl
  | drivers => exact s.look_eq_call w fun _ _ => rfl

end Service

end VolumeService
