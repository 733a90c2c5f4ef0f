import VolumeService.Proofs.Chronicle

/-! # The system slot over whole histories

The slot for the system volume starts empty and is written once, by the first boot scan that ends
with a volume.

* **Who writes it** (`MountTable.system_handle`).  A request leaves the slot as it is, unless it is
  a boot scan that ends with a volume and finds the slot empty.
* **Boot scans afterwards** (`MountTable.bootScan_of_system`) answer what is in the slot, whatever
  there is in the namespace and whatever became of that volume.
* **Histories** (`Chronicle.system_run`).  The slot holds the first volume that a boot scan of the
  history ended with (`Chronicle.booted`), and that is the only volume that boot scans registered
  (`Chronicle.scanned`). -/

namespace VolumeService

variable {σ : Type}

/-- The volume that a boot scan ended with, read off the reply. -/
def Request.booted? : Request → Reply → Option VolumeHandle
  | .bootScan _, reply => reply.volume?
  | _, _ => none

/-- The volume that a boot scan registered, read off the reply. -/
def Request.scanned? (t : MountTable) : Request → Reply → Option VolumeHandle
  | .bootScan limit, reply => Request.registered? t (.bootScan limit) reply
  | _, _ => none

/-! ### One request -/

namespace MountTable

theorem system_unregister (t : MountTable) (w : World σ) (v : VolumeHandle) :
    (t.unregister w v).2.1.system = t.system := by
  obtain ⟨_, _, htable⟩ := t.table_of_unregister w v
  rw [htable]

theorem system_unmount (t : MountTable) (w : World σ) (name : String) :
    (t.unmount w name).2.1.system = t.system := by
  obtain ⟨_, _, htable⟩ := t.table_of_unmount w name
  rw [htable]

variable [DriverModel σ]

theorem system_of_mountOutcome {ds : List DriverHandle} {t : MountTable} {w : World σ}
    {device : NodeId} {name? : Option String}
    {result : Except ServiceError VolumeHandle × MountTable × World σ}
    (h : MountOutcome ds t w device name? result) : result.2.1.system = t.system := by
  cases h with
  | refused _ _ => rfl
  | failed hname _ => rw [table_of_claimName hname]
  | registered hname _ _ _ =>
      rw [table_of_claimName hname]
      rfl

/-- With the slot full, a boot scan answers what is in it and reports that. -/
theorem bootScan_of_system {t : MountTable} {v : VolumeHandle} (h : t.system = some v)
    (w : World σ) (limit : Nat) :
    t.handle w (.bootScan limit) =
      (.volume (.ok v), t, (w.notify (.systemAlready v.name)).retain v) := by
  rw [handle, bootScan, h]

/-- A request fills the slot only if it is a boot scan that ends with a volume. -/
theorem system_handle (t : MountTable) (w : World σ) (request : Request) :
    (t.handle w request).2.1.system =
      t.system.or (request.booted? (t.handle w request).1) := by
  have hslot : t.system = t.system.or none := Option.or_none.symm
  cases request with
  | mount device name? =>
      exact (system_of_mountOutcome (t.mount_outcome w device name?)).trans hslot
  | mountUsing device driver name? =>
      have h := t.mountUsing_outcome w device (List.mem_singleton_self driver) name?
      exact (system_of_mountOutcome h).trans hslot
  | unmount name => exact (t.system_unmount w name).trans hslot
  | register volume => exact hslot
  | unregister v => exact (t.system_unregister w v).trans hslot
  | bootScan limit =>
      have h := t.bootScan_outcome w limit
      rw [handle]
      generalize t.bootScan w limit = result at h
      cases h with
      | already hsystem =>
          rw [hsystem]
          rfl
      | unfinished hsystem _ =>
          rw [hsystem]
          rfl
      | failed hsystem _ _ =>
          rw [hsystem]
          rfl
      | mounted hsystem _ _ _ _ _ =>
          rw [hsystem]
          rfl
  | addDriver driver => exact hslot
  | systemVolume => exact hslot
  | find name => exact hslot
  | findId id => exact hslot
  | resolve path => exact hslot
  | root => exact hslot
  | volumes => exact hslot
  | identify device => exact hslot
  | findDriver name => exact hslot
  | drivers => exact hslot

/-- What is new in the system slot after a request is the volume that it registered. -/
theorem system_handle_eq (t : MountTable) (w : World σ) (request : Request) :
    (t.handle w request).2.1.system = t.system ∨
      (t.handle w request).2.1.system = request.registered? t (t.handle w request).1 := by
  have hslot := t.system_handle w request
  cases hsystem : t.system with
  | some v =>
      rw [hsystem] at hslot
      exact .inl hslot
  | none =>
      rw [hsystem, Option.none_or] at hslot
      cases request with
      | bootScan limit =>
          right
          rw [hslot, Request.registered?, hsystem]
          rfl
      | _ => exact .inl hslot

/-- A boot scan answers with what is in the slot when it is done. -/
theorem booted?_eq_system {t : MountTable} {w : World σ} {request : Request} {v : VolumeHandle}
    (h : request.booted? (t.handle w request).1 = some v) :
    (t.handle w request).2.1.system = some v := by
  rw [system_handle, h]
  cases hsystem : t.system with
  | none => rfl
  | some u =>
      -- with the slot full, a scan answers what is in it, and so with `u`
      cases request with
      | bootScan limit =>
          rw [bootScan_of_system hsystem] at h
          exact h
      | _ => cases h

/-- What a boot scan registered is what it ended with, if the slot was empty before. -/
theorem scanned?_eq (t : MountTable) (request : Request) (reply : Reply) :
    request.scanned? t reply = if t.system.isSome then none else request.booted? reply := by
  cases request with
  | bootScan limit => rfl
  | _ => exact (ite_self _).symm

end MountTable

/-! ### Histories -/

namespace Chronicle

variable [DriverModel σ]

/-- What a reading of requests and replies finds in the moves that follow, in order. -/
def collect (read : MountTable → Request → Reply → Option VolumeHandle) :
    Chronicle σ → List (Move σ) → List VolumeHandle
  | _, [] => []
  | c, .deed deed :: rest => (c.step (.deed deed)).collect read rest
  | c, .ask request :: rest =>
    (read c.table request (c.table.handle c.world request).1).toList ++
      (c.step (.ask request)).collect read rest

/-- The volumes that boot scans end with. -/
def booted (c : Chronicle σ) (moves : List (Move σ)) : List VolumeHandle :=
  c.collect (fun _ request reply => request.booted? reply) moves

/-- The volumes that boot scans register. -/
def scanned (c : Chronicle σ) (moves : List (Move σ)) : List VolumeHandle :=
  c.collect (fun t request reply => request.scanned? t reply) moves

theorem booted_ask (c : Chronicle σ) (request : Request) (rest : List (Move σ)) :
    c.booted (.ask request :: rest) =
      (request.booted? (c.table.handle c.world request).1).toList ++
        (c.step (.ask request)).booted rest := rfl

theorem scanned_ask (c : Chronicle σ) (request : Request) (rest : List (Move σ)) :
    c.scanned (.ask request :: rest) =
      (request.scanned? c.table (c.table.handle c.world request).1).toList ++
        (c.step (.ask request)).scanned rest := rfl

theorem system_step (c : Chronicle σ) (request : Request) :
    (c.step (.ask request)).table.system =
      c.table.system.or (request.booted? (c.table.handle c.world request).1) :=
  c.table.system_handle c.world request

/-- The slot holds what was in it, or else the first volume that a boot scan ended with. -/
theorem system_run (c : Chronicle σ) (moves : List (Move σ)) :
    (c.run moves).table.system = c.table.system.or (c.booted moves).head? := by
  induction moves generalizing c with
  | nil => exact Option.or_none.symm
  | cons move rest ih =>
      cases move with
      | deed deed => exact ih (c.step (.deed deed))
      | ask request =>
          have hrest := ih (c.step (.ask request))
          rw [system_step] at hrest
          rw [booted_ask, List.head?_append, Option.head?_toList, ← Option.or_assoc]
          exact hrest

/-- A full slot keeps what is in it. -/
theorem system_run_of_system {c : Chronicle σ} {v : VolumeHandle} (h : c.table.system = some v)
    (moves : List (Move σ)) : (c.run moves).table.system = some v := by
  rw [system_run, h]
  rfl

/-- What a boot scan ended with is in the slot from then on. -/
theorem system_of_mem_booted {c : Chronicle σ} {v : VolumeHandle} {moves : List (Move σ)}
    (h : v ∈ c.booted moves) : (c.run moves).table.system = some v := by
  induction moves generalizing c with
  | nil => exact absurd h List.not_mem_nil
  | cons move rest ih =>
      cases move with
      | deed deed => exact ih h
      | ask request =>
          rw [booted_ask] at h
          rcases List.mem_append.1 h with hnow | hlater
          · have hslot := MountTable.booted?_eq_system (Option.mem_toList.1 hnow)
            exact system_run_of_system (c := c.step (.ask request)) hslot rest
          · exact ih hlater

/-- Once the slot is full, boot scans register nothing. -/
theorem scanned_of_system {c : Chronicle σ} {v : VolumeHandle} (h : c.table.system = some v)
    (moves : List (Move σ)) : c.scanned moves = [] := by
  induction moves generalizing c with
  | nil => rfl
  | cons move rest ih =>
      cases move with
      | deed deed => exact ih h
      | ask request =>
          have hstep : (c.step (.ask request)).table.system = some v :=
            system_run_of_system h [.ask request]
          rw [scanned_ask, ih hstep, MountTable.scanned?_eq, h]
          rfl

/-- From an empty slot on, the first volume that a boot scan ends with is the only one that boot
scans register. -/
theorem scanned_eq_take {c : Chronicle σ} (h : c.table.system = none) (moves : List (Move σ)) :
    c.scanned moves = (c.booted moves).take 1 := by
  induction moves generalizing c with
  | nil => rfl
  | cons move rest ih =>
      cases move with
      | deed deed => exact ih h
      | ask request =>
          have hstep := c.system_step request
          rw [h] at hstep
          rw [scanned_ask, booted_ask, MountTable.scanned?_eq, h]
          -- the first scan that ends with a volume fills the slot, and no later one registers
          cases hboot : request.booted? (c.table.handle c.world request).1 with
          | none =>
              rw [hboot] at hstep
              exact ih hstep
          | some v =>
              rw [hboot] at hstep
              rw [scanned_of_system hstep rest]
              rfl

/-- The system volume in any history of a table: it is the first volume that a boot scan ended
with, none before that and the same ever after; that is the only volume that boot scans register;
and once it is there, a boot scan answers it from the slot, with no look at the namespace and no
call of a driver, and changes nothing but the count of its handles and the log. -/
theorem system_volume_along_runs (root : NodeId) (drivers : Registry) (w : World σ)
    (moves : List (Move σ)) :
    let first := start root drivers w
    let c := first.run moves
    (c.table.systemVolume c.world).1 = (first.booted moves).head? ∧
    first.scanned moves = (first.booted moves).take 1 ∧ (first.scanned moves).length ≤ 1 ∧
    ∀ v ∈ first.booted moves, ∀ later,
      let d := c.run later
      (d.table.systemVolume d.world).1 = some v ∧
      ∀ limit graph,
        let after := d.table.handle { d.world with graph } (.bootScan limit)
        let report := (Notice.systemAlready v.name).record
        after.1 = .volume (.ok v) ∧ after.2.1 = d.table ∧ after.2.2.graph = graph ∧
        after.2.2.drivers = d.world.drivers ∧
        after.2.2.trace =
          d.world.trace ++ [.record report (d.world.log.recipient report.level)] ∧
        ∀ u, after.2.2.idOf u = d.world.idOf u := by
  intro first c
  have hscanned : first.scanned moves = (first.booted moves).take 1 := scanned_eq_take rfl moves
  refine ⟨first.system_run moves, hscanned, ?_, ?_⟩
  · rw [hscanned, List.length_take]
    exact Nat.min_le_left ..
  · intro v hv later d
    have hslot : d.table.system = some v :=
      system_run_of_system (system_of_mem_booted hv) later
    refine ⟨hslot, fun limit graph => ?_⟩
    intro after report
    have hafter : after = _ := MountTable.bootScan_of_system hslot { d.world with graph } limit
    rw [hafter]
    exact ⟨rfl, rfl, rfl, rfl, rfl, World.idOf_retain _ v⟩

end Chronicle

end VolumeService
