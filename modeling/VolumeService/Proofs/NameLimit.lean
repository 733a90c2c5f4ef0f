import VolumeService.Proofs.MadeUpNames

/-! # How long the names of listed volumes are

The limit on names is a limit on what is asked of a mount.

* **Mounts and boot scans** register volumes under names below the limit: a given name is checked, a
  made-up one is short, and so is that of the system volume; a volume whose driver gave it another
  name is turned away.
* **Ready-made volumes** (`Chronicle.broughtIn`) are registered under the names that they have.
* Both together: `Chronicle.listed_names_are_short`. -/

namespace VolumeService

variable {σ : Type}

/-- The volume that a request brings ready-made. -/
def Request.brought? (w : World σ) : Request → Option VolumeHandle
  | register volume => some (w.handleFor volume)
  | _ => none

namespace MountTable

/-- The name that a mount goes under is below the limit, given or made up. -/
theorem size_lt_of_claimName {t t' : MountTable} {name? : Option String} {name : String}
    (h : t.claimName name? = some (name, t')) : Name.size name < maxNameSize := by
  cases name? with
  | none =>
      have hname : anonymousName t.nextSuffix.toNat = name := (Prod.mk.inj (Option.some.inj h)).1
      rw [← hname]
      exact size_anonymousName_lt t.nextSuffix.toNat_lt_size
  | some given =>
      rw [claimName] at h
      split at h
      next hsize =>
        obtain ⟨rfl, _⟩ := Prod.mk.inj (Option.some.inj h)
        exact hsize
      next => cases h

theorem volumes_of_claimName {t t' : MountTable} {name? : Option String} {name : String}
    (h : t.claimName name? = some (name, t')) : t'.volumes = t.volumes := by
  rw [table_of_claimName h]

variable [DriverModel σ] {t : MountTable} {w : World σ} {v : VolumeHandle}

theorem mem_volumes_of_mountOutcome {ds : List DriverHandle} {device : NodeId}
    {name? : Option String} {result : Except ServiceError VolumeHandle × MountTable × World σ}
    (h : MountOutcome ds t w device name? result) (hv : v ∈ result.2.1.volumes) :
    v ∈ t.volumes ∨ Name.size v.name < maxNameSize := by
  cases h with
  | refused _ _ => exact .inl hv
  | failed hname _ =>
      rw [volumes_of_claimName hname] at hv
      exact .inl hv
  | @registered name t' _ w' volume hname _ _ hvolume =>
      have hlisted : v ∈ t'.volumes ++ [w'.handleFor volume] := hv
      have hsize := size_lt_of_claimName hname
      rw [volumes_of_claimName hname] at hlisted
      rw [← hvolume] at hsize
      exact mem_or_of_mem_append_singleton (P := fun u => Name.size u.name < maxNameSize)
        hlisted hsize

theorem mem_volumes_of_bootOutcome
    {result : Option (Except ServiceError VolumeHandle) × MountTable × World σ}
    (h : BootOutcome t w result) (hv : v ∈ result.2.1.volumes) :
    v ∈ t.volumes ∨ Name.size v.name < maxNameSize := by
  cases h with
  | already _ | unfinished _ _ | failed _ _ _ => exact .inl hv
  | @mounted _ _ w' _ _ volume _ _ _ _ _ hvolume =>
      have hlisted : v ∈ t.volumes ++ [w'.handleFor volume] := hv
      have hsize : Name.size systemName < maxNameSize := by decide
      rw [← hvolume] at hsize
      exact mem_or_of_mem_append_singleton (P := fun u => Name.size u.name < maxNameSize)
        hlisted hsize

/-- Of the volumes that a request leaves listed, those that were not listed before have names below
the limit, or were brought ready-made. -/
theorem mem_volumes_of_handle {request : Request} (hv : v ∈ (t.handle w request).2.1.volumes) :
    v ∈ t.volumes ∨ request.brought? w = some v ∨ Name.size v.name < maxNameSize := by
  cases request with
  | mount device name? =>
      exact (mem_volumes_of_mountOutcome (t.mount_outcome w device name?) hv).imp_right .inr
  | mountUsing device driver name? =>
      have hmount := t.mountUsing_outcome w device (List.mem_singleton_self driver) name?
      exact (mem_volumes_of_mountOutcome hmount hv).imp_right .inr
  | bootScan limit =>
      refine (mem_volumes_of_bootOutcome (t.bootScan_outcome w limit) ?_).imp_right .inr
      simp only [handle] at hv
      split at hv <;> exact hv
  | register volume =>
      have hlisted : v ∈ t.volumes ++ [w.handleFor volume] := hv
      have hbrought : (Request.register volume).brought? w = some (w.handleFor volume) := rfl
      exact (mem_or_of_mem_append_singleton (P := fun u => _ = some u) hlisted hbrought).imp_right
        .inl
  | unmount name =>
      obtain ⟨list, hlist, htable⟩ := t.table_of_unmount w name
      have hlisted : v ∈ (t.unmount w name).2.1.volumes := hv
      rw [htable] at hlisted
      exact .inl (hlist.mem hlisted)
  | unregister u =>
      obtain ⟨list, hlist, htable⟩ := t.table_of_unregister w u
      have hlisted : v ∈ (t.unregister w u).2.1.volumes := hv
      rw [htable] at hlisted
      exact .inl (hlist.mem hlisted)
  | addDriver | systemVolume | find | findId | resolve | root | volumes | identify | findDriver
  | drivers => exact .inl hv

end MountTable

/-! ### Runs -/

namespace Chronicle

variable [DriverModel σ]

/-- The volume that a move brings ready-made. -/
def brought? (c : Chronicle σ) : Move σ → Option VolumeHandle
  | .ask request => request.brought? c.world
  | .deed _ => none

/-- The volumes that the moves bring ready-made, in order. -/
def broughtIn (c : Chronicle σ) : List (Move σ) → List VolumeHandle
  | [] => []
  | move :: rest => (c.brought? move).toList ++ (c.step move).broughtIn rest

/-- One more move lists no other volume with an overlong name than one that it brings ready-made. -/
theorem mem_volumes_of_step {c : Chronicle σ} {move : Move σ} {v : VolumeHandle}
    (hv : v ∈ (c.step move).table.volumes) :
    v ∈ c.table.volumes ∨ c.brought? move = some v ∨ Name.size v.name < maxNameSize := by
  cases move with
  | deed deed => exact .inl hv
  | ask request => exact MountTable.mem_volumes_of_handle hv

/-- Volumes with overlong names that are listed after a run were listed before, or brought
ready-made. -/
theorem mem_volumes_of_run {c : Chronicle σ} {moves : List (Move σ)} {v : VolumeHandle}
    (hv : v ∈ (c.run moves).table.volumes) :
    v ∈ c.table.volumes ∨ v ∈ c.broughtIn moves ∨ Name.size v.name < maxNameSize := by
  induction moves generalizing c with
  | nil => exact .inl hv
  | cons move rest ih =>
      rw [broughtIn, List.mem_append, Option.mem_toList]
      rcases ih hv with hlisted | hbrought | hshort
      · rcases mem_volumes_of_step hlisted with hold | hnow | hshort
        · exact .inl hold
        · exact .inr (.inl (.inl hnow))
        · exact .inr (.inr hshort)
      · exact .inr (.inl (.inr hbrought))
      · exact .inr (.inr hshort)

/-- Whatever happened, a listed volume has a name below the limit, or was brought ready-made; and a
volume that is brought ready-made is listed under its name, however long. -/
theorem listed_names_are_short (root : NodeId) (drivers : Registry) (w : World σ)
    (moves : List (Move σ)) :
    let first := Chronicle.start root drivers w
    let c := first.run moves
    (∀ v ∈ c.table.volumes, v ∈ first.broughtIn moves ∨ Name.size v.name < maxNameSize) ∧
    ∀ volume, ∃ v, v.name = volume.name ∧
      (c.table.handle c.world (.register volume)).1.volume? = some v ∧
      (c.table.handle c.world (.register volume)).2.1.volumes = c.table.volumes ++ [v] := by
  intro first c
  refine ⟨fun v hv => ?_, fun volume => ?_⟩
  · exact (mem_volumes_of_run hv).resolve_left List.not_mem_nil
  · exact ⟨c.world.handleFor volume, rfl, rfl, rfl⟩

end Chronicle

/-! ### A ready-made volume with an overlong name -/

namespace NameLimitExample

/-- A name that is too long for a mount by one byte. -/
def longName : String := String.ofList (List.replicate maxNameSize 'n')

/-- A table that was asked to register a volume of this name. -/
def chronicle : Chronicle ScriptedDriver :=
  (Chronicle.start ⟨0⟩ ⟨[]⟩ {}).run [.ask (.register (.treeless "fat" longName))]

theorem overlong_name_is_listed :
    ¬ ∀ v ∈ chronicle.table.volumes, Name.size v.name < maxNameSize := by
  intro h
  have hlisted : chronicle.table.volumes = [⟨.treeless "fat" longName, ⟨0⟩⟩] := rfl
  have hshort := h ⟨.treeless "fat" longName, ⟨0⟩⟩ (by simp [hlisted])
  have hsize : Name.size longName = maxNameSize := by decide +kernel
  have hname : (⟨.treeless "fat" longName, ⟨0⟩⟩ : VolumeHandle).name = longName := rfl
  rw [hname, hsize] at hshort
  exact Nat.lt_irrefl _ hshort

end NameLimitExample

end VolumeService
