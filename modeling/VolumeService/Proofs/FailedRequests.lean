import VolumeService.MountTable.Request
import VolumeService.Proofs.MountOutcome
import VolumeService.Proofs.ScriptedDrivers

/-! # Failed requests

A request that ends in an error leaves the table as it was.

* **The one exception** is a name that was made up for a mount and then used up in vain
  (`Request.namesLost`): the driver was asked for a volume under it and did not give one.
* **The world** has seen calls of drivers and reports to the log, nothing else
  (`handle_of_isError`).  So no shared volume has come, gone or changed, and when the drivers
  keep to themselves, neither has any link between nodes.
* **Misnamed volumes** (`mountUsing_of_name_ne`).  When a driver gives a volume another name than
  it was asked for, the mount ends with the call of the driver: what is left is the world as the
  driver left it, and a report. -/

namespace VolumeService

/-- Is the reply an error? -/
def Reply.isError : Reply → Bool
  | .volume (.error _) => true
  | .node (.error _) => true
  | .registered (.error _) => true
  | _ => false

/-- The drivers that a request may call. -/
def Request.consulted (t : MountTable) : Request → List DriverHandle
  | .mount _ _ => t.drivers.drivers
  | .mountUsing _ driver _ => [driver]
  | .bootScan _ => t.drivers.drivers
  | .identify _ => t.drivers.drivers
  | _ => []

/-- How many made-up names a failed request has used up. -/
def Request.namesLost : Request → Reply → Nat
  | .mount _ none, .volume (.error .mountFailed) => 1
  | .mountUsing _ _ none, .volume (.error .mountFailed) => 1
  | _, _ => 0

theorem Request.namesLost_le_one (request : Request) (reply : Reply) :
    request.namesLost reply ≤ 1 := by
  unfold namesLost
  split <;> decide

variable {σ : Type}

/-- The table is as it was but for names used up, and drivers have been called at most. -/
structure Fruitless [DriverModel σ] (ds : List DriverHandle) (lost : Nat) (t : MountTable)
    (w : World σ) (t' : MountTable) (w' : World σ) : Prop where
  table : t' = { t with nextSuffix := t.nextSuffix + .ofNat lost }
  world : w.Consults ds w'

namespace Fruitless

variable [DriverModel σ] {ds : List DriverHandle} {t : MountTable} {w w' : World σ}

theorem of_consults (h : w.Consults ds w') : Fruitless ds 0 t w t w' := ⟨by simp, h⟩

/-- A mount that fails loses a name exactly if it made one up and the driver failed. -/
theorem of_mountOutcome {device : NodeId} {name? : Option String} {cause : ServiceError}
    {t' : MountTable} (h : MountTable.MountOutcome ds t w device name? (.error cause, t', w')) :
    Fruitless ds (if name? = none ∧ cause = .mountFailed then 1 else 0) t w t' w' := by
  cases h with
  | refused hcause hw =>
      rw [if_neg fun h => hcause h.2]
      exact .of_consults hw.consults
  | failed hname hw =>
      refine ⟨?_, hw.consults⟩
      rw [MountTable.table_of_claimName hname]
      simp

theorem of_bootOutcome {cause : ServiceError} {t' : MountTable}
    (h : t.BootOutcome w (some (.error cause), t', w')) :
    Fruitless t.drivers.drivers 0 t w t' w' := by
  cases h with
  | failed _ _ hw => exact .of_consults hw.consults

theorem of_unmount {name : String} {cause : ServiceError} {t' : MountTable}
    (h : t.unmount w name = (.error cause, t', w')) : Fruitless [] 0 t w t' w' := by
  unfold MountTable.unmount at h
  split at h
  next =>
    obtain ⟨_, rfl, rfl⟩ := h
    exact .of_consults (.notify .refl _)
  next => cases h

theorem of_unregister {v : VolumeHandle} {cause : ServiceError} {t' : MountTable}
    (h : t.unregister w v = (.error cause, t', w')) : Fruitless [] 0 t w t' w' := by
  unfold MountTable.unregister at h
  split at h
  next =>
    obtain ⟨_, rfl, rfl⟩ := h
    exact .of_consults (.notify .refl _)
  next => cases h

theorem of_addDriver {driver : DriverHandle} {cause : RegistryError} {t' : MountTable}
    (h : t.addDriver w driver = (.error cause, t', w')) : Fruitless [] 0 t w t' w' := by
  unfold MountTable.addDriver Registry.register at h
  split at h
  next =>
    obtain ⟨_, rfl, rfl⟩ := h
    exact .of_consults (.notify .refl _)
  next => cases h

end Fruitless

namespace MountTable

variable [DriverModel σ]

/-- Whatever fails, the table keeps everything but names that it made up in vain. -/
theorem handle_of_isError (t : MountTable) (w : World σ) (request : Request)
    (h : (t.handle w request).1.isError = true) :
    Fruitless (request.consulted t) (request.namesLost (t.handle w request).1) t w
      (t.handle w request).2.1 (t.handle w request).2.2 := by
  cases request with
  | mount device name? =>
      have hmount := t.mount_outcome w device name?
      rw [handle] at h ⊢
      generalize t.mount w device name? = answer at h hmount ⊢
      obtain ⟨result, t', w'⟩ := answer
      cases result with
      | ok v => cases h
      | error cause =>
          have hfruitless := Fruitless.of_mountOutcome hmount
          cases name? <;> cases cause <;> exact hfruitless
  | mountUsing device driver name? =>
      have hmount := t.mountUsing_outcome w device (List.mem_singleton_self driver) name?
      rw [handle] at h ⊢
      generalize t.mountUsing w device driver name? = answer at h hmount ⊢
      obtain ⟨result, t', w'⟩ := answer
      cases result with
      | ok v => cases h
      | error cause =>
          have hfruitless := Fruitless.of_mountOutcome hmount
          cases name? <;> cases cause <;> exact hfruitless
  | unmount name =>
      rw [handle] at h ⊢
      generalize he : t.unmount w name = answer at h ⊢
      obtain ⟨result, t', w'⟩ := answer
      cases result with
      | ok _ => cases h
      | error cause => exact .of_unmount he
  | unregister v =>
      rw [handle] at h ⊢
      generalize he : t.unregister w v = answer at h ⊢
      obtain ⟨result, t', w'⟩ := answer
      cases result with
      | ok _ => cases h
      | error cause => exact .of_unregister he
  | addDriver driver =>
      rw [handle] at h ⊢
      generalize he : t.addDriver w driver = answer at h ⊢
      obtain ⟨result, t', w'⟩ := answer
      cases result with
      | ok _ => cases h
      | error cause => exact .of_addDriver he
  | bootScan limit =>
      have hscan := t.bootScan_outcome w limit
      rw [handle] at h ⊢
      generalize t.bootScan w limit = answer at h hscan ⊢
      obtain ⟨result, t', w'⟩ := answer
      cases result with
      | none => cases h
      | some answer =>
          cases answer with
          | ok v => cases h
          | error cause => exact .of_bootOutcome hscan
  | resolve path => exact .of_consults .refl
  | register | systemVolume | find | findId | root | volumes | identify | findDriver | drivers =>
      cases h

/-- A mount whose driver misnames the volume ends with the call of the driver. -/
theorem mountUsing_of_name_ne {t t' : MountTable} {w w₁ w₂ : World σ} {device : NodeId}
    {driver : DriverHandle} {name? : Option String} {name : String} {volume : Volume}
    (hdevice : w.graph.isDevice device = true) (hidentify : w.identify driver device = (true, w₁))
    (hname : t.claimName name? = some (name, t'))
    (hmount : w₁.mountVia driver device name = (.ok volume, w₂)) (hne : volume.name ≠ name) :
    t.mountUsing w device driver name? =
      (.error .mountFailed, t',
        w₂.notify (.mountMisnamed driver.name (w₂.graph.name device) volume.name name)) := by
  rw [mountUsing_eq_build hdevice (congrArg Prod.fst hidentify) hname, hidentify, build, hmount]
  exact adopt_of_name_ne t' w₂ device driver hne

/-- A request that fails leaves no trace: of the table only the number for made-up names moves,
and that by one if a mount without a name fails for its driver; the ids of all volumes and the
links of all nodes are as they were.  A volume under a wrong name is left as the driver gave
it.  The number is a machine word, so that one more is the next number except after the last. -/
theorem failed_request_leaves_no_trace {own : CellId → σ → Prop}
    (hown : DriverModel.Confined own) (t : MountTable) (w : World σ) (request : Request)
    (hw : w.Houses (request.consulted t) own)
    (hfailed : (t.handle w request).1.isError = true) :
    let after := t.handle w request
    let lost := request.namesLost after.1
    after.2.1 = { t with nextSuffix := t.nextSuffix + .ofNat lost } ∧
    (t.nextSuffix.toNat + 1 < UInt64.size →
      after.2.1.nextSuffix.toNat = t.nextSuffix.toNat + lost) ∧
    w.Consults (request.consulted t) after.2.2 ∧
    (∀ v, after.2.2.idOf v = w.idOf v) ∧
    (∀ n, w.graph.has n = true → after.2.2.graph.link? n = w.graph.link? n) ∧
    ∀ device driver name? name t₁ w₁ w₂ volume, w.graph.isDevice device = true →
      w.identify driver device = (true, w₁) → t.claimName name? = some (name, t₁) →
      w₁.mountVia driver device name = (.ok volume, w₂) → volume.name ≠ name →
        (t.mountUsing w device driver name?).1 = .error .mountFailed ∧
        (t.mountUsing w device driver name?).2.1.volumes = t.volumes ∧
        (t.mountUsing w device driver name?).2.2.graph = w₂.graph ∧
        (t.mountUsing w device driver name?).2.2.cells = w.cells := by
  intro after lost
  obtain ⟨htable, hworld⟩ := t.handle_of_isError w request hfailed
  refine ⟨htable, fun hroom => ?_, hworld, hworld.idOf, ?_, ?_⟩
  · have hlost : lost ≤ 1 := request.namesLost_le_one after.1
    rw [htable]
    exact toNat_add_ofNat (Nat.lt_of_le_of_lt (Nat.add_le_add_left hlost _) hroom)
  · intro n hn
    exact (hworld.extends hown hw).2.link? hn
  · intro device driver name? name t₁ w₁ w₂ volume hdevice hidentify hname hmount hne
    have hw₁ : w₁.cells = w.cells := by
      rw [← World.cells_identify w driver device, hidentify]
    have hw₂ : w₂.cells = w₁.cells := by
      rw [← World.cells_mountVia w₁ driver device name, hmount]
    rw [mountUsing_of_name_ne hdevice hidentify hname hmount hne]
    refine ⟨rfl, ?_, rfl, hw₂.trans hw₁⟩
    rw [table_of_claimName hname]

end MountTable

/-! ### A driver that misnames its volumes -/

/-- A root, a device, and a driver that calls every volume `other`. -/
def misnamingWorld : World ScriptedDriver where
  graph := (Graph.empty.push (.newDirectory "/")).push (.newImage "disk" [])
  drivers := Store.empty.push { format := "fat", identify := .always, mount := .renamed "other" }

/-- A table over that root with that driver. -/
def misnamingTable : MountTable := .create ⟨0⟩ ⟨[⟨"fat", ⟨0⟩⟩]⟩

/-- The made-up name is lost, and that is all. -/
theorem misnamed_mount_leaves_no_trace :
    let after := misnamingTable.handle misnamingWorld (.mount ⟨1⟩ none)
    after.2.1 = { misnamingTable with nextSuffix := 1 } ∧
    (∀ v, after.2.2.idOf v = misnamingWorld.idOf v) ∧
    ∀ n, misnamingWorld.graph.has n = true →
      after.2.2.graph.link? n = misnamingWorld.graph.link? n := by
  have hw : misnamingWorld.Houses (Request.consulted misnamingTable (.mount ⟨1⟩ none))
      fun _ d => d.Quiet := by
    intro driver hmem state hstate
    obtain rfl := List.mem_singleton.1 hmem
    obtain rfl := Option.some.inj hstate
    rfl
  obtain ⟨htable, _, _, hids, hlinks, _⟩ := MountTable.failed_request_leaves_no_trace
    ScriptedDriver.confined_quiet misnamingTable misnamingWorld (.mount ⟨1⟩ none) hw rfl
  exact ⟨htable, hids, hlinks⟩

end VolumeService
