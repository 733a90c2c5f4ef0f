import VolumeService.MountTable.Request
import VolumeService.Proofs.BootChoice
import VolumeService.Proofs.DependableMounts

/-! # Mounts with steady drivers

With drivers that go by the device and the name alone, what a mount comes to can be looked up.

* **Catalogues** (`Catalogue`) list what devices are called, which of them are character devices,
  which drivers recognise them and what is built from them.  Devices are told apart only as far as
  drivers see them: `see` takes a node to the device of the catalogue that it is.
* **Verdicts** (`MountTable.verdict`).  The verdict on a mount is its error, or the format, the name
  and the id of the new volume, together with the next id and the next made-up name.
* **Looking up** (`Catalogue.mount`).  The verdict on a mount follows from the catalogue, the
  drivers of the table and the two counters, and the next mount finds the drivers as steady as
  before (`MountTable.mount_steady`). -/

namespace VolumeService

/-- What devices and drivers are like, as far as mounts are concerned. -/
structure Catalogue (δ : Type) where
  name : δ → String
  isDevice : δ → Bool
  recognises : CellId → δ → Bool
  builds : CellId → δ → String → Except NodeError (String × String)

/-- The catalogue is right about the nodes in `kept`, which are made of what they are made of in
`g₀`, and about drivers in states of `own`; `see` takes a node to the device that it is. -/
structure Catalogue.Describes {σ δ : Type} [DriverModel σ] (cat : Catalogue δ) (see : NodeId → δ)
    (g₀ : Graph) (kept : NodeId → Prop) (own : CellId → σ → Prop) : Prop where
  kinds : ∀ n, kept n → g₀.isDevice n = cat.isDevice (see n)
  steady : DriverModel.Steady g₀ kept own (fun cell n => cat.recognises cell (see n))
    (fun cell n => cat.builds cell (see n))

/-- What a mount comes to, and the counters after it. -/
structure Verdict where
  result : Except ServiceError (String × String × Option VolumeId)
  nextId : VolumeId
  nextSuffix : UInt64

namespace Catalogue

variable {δ : Type} (cat : Catalogue δ)

/-- The driver that a device goes to. -/
def driver? (drivers : List DriverHandle) (device : δ) : Option DriverHandle :=
  drivers.find? fun driver => cat.recognises driver.cell device

/-- What it comes to that a driver is to build a volume under a name. -/
def build (driver : DriverHandle) (device : δ) (name : String) (nextId : VolumeId)
    (nextSuffix : UInt64) : Verdict :=
  match cat.builds driver.cell device name with
  | .ok (format, got) =>
    if got = name then ⟨.ok (format, name, some nextId), nextId.next, nextSuffix⟩
    else ⟨.error .mountFailed, nextId, nextSuffix⟩
  | .error _ => ⟨.error .mountFailed, nextId, nextSuffix⟩

/-- What a mount of a device comes to. -/
def mount (drivers : List DriverHandle) (device : δ) (name? : Option String) (nextId : VolumeId)
    (nextSuffix : UInt64) : Verdict :=
  if cat.isDevice device then
    match cat.driver? drivers device with
    | none => ⟨.error .unrecognised, nextId, nextSuffix⟩
    | some driver =>
      match name? with
      | none => cat.build driver device (anonymousName nextSuffix.toNat) nextId (nextSuffix + 1)
      | some name =>
        if Name.size name < maxNameSize then cat.build driver device name nextId nextSuffix
        else ⟨.error .nameTooLong, nextId, nextSuffix⟩
  else ⟨.error .notADevice, nextId, nextSuffix⟩

end Catalogue

variable {σ : Type}

namespace World.Ready

variable {ds : List DriverHandle} {g₀ : Graph} {kept : NodeId → Prop} {own : CellId → σ → Prop}
  {w : World σ}

/-- A registration leaves all ready, since links say nothing about what nodes are made of. -/
theorem afterMount (h : w.Ready ds (g₀.Agree kept) own) (t : MountTable) (device : NodeId)
    (volume : Volume) : (t.afterMount w device volume).2.Ready ds (g₀.Agree kept) own := by
  have hregister : (t.register w volume).2.2.Ready ds (g₀.Agree kept) own := by
    unfold MountTable.register World.linkMountPoint
    split
    next n _ =>
      refine h.of_drivers_eq rfl fun m hm => ?_
      exact (w.graph.content?_reparent n t.root m).trans (h.fit m hm)
    next => exact h.of_drivers_eq rfl h.fit
  exact hregister.of_drivers_eq rfl hregister.fit

end World.Ready

namespace MountTable

/-- The verdict on a mount. -/
def verdict (answer : Except ServiceError VolumeHandle × MountTable × World σ) : Verdict where
  result := answer.1.map fun v => (v.volume.format, v.name, answer.2.2.idOf v)
  nextId := answer.2.1.nextId
  nextSuffix := answer.2.1.nextSuffix

/-- The table and the world after mounts in a row. -/
def mountAll [DriverModel σ] (t : MountTable) (w : World σ)
    (mounts : List (NodeId × Option String)) : MountTable × World σ :=
  (t.handleAll w (mounts.map fun mount => .mount mount.1 mount.2)).2

/-- A mount came to a verdict, and left the table its drivers and the drivers as steady as they
were. -/
structure Settled (g₀ : Graph) (kept : NodeId → Prop) (own : CellId → σ → Prop) (t : MountTable)
    (expected : Verdict) (answer : Except ServiceError VolumeHandle × MountTable × World σ) :
    Prop where
  verdict : verdict answer = expected
  drivers : answer.2.1.drivers = t.drivers
  ready : answer.2.2.Ready t.drivers.drivers (g₀.Agree kept) own

variable [DriverModel σ] {δ : Type} {cat : Catalogue δ} {see : NodeId → δ} {g₀ : Graph}
  {kept : NodeId → Prop} {own : CellId → σ → Prop} {t : MountTable} {w : World σ}
  {device : NodeId}

/-- A mount under a name that is too long is refused once the driver has recognised the device. -/
theorem mountUsing_of_long_name {driver : DriverHandle} {name : String}
    (hdevice : w.graph.isDevice device = true) (hidentify : (w.identify driver device).1 = true)
    (hname : ¬ Name.size name < maxNameSize) :
    ∃ notice, t.mountUsing w device driver (some name) =
      (.error .nameTooLong, t, (w.identify driver device).2.notify notice) := by
  have hclaim : t.claimName (some name) = none := if_neg hname
  unfold mountUsing
  rw [if_pos hdevice]
  split
  next he =>
    rw [he] at hidentify
    cases hidentify
  next he =>
    rw [hclaim, he]
    exact ⟨_, rfl⟩

section steady

variable (hcat : cat.Describes see g₀ kept own)
  (h : w.Ready t.drivers.drivers (g₀.Agree kept) own) (hdevice : kept device)
include hcat h hdevice

/-- What a steady driver builds is looked up in the catalogue. -/
theorem build_steady {driver : DriverHandle} (hdriver : driver ∈ t.drivers.drivers)
    (name : String) :
    Settled g₀ kept own t (cat.build driver (see device) name t.nextId t.nextSuffix)
      (t.build w device driver name) := by
  obtain ⟨hready, hanswer⟩ := h.mountVia_steady hcat.steady hdriver device name
  have hbuilds := hanswer hdevice
  rcases t.build_cases w device hdriver name with
    ⟨volume, w₁, hcall, hvolume, he⟩ | ⟨hnot, w₁, hprobes, he⟩
  · rw [hcall] at hbuilds hready
    have hid := t.idOf_afterMount w₁ device volume (w₁.handleFor volume)
    rw [if_pos (show VolumeHandle.Same _ _ from rfl)] at hid
    rw [he]
    refine ⟨?_, rfl, hready.afterMount t device volume⟩
    rw [Catalogue.build, ← hbuilds]
    show Verdict.mk (.ok (volume.format, volume.name, _)) _ _ = if volume.name = name then _ else _
    rw [hid, if_pos hvolume, hvolume]
    rfl
  · rw [he]
    refine ⟨?_, rfl, h.of_consults hcat.steady hprobes.consults⟩
    rw [Catalogue.build, ← hbuilds]
    cases hbuilt : (w.mountVia driver device name).1 with
    | error cause => rfl
    | ok volume =>
        show _ = if volume.name = name then _ else _
        rw [if_neg (hnot volume hbuilt)]
        rfl

/-- What a mount with the driver that a device goes to comes to is looked up in the catalogue. -/
theorem mountUsing_settled (hkind : w.graph.isDevice device = true)
    (hlisted : cat.isDevice (see device) = true) {driver : DriverHandle}
    (hfound : cat.driver? t.drivers.drivers (see device) = some driver) (name? : Option String) :
    Settled g₀ kept own t
      (cat.mount t.drivers.drivers (see device) name? t.nextId t.nextSuffix)
      (t.mountUsing w device driver name?) := by
  have hdriver : driver ∈ t.drivers.drivers := List.mem_of_find?_eq_some hfound
  obtain ⟨hready, hanswer⟩ := h.identify_steady hcat.steady hdriver device
  have hidentify : (w.identify driver device).1 = true := by
    rw [hanswer hdevice]
    simpa using List.find?_some hfound
  rw [Catalogue.mount, if_pos hlisted, hfound]
  cases name? with
  | none =>
      rw [mountUsing_eq_build hkind hidentify t.claimName_none]
      have hbuild := build_steady (t := { t with nextSuffix := t.nextSuffix + 1 }) hcat hready
        hdevice hdriver (anonymousName t.nextSuffix.toNat)
      exact ⟨hbuild.verdict, hbuild.drivers, hbuild.ready⟩
  | some name =>
      by_cases hname : Name.size name < maxNameSize
      · rw [mountUsing_eq_build hkind hidentify (claimName_some hname)]
        dsimp only
        rw [if_pos hname]
        exact build_steady hcat hready hdevice hdriver name
      · obtain ⟨notice, he⟩ := mountUsing_of_long_name (t := t) hkind hidentify hname
        rw [he]
        dsimp only
        rw [if_neg hname]
        exact ⟨rfl, rfl, hready.of_drivers_eq rfl hready.fit⟩

/-- What a mount comes to is looked up in the catalogue. -/
theorem mount_steady (name? : Option String) :
    Settled g₀ kept own t
      (cat.mount t.drivers.drivers (see device) name? t.nextId t.nextSuffix)
      (t.mount w device name?) := by
  have hkind : w.graph.isDevice device = cat.isDevice (see device) :=
    (h.fit.isDevice hdevice).trans (hcat.kinds device hdevice)
  have hsearch := h.identifyFirst_steady hcat.steady (fun _ hmem => hmem) hdevice
  have hready := h.of_consults hcat.steady (w.consults_identifyFirst device t.drivers.drivers)
  rw [mount]
  cases hisDevice : cat.isDevice (see device) with
  | false =>
      rw [hkind, hisDevice, if_neg (by decide), Catalogue.mount, hisDevice, if_neg (by decide)]
      exact ⟨rfl, rfl, h.of_drivers_eq rfl h.fit⟩
  | true =>
      rw [hkind, hisDevice, if_pos rfl]
      cases hfound : cat.driver? t.drivers.drivers (see device) with
      | none =>
          have hnone : (w.identifyFirst device t.drivers.drivers).1 = none := hsearch.trans hfound
          rw [Catalogue.mount, hisDevice, if_pos rfl, hfound]
          generalize w.identifyFirst device t.drivers.drivers = call at hnone hready
          obtain ⟨_, w₁⟩ := call
          obtain rfl := hnone
          exact ⟨rfl, rfl, hready.of_drivers_eq rfl hready.fit⟩
      | some driver =>
          have hsome : (w.identifyFirst device t.drivers.drivers).1 = some driver :=
            hsearch.trans hfound
          generalize w.identifyFirst device t.drivers.drivers = call at hsome hready
          obtain ⟨_, w₁⟩ := call
          obtain rfl := hsome
          have hkind₁ : w₁.graph.isDevice device = true :=
            (hready.fit.isDevice hdevice).trans ((hcat.kinds device hdevice).trans hisDevice)
          exact mountUsing_settled hcat hready hdevice hkind₁ hisDevice hfound name?

end steady

end MountTable

end VolumeService
