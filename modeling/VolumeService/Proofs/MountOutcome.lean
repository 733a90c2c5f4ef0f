import VolumeService.Proofs.Consultation

/-! # What a mount and a boot scan can come to

A mount asks drivers first and changes the table last, so there are few ways for it to end.

* **Mounts** (`MountOutcome`).  Refused before a name is claimed; failed after that, with the
  name used up; or registered, and then exactly one volume is.  In each case the world has seen
  no more than a consultation up to the registration.
* **Boot scans** (`BootOutcome`).  The slot is full already; the scan ends without a volume and
  leaves the table as it was, whatever devices failed on the way; or exactly one volume is
  registered and put into the slot.
* **Use.**  `mountUsing_outcome`, `mount_outcome` and `bootScan_outcome` are the one place where
  the branches of these operations are opened; what a mount keeps or brings is read off the
  cases. -/

namespace VolumeService

namespace MountTable

/-! ### Names claimed by a mount -/

/-- Short of the last machine word, the number of the next made-up name counts as numbers do. -/
theorem toNat_add_ofNat {first : UInt64} {count : Nat} (h : first.toNat + count < UInt64.size) :
    (first + .ofNat count).toNat = first.toNat + count := by
  rw [UInt64.toNat_add, UInt64.toNat_ofNat', Nat.add_mod_mod]
  exact Nat.mod_eq_of_lt h

/-- The table after a mount has claimed a name: one number is used up if none was given. -/
theorem table_of_claimName {t t' : MountTable} {name? : Option String} {name : String}
    (h : t.claimName name? = some (name, t')) :
    t' = { t with nextSuffix := t.nextSuffix + .ofNat (if name? = none then 1 else 0) } := by
  cases name? with
  | none =>
      obtain ⟨_, rfl⟩ := Prod.mk.inj (Option.some.inj h)
      rfl
  | some given =>
      rw [claimName] at h
      split at h
      · obtain ⟨_, rfl⟩ := Prod.mk.inj (Option.some.inj h)
        simp
      · cases h

theorem claimName_none (t : MountTable) :
    t.claimName none =
      some (s!"{anonymousStem}{t.nextSuffix}", { t with nextSuffix := t.nextSuffix + 1 }) := rfl

theorem claimName_some {t : MountTable} {name : String} (h : Name.size name < maxNameSize) :
    t.claimName (some name) = some (name, t) := if_pos h

variable {σ : Type}

/-! ### Mounts -/

/-- The table and the world after a volume mounted from a device is registered and reported. -/
def afterMount (t : MountTable) (w : World σ) (device : NodeId) (volume : Volume) :
    MountTable × World σ :=
  ((t.register w volume).2.1,
    (t.register w volume).2.2.notify
      (.mounted volume.format volume.name ((t.register w volume).2.2.graph.name device)
        t.nextId.raw))

/-- A mount gives the new volume the id that was next, and touches no other id. -/
theorem idOf_afterMount (t : MountTable) (w : World σ) (device : NodeId) (volume : Volume)
    (u : VolumeHandle) :
    (t.afterMount w device volume).2.idOf u =
      if (w.handleFor volume).Same u then some t.nextId else w.idOf u :=
  t.idOf_register w volume u

/-- A volume under the name asked for is registered and reported. -/
theorem adopt_of_name_eq (t : MountTable) (w : World σ) (device : NodeId)
    (driver : DriverHandle) {name : String} {volume : Volume} (h : volume.name = name) :
    t.adopt w device driver name volume =
      (.ok (w.handleFor volume), t.afterMount w device volume) := by
  unfold adopt
  rw [if_pos h]
  dsimp only
  rw [idOf_register, if_pos (show VolumeHandle.Same _ _ from rfl)]
  rfl

/-- A volume under another name is reported and left alone. -/
theorem adopt_of_name_ne (t : MountTable) (w : World σ) (device : NodeId)
    (driver : DriverHandle) {name : String} {volume : Volume} (h : volume.name ≠ name) :
    t.adopt w device driver name volume =
      (.error .mountFailed, t,
        w.notify (.mountMisnamed driver.name (w.graph.name device) volume.name name)) :=
  if_neg h

variable [DriverModel σ]

/-- The ways in which a mount of a device can end. -/
inductive MountOutcome (ds : List DriverHandle) (t : MountTable) (w : World σ) (device : NodeId)
    (name? : Option String) : Except ServiceError VolumeHandle × MountTable × World σ → Prop where
  /-- A check failed before a name was claimed. -/
  | refused {cause : ServiceError} {w' : World σ} (hcause : cause ≠ .mountFailed)
      (hw : w.Probes ds device w') : MountOutcome ds t w device name? (.error cause, t, w')
  /-- The driver failed or gave the volume another name; the claimed name is used up. -/
  | failed {name : String} {t' : MountTable} {w' : World σ}
      (hname : t.claimName name? = some (name, t')) (hw : w.Probes ds device w') :
      MountOutcome ds t w device name? (.error .mountFailed, t', w')
  /-- The driver built the volume under the claimed name, and it is registered. -/
  | registered {name : String} {t' : MountTable} {w₁ w' : World σ} {volume : Volume}
      (hname : t.claimName name? = some (name, t')) (hw : w.Probes ds device w₁)
      (hbuilt : w₁.Builds ds device name volume w') (hvolume : volume.name = name) :
      MountOutcome ds t w device name?
        (.ok (w'.handleFor volume), t'.afterMount w' device volume)

/-- What happened before by way of probing the device belongs to the outcome. -/
theorem MountOutcome.of_probes {ds : List DriverHandle} {t : MountTable} {w w₁ : World σ}
    {device : NodeId} {name? : Option String}
    {result : Except ServiceError VolumeHandle × MountTable × World σ}
    (hw₁ : w.Probes ds device w₁) (h : MountOutcome ds t w₁ device name? result) :
    MountOutcome ds t w device name? result := by
  cases h with
  | refused hcause hw => exact .refused hcause (hw₁.trans hw)
  | failed hname hw => exact .failed hname (hw₁.trans hw)
  | registered hname hw hbuilt hvolume =>
      exact .registered hname (hw₁.trans hw) hbuilt hvolume

/-- A driver either builds a volume under the name asked for, and that is registered, or the
table stays as it is. -/
theorem build_cases {ds : List DriverHandle} (t : MountTable) (w : World σ) (device : NodeId)
    {driver : DriverHandle} (hdriver : driver ∈ ds) (name : String) :
    (∃ volume w₁, w.mountVia driver device name = (.ok volume, w₁) ∧ volume.name = name ∧
      t.build w device driver name =
        (.ok (w₁.handleFor volume), t.afterMount w₁ device volume)) ∨
    ((∀ volume, (w.mountVia driver device name).1 = .ok volume → volume.name ≠ name) ∧
      ∃ w₁, w.Probes ds device w₁ ∧
        t.build w device driver name = (.error .mountFailed, t, w₁)) := by
  have hcall : w.Probes ds device (w.mountVia driver device name).2 := .mount .refl hdriver name
  rw [build]
  generalize w.mountVia driver device name = call at hcall ⊢
  obtain ⟨answer, w₁⟩ := call
  cases answer with
  | error cause =>
      refine .inr ⟨fun volume he => ?_, _, hcall.notify _, rfl⟩
      cases he
  | ok volume =>
      by_cases hvolume : volume.name = name
      · exact .inl ⟨volume, w₁, rfl, hvolume, adopt_of_name_eq t w₁ device driver hvolume⟩
      · refine .inr ⟨fun other he => ?_, _, hcall.notify _,
          adopt_of_name_ne t w₁ device driver hvolume⟩
        rw [← Except.ok.inj he]
        exact hvolume

theorem build_outcome {ds : List DriverHandle} {t t' : MountTable} {w w₁ : World σ}
    {device : NodeId} {driver : DriverHandle} {name? : Option String} {name : String}
    (hdriver : driver ∈ ds) (hname : t.claimName name? = some (name, t'))
    (hw₁ : w.Probes ds device w₁) :
    MountOutcome ds t w device name? (t'.build w₁ device driver name) := by
  rcases t'.build_cases w₁ device hdriver name with
    ⟨volume, w₂, hcall, hvolume, he⟩ | ⟨_, w₂, hw₂, he⟩
  · rw [he]
    exact .registered hname hw₁ ⟨driver, hdriver, hcall⟩ hvolume
  · rw [he]
    exact .failed hname (hw₁.trans hw₂)

/-- A mount whose checks pass is up to the driver. -/
theorem mountUsing_eq_build {t t' : MountTable} {w : World σ} {device : NodeId}
    {driver : DriverHandle} {name? : Option String} {name : String}
    (hdevice : w.graph.isDevice device = true) (hidentify : (w.identify driver device).1 = true)
    (hname : t.claimName name? = some (name, t')) :
    t.mountUsing w device driver name? =
      t'.build (w.identify driver device).2 device driver name := by
  unfold mountUsing
  rw [if_pos hdevice]
  split
  next he =>
    rw [he] at hidentify
    cases hidentify
  next he =>
    rw [he, hname]

theorem mountUsing_outcome {ds : List DriverHandle} (t : MountTable) (w : World σ)
    (device : NodeId) {driver : DriverHandle} (hdriver : driver ∈ ds) (name? : Option String) :
    MountOutcome ds t w device name? (t.mountUsing w device driver name?) := by
  have hcall : w.Probes ds device (w.identify driver device).2 := .identify .refl hdriver
  unfold mountUsing
  split
  next =>
    split
    next w₁ he =>
      rw [he] at hcall
      exact .refused (by decide) (hcall.notify _)
    next w₁ he =>
      rw [he] at hcall
      split
      next => exact .refused (by decide) (hcall.notify _)
      next name t' hname => exact build_outcome hdriver hname hcall
  next => exact .refused (by decide) (.notify .refl _)

theorem mount_outcome (t : MountTable) (w : World σ) (device : NodeId)
    (name? : Option String) :
    MountOutcome t.drivers.drivers t w device name? (t.mount w device name?) := by
  have hcall := w.probes_identifyFirst device t.drivers.drivers
  unfold mount
  split
  next =>
    split
    next w₁ he =>
      rw [he] at hcall
      exact .refused (by decide) (hcall.notify _)
    next driver w₁ he =>
      have hdriver := World.mem_of_identifyFirst (congrArg Prod.fst he)
      rw [he] at hcall
      exact .of_probes hcall (mountUsing_outcome t w₁ device hdriver name?)
  next => exact .refused (by decide) (.notify .refl _)

/-! ### Boot scans -/

/-- The table and the world after a boot scan has mounted a volume from a line of `/dev`. -/
def afterBoot (t : MountTable) (w : World σ) (device : NodeId) (line : String)
    (volume : Volume) : MountTable × World σ :=
  (t.afterMount w device volume).1.setSystem (t.afterMount w device volume).2 line
    (w.handleFor volume)

omit [DriverModel σ] in
theorem idOf_afterBoot (t : MountTable) (w : World σ) (device : NodeId) (line : String)
    (volume : Volume) :
    (t.afterBoot w device line volume).2.idOf (w.handleFor volume) = some t.nextId := by
  rw [afterBoot, setSystem, World.idOf_retain]
  exact (t.idOf_afterMount w device volume _).trans (if_pos rfl)

/-- The ways in which a boot scan can end. -/
inductive BootOutcome (t : MountTable) (w : World σ) :
    Option (Except ServiceError VolumeHandle) × MountTable × World σ → Prop where
  /-- There is a system volume already. -/
  | already {v : VolumeHandle} (hsystem : t.system = some v) :
      BootOutcome t w (some (.ok v), t, (w.notify (.systemAlready v.name)).retain v)
  /-- The limit was reached before the end of `/dev`. -/
  | unfinished {w' : World σ} (hsystem : t.system = none)
      (hw : w.Surveys t.drivers.drivers w') : BootOutcome t w (none, t, w')
  /-- There is no `/dev`, or nothing in it could be mounted. -/
  | failed {cause : ServiceError} {w' : World σ} (hsystem : t.system = none)
      (hcause : cause ≠ .mountFailed) (hw : w.Surveys t.drivers.drivers w') :
      BootOutcome t w (some (.error cause), t, w')
  /-- A volume was mounted and is the system volume now. -/
  | mounted {w₁ w₂ w' : World σ} {device : NodeId} {line : String} {volume : Volume}
      (hsystem : t.system = none) (hw : w.Surveys t.drivers.drivers w₁)
      (hdevice : w₁.graph.has device = true) (hprobes : w₁.Probes t.drivers.drivers device w₂)
      (hbuilt : w₂.Builds t.drivers.drivers device systemName volume w')
      (hvolume : volume.name = systemName) :
      BootOutcome t w (some (.ok (w'.handleFor volume)), t.afterBoot w' device line volume)

/-- A line of `/dev` either leaves the table as it was or brings one volume called `system`. -/
theorem trySystem_cases (t : MountTable) (w : World σ) (dev : NodeId) (line : String) :
    (∃ w', w.Surveys t.drivers.drivers w' ∧ t.trySystem w dev line = (none, t, w')) ∨
    ∃ w₁ w' device volume, w.graph.has device = true ∧
      w.Probes t.drivers.drivers device w₁ ∧
      w₁.Builds t.drivers.drivers device systemName volume w' ∧ volume.name = systemName ∧
      t.trySystem w dev line =
        (some (w'.handleFor volume), t.afterMount w' device volume) := by
  unfold trySystem
  split
  next => exact .inl ⟨w, .refl, rfl⟩
  next device _ =>
    split
    next hkind =>
      have hdevice := Graph.has_of_isDevice hkind
      have hcall := w.probes_identifyFirst device t.drivers.drivers
      split
      next w₁ he =>
        rw [he] at hcall
        exact .inl ⟨w₁, .probe .refl hdevice hcall, rfl⟩
      next driver w₁ he =>
        have hdriver := World.mem_of_identifyFirst (congrArg Prod.fst he)
        rw [he] at hcall
        have hmount := mountUsing_outcome t w₁ device hdriver (some systemName)
        generalize t.mountUsing w₁ device driver (some systemName) = result at hmount
        cases hmount with
        | refused _ hw => exact .inl ⟨_, .probe .refl hdevice (hcall.trans hw), rfl⟩
        | failed hname hw =>
            obtain ⟨_, rfl⟩ := Prod.mk.inj (Option.some.inj hname)
            exact .inl ⟨_, .probe .refl hdevice (hcall.trans hw), rfl⟩
        | registered hname hw hbuilt hvolume =>
            obtain ⟨rfl, rfl⟩ := Prod.mk.inj (Option.some.inj hname)
            exact .inr ⟨_, _, device, _, hdevice, hcall.trans hw, hbuilt, hvolume, rfl⟩
    next => exact .inl ⟨w, .refl, rfl⟩

/-- A scan that has only surveyed devices so far ends in one of the ways of a boot scan. -/
theorem scan_outcome {t : MountTable} {w : World σ} (hsystem : t.system = none) (dev : NodeId)
    (limit : Nat) (cursor : Cursor) {w' : World σ} (hw : w.Surveys t.drivers.drivers w') :
    BootOutcome t w (scan dev limit cursor t w') := by
  induction limit generalizing cursor w' with
  | zero => exact .unfinished hsystem hw
  | succ limit ih =>
      rw [scan]
      split
      next => exact .failed hsystem (by decide) (hw.notify _)
      next position line cursor' _ =>
        have hvisit := hw.notify (.scanVisits position.toNat line.name)
        rcases t.trySystem_cases (w'.notify (.scanVisits position.toNat line.name)) dev
          line.name with ⟨w₁, hw₁, he⟩ |
          ⟨w₁, w₂, device, volume, hdevice, hprobes, hbuilt, hvolume, he⟩
        · rw [he]
          exact ih cursor' (hvisit.trans hw₁)
        · rw [he]
          exact .mounted hsystem hvisit hdevice hprobes hbuilt hvolume

theorem bootScan_outcome (t : MountTable) (w : World σ) (limit : Nat) :
    BootOutcome t w (t.bootScan w limit) := by
  unfold bootScan
  split
  next v hsystem => exact .already hsystem
  next hsystem =>
    split
    next => exact .failed hsystem (by decide) (.notify .refl _)
    next dev _ => exact scan_outcome hsystem dev limit .start .refl

end MountTable

end VolumeService
