import VolumeService.Proofs.MountOutcome

/-! # Mounts that cannot fail

* **Made-up names** (`anonymousName`) are told apart by their numbers.
* **Dependable drivers** (`DriverModel.Dependable`).  The drivers before a certain one never
  recognise the device; that one always does, and builds a volume under any name.  What the calls
  leave behind stays so, and so does the link that a registration adds.
* **Mounting** (`mount_dependable`) a device with such a driver and without a name registers one
  volume, under the next name and with the next id.
* **Unmounting** (`unmount_of_unique`) a listed volume whose name nothing else in the list has
  takes out that volume. -/

namespace VolumeService

/-! ### Made-up names -/

/-- The made-up name with a given number. -/
def anonymousName (k : Nat) : String := s!"{anonymousStem}{k}"

theorem anonymousName_inj {j k : Nat} (h : anonymousName j = anonymousName k) : j = k := by
  have hchars : anonymousStem.toList ++ Nat.toDigits 10 j =
      anonymousStem.toList ++ Nat.toDigits 10 k := by
    have hlist := congrArg String.toList h
    simpa [anonymousName, toString, Nat.repr] using hlist
  have hdigits := List.append_cancel_left hchars
  rw [← Nat.ofDigitChars_ten_toDigits (n := j), hdigits, Nat.ofDigitChars_ten_toDigits]

variable {σ : Type}

/-! ### Dependable drivers -/

/-- Whenever the graph is `fit` and drivers are in states of `own`, the drivers of `before` do not
recognise the device, and `driver` does and builds a volume from it under any name. -/
structure DriverModel.Dependable [DriverModel σ] (device : NodeId) (before : List DriverHandle)
    (driver : DriverHandle) (fit : Graph → Prop) (own : CellId → σ → Prop) : Prop where
  isDevice : ∀ {g : Graph}, fit g → g.isDevice device = true
  linked : ∀ {g : Graph} (n parent : NodeId), fit g → fit (g.reparent n parent)
  passes : ∀ d ∈ before, ∀ {g : Graph} (state : σ), fit g → own d.cell state →
    own d.cell (DriverModel.identify state g device).2.1 ∧
    fit (DriverModel.identify state g device).2.2 ∧
    (DriverModel.identify state g device).1 = false
  recognises : ∀ {g : Graph} (state : σ), fit g → own driver.cell state →
    own driver.cell (DriverModel.identify state g device).2.1 ∧
    fit (DriverModel.identify state g device).2.2 ∧
    (DriverModel.identify state g device).1 = true
  mounts : ∀ {g : Graph} (name : String) (state : σ), fit g → own driver.cell state →
    own driver.cell (DriverModel.mount state g device name).2.1 ∧
    fit (DriverModel.mount state g device name).2.2 ∧
    ∃ volume, (DriverModel.mount state g device name).1 = .ok volume ∧ volume.name = name

section Dependable

variable [DriverModel σ] {device : NodeId} {before : List DriverHandle}
  {driver : DriverHandle} {fit : Graph → Prop} {own : CellId → σ → Prop}
  (hdep : DriverModel.Dependable device before driver fit own)
include hdep

/-- The search passes over the drivers before the dependable one. -/
theorem World.Ready.identifyFirst_dependable {w : World σ}
    (h : w.Ready (before ++ [driver]) fit own) {drivers : List DriverHandle}
    (hdrivers : ∀ d ∈ drivers, d ∈ before) (after : List DriverHandle) :
    ∃ w₁, w.identifyFirst device (drivers ++ driver :: after) = (some driver, w₁) ∧
      w₁.Ready (before ++ [driver]) fit own := by
  induction drivers generalizing w with
  | nil =>
      obtain ⟨hready, hanswer⟩ := h.identify (P := (· = true))
        (List.mem_append_right _ (List.mem_singleton_self driver)) device
        fun state hown => hdep.recognises state h.fit hown
      exact ⟨_, World.identifyFirst_of_true hanswer after, hready⟩
  | cons first rest ih =>
      have hfirst := hdrivers first (List.mem_cons_self ..)
      obtain ⟨hready, hanswer⟩ := h.identify (P := (· = false))
        (List.mem_append_left _ hfirst) device
        fun state hown => hdep.passes first hfirst state h.fit hown
      obtain ⟨w₁, hsearch, hready₁⟩ :=
        ih hready fun d hmem => hdrivers d (List.mem_cons_of_mem _ hmem)
      refine ⟨w₁, ?_, hready₁⟩
      rw [List.cons_append, World.identifyFirst_of_false hanswer, hsearch]

/-- A registration leaves all ready, with the link that it adds. -/
theorem World.Ready.register {w : World σ} (h : w.Ready (before ++ [driver]) fit own)
    (t : MountTable) (volume : Volume) :
    (t.register w volume).2.2.Ready (before ++ [driver]) fit own := by
  unfold MountTable.register World.linkMountPoint
  split
  next n _ => exact h.of_drivers_eq rfl (hdep.linked n t.root h.fit)
  next => exact h.of_drivers_eq rfl h.fit

/-- A mount without a name registers one volume under the next name, with the next id. -/
theorem MountTable.mount_dependable {t : MountTable} {w : World σ} {after : List DriverHandle}
    (hdrivers : t.drivers.drivers = before ++ driver :: after)
    (h : w.Ready (before ++ [driver]) fit own) :
    ∃ v w', t.mount w device none =
        (.ok v,
          { t with
            volumes := t.volumes ++ [v]
            nextId := t.nextId.next
            nextSuffix := t.nextSuffix + 1 },
          w') ∧
      v.name = anonymousName t.nextSuffix.toNat ∧ w'.idOf v = some t.nextId ∧
      w'.Ready (before ++ [driver]) fit own := by
  have hlast : driver ∈ before ++ [driver] :=
    List.mem_append_right _ (List.mem_singleton_self driver)
  obtain ⟨w₁, hsearch, h₁⟩ := h.identifyFirst_dependable hdep (fun _ hd => hd) after
  obtain ⟨h₂, hidentify⟩ := h₁.identify (P := (· = true)) hlast device
    fun state hown => hdep.recognises state h₁.fit hown
  obtain ⟨h₃, volume, hbuilt, hvolume⟩ := h₂.mountVia
    (P := fun answer => ∃ volume, answer = .ok volume ∧
      volume.name = anonymousName t.nextSuffix.toNat)
    hlast device (anonymousName t.nextSuffix.toNat)
    fun state hown => hdep.mounts (anonymousName t.nextSuffix.toNat) state h₂.fit hown
  have hmount : t.mount w device none =
      { t with nextSuffix := t.nextSuffix + 1 }.build (w₁.identify driver device).2 device driver
        (anonymousName t.nextSuffix.toNat) := by
    rw [mount, if_pos (hdep.isDevice h.fit), hdrivers, hsearch]
    exact mountUsing_eq_build (hdep.isDevice h₁.fit) hidentify t.claimName_none
  rw [hmount]
  rcases build_cases { t with nextSuffix := t.nextSuffix + 1 } (w₁.identify driver device).2 device
    hlast (anonymousName t.nextSuffix.toNat) with ⟨built, w₃, hcall, hname, he⟩ | ⟨hnot, _⟩
  · rw [hcall] at h₃
    refine ⟨_, _, he, hname, ?_, ?_⟩
    · exact (idOf_register _ w₃ built _).trans (if_pos rfl)
    · exact (h₃.register hdep _ built).of_drivers_eq rfl (h₃.register hdep _ built).fit
  · exact absurd hvolume (hnot volume hbuilt)

end Dependable

/-! ### Unmounting by a name of its own -/

/-- Unmounting by a name that only one listed volume has takes that volume out. -/
theorem MountTable.unmount_of_unique {t : MountTable} (w : World σ) {v : VolumeHandle}
    (hv : v ∈ t.volumes) (hunique : ∀ u ∈ t.volumes, u.name = v.name → u = v) :
    ∃ w', t.unmount w v.name = (.ok v, { t with volumes := t.volumes.erase v }, w') ∧
      w'.drivers = w.drivers ∧ w'.graph = w.graph := by
  cases hpick : t.removeFirst? w (fun u => decide (u.name = v.name)) with
  | none =>
      have hmiss := removeFirst?_eq_none_iff.1 hpick v hv
      exact absurd rfl (of_decide_eq_false hmiss)
  | some removed =>
      obtain ⟨u, t₁, w₁⟩ := removed
      obtain ⟨hu, hname, rfl, rfl⟩ := erase_of_removeFirst? hpick
      obtain rfl := hunique u hu (of_decide_eq_true hname)
      obtain ⟨w', hunmount, hgraph, _, hdrivers⟩ := unmount_of_removeFirst? hpick
      exact ⟨w', hunmount, hdrivers, hgraph⟩

end VolumeService
