import Mathlib.Data.List.Nodup
import VolumeService.Proofs.DriverCalls
import VolumeService.Proofs.LogSettings

/-! # Registries that grow

A registry of drivers only ever grows at its end, so what it has answered it goes on answering.

* **One registration** (`Registry.register_cases`) is refused if the name is taken and otherwise
  puts the driver last.
* **Many** (`newcomers`).  A sequence of registrations brings the drivers whose names come up for
  the first time, in the order in which they do.
* **Searches.**  In a list that grows at its end, the first driver with a property stays the first
  (`World.identifyFirst_append`), and a driver found by name stays found.
* **Mounts.**  A mount table with more drivers (`MountTable.withRegistry`) mounts a device as before
  unless no driver recognised the device before; with a given driver it always does.  All that
  registrations leave besides drivers is what they say to the log, and what was said to the log
  before makes no difference to a mount (`MountTable.exists_mount_of_past`). -/

namespace VolumeService

variable {σ : Type}

/-! ### Which drivers are new -/

/-- The drivers of a list whose names come up in it for the first time and are not taken. -/
def newcomers (taken : List String) : List DriverHandle → List DriverHandle
  | [] => []
  | driver :: rest =>
    if driver.name ∈ taken then newcomers taken rest
    else driver :: newcomers (taken ++ [driver.name]) rest

theorem newcomers_sublist (taken : List String) (list : List DriverHandle) :
    (newcomers taken list).Sublist list := by
  induction list generalizing taken with
  | nil => exact .refl _
  | cons driver rest ih =>
      rw [newcomers]
      split
      · exact (ih taken).cons driver
      · exact (ih _).cons_cons driver

/-- The driver is in the list, and none before it has its name. -/
def FirstUnderName (list : List DriverHandle) (driver : DriverHandle) : Prop :=
  ∃ before after, list = before ++ driver :: after ∧
    driver.name ∉ before.map DriverHandle.name

theorem firstUnderName_cons_iff {first driver : DriverHandle} {rest : List DriverHandle} :
    FirstUnderName (first :: rest) driver ↔
      driver = first ∨ driver.name ≠ first.name ∧ FirstUnderName rest driver := by
  constructor
  · rintro ⟨before, after, hsplit, hbefore⟩
    rcases List.append_eq_cons_iff.1 hsplit.symm with ⟨_, h⟩ | ⟨others, rfl, hrest⟩
    · exact .inl (List.cons.inj h).1
    · rw [List.map_cons, List.mem_cons, not_or] at hbefore
      exact .inr ⟨hbefore.1, others, after, hrest, hbefore.2⟩
  · rintro (rfl | ⟨hname, before, after, rfl, hbefore⟩)
    · exact ⟨[], rest, rfl, List.not_mem_nil⟩
    · refine ⟨first :: before, after, rfl, ?_⟩
      rw [List.map_cons, List.mem_cons, not_or]
      exact ⟨hname, hbefore⟩

/-- A driver is new if its name is free and it is the first under that name. -/
theorem mem_newcomers_iff {taken : List String} {list : List DriverHandle}
    {driver : DriverHandle} :
    driver ∈ newcomers taken list ↔ driver.name ∉ taken ∧ FirstUnderName list driver := by
  induction list generalizing taken with
  | nil => simp [newcomers, FirstUnderName]
  | cons first rest ih =>
      rw [newcomers, firstUnderName_cons_iff]
      split
      next htaken =>
        rw [ih]
        constructor
        · rintro ⟨hfree, hrest⟩
          exact ⟨hfree, .inr ⟨fun he => hfree (he ▸ htaken), hrest⟩⟩
        · rintro ⟨hfree, rfl | ⟨_, hrest⟩⟩
          · exact absurd htaken hfree
          · exact ⟨hfree, hrest⟩
      next hfirst =>
        rw [List.mem_cons, ih, List.mem_append, List.mem_singleton, not_or]
        constructor
        · rintro (rfl | ⟨⟨hfree, hname⟩, hrest⟩)
          · exact ⟨hfirst, .inl rfl⟩
          · exact ⟨hfree, .inr ⟨hname, hrest⟩⟩
        · rintro ⟨hfree, rfl | ⟨hname, hrest⟩⟩
          · exact .inl rfl
          · exact .inr ⟨⟨hfree, hname⟩, hrest⟩

/-- The names of the new drivers are all names that are not taken, each where it comes up first. -/
theorem names_newcomers (taken : List String) (list : List DriverHandle) :
    (newcomers taken list).map DriverHandle.name =
      ((list.map DriverHandle.name).filter (· ∉ taken)).eraseDups := by
  induction list generalizing taken with
  | nil => rfl
  | cons driver rest ih =>
      rw [newcomers, List.map_cons]
      split
      next htaken => rw [ih, List.filter_cons_of_neg (by simpa using htaken)]
      next hfree =>
        rw [List.map_cons, ih, List.filter_cons_of_pos (by simpa using hfree),
          List.eraseDups_cons, List.filter_filter]
        congr 2
        refine List.filter_congr fun name _ => ?_
        by_cases hname : name = driver.name <;> simp [hname]

namespace Registry

/-! ### What registrations do to a registry -/

/-- A driver is refused if its name is taken, and otherwise comes last. -/
theorem register_cases (r : Registry) (w : World σ) (driver : DriverHandle) :
    (driver.name ∈ r.names ∧ r.register w driver =
      (.error .alreadyRegistered, r, w.notify (.driverTaken driver.name))) ∨
    (driver.name ∉ r.names ∧ r.register w driver =
      (.ok (), ⟨r.drivers ++ [driver]⟩, w.notify (.driverRegistered driver.name))) := by
  unfold register
  split
  next found hfound =>
    refine .inl ⟨?_, rfl⟩
    rw [← name_of_find? hfound]
    exact List.mem_map_of_mem (List.mem_of_find?_eq_some hfound)
  next hnone => exact .inr ⟨find?_eq_none_iff.1 hnone, rfl⟩

theorem names_append (drivers more : List DriverHandle) :
    (⟨drivers ++ more⟩ : Registry).names =
      (⟨drivers⟩ : Registry).names ++ more.map DriverHandle.name := List.map_append

/-- Registrations bring the newcomers among the drivers, and leave those there were in front. -/
theorem drivers_registerAll (r : Registry) (w : World σ) (list : List DriverHandle) :
    (r.registerAll w list).2.1.drivers = r.drivers ++ newcomers r.names list := by
  induction list generalizing r w with
  | nil => exact (List.append_nil _).symm
  | cons driver rest ih =>
      rw [registerAll, newcomers]
      dsimp only
      rcases r.register_cases w driver with ⟨htaken, he⟩ | ⟨hfree, he⟩
      · rw [he, if_pos htaken]
        exact ih r _
      · rw [he, if_neg hfree, ih, names_append]
        exact List.append_assoc ..

/-- Registrations keep the names distinct. -/
theorem nodup_names_registerAll {r : Registry} (h : r.names.Nodup) (w : World σ)
    (list : List DriverHandle) : (r.registerAll w list).2.1.names.Nodup := by
  induction list generalizing r w with
  | nil => exact h
  | cons driver rest ih =>
      rw [registerAll]
      dsimp only
      rcases r.register_cases w driver with ⟨_, he⟩ | ⟨hfree, he⟩
      · rw [he]
        exact ih h _
      · rw [he]
        refine ih ?_ _
        rw [names_append, List.map_singleton, List.nodup_append]
        refine ⟨h, List.nodup_singleton _, fun name hname other hother => ?_⟩
        rw [List.mem_singleton.1 hother]
        exact fun he => hfree (he ▸ hname)

/-- All that registrations leave in the world is what they say to the log. -/
theorem world_registerAll (r : Registry) (w : World σ) (list : List DriverHandle) :
    ∃ trace, (r.registerAll w list).2.2 = { w with trace } := by
  induction list generalizing r w with
  | nil => exact ⟨w.trace, rfl⟩
  | cons driver rest ih =>
      rw [registerAll]
      dsimp only
      rcases r.register_cases w driver with ⟨_, he⟩ | ⟨_, he⟩
      · rw [he]
        exact ih r _
      · rw [he]
        exact ih _ _

/-! ### Searches -/

/-- With distinct names, a driver of the registry is the one that is found under its name. -/
theorem find?_eq_some_iff {r : Registry} (h : r.names.Nodup) {name : String}
    {driver : DriverHandle} :
    r.find? name = some driver ↔ driver ∈ r.drivers ∧ driver.name = name := by
  constructor
  · exact fun hfound => ⟨List.mem_of_find?_eq_some hfound, name_of_find? hfound⟩
  · rintro ⟨hmem, rfl⟩
    cases hfound : r.find? driver.name with
    | none => exact absurd (List.mem_map_of_mem hmem) (find?_eq_none_iff.1 hfound)
    | some other =>
        exact congrArg some (List.inj_on_of_nodup_map h (List.mem_of_find?_eq_some hfound) hmem
          (name_of_find? hfound))

/-- A name that a registry has leads to the same driver when more have come. -/
theorem find?_append {drivers : List DriverHandle} {name : String}
    (h : name ∈ (⟨drivers⟩ : Registry).names) (more : List DriverHandle) :
    (⟨drivers ++ more⟩ : Registry).find? name = (⟨drivers⟩ : Registry).find? name := by
  cases hfound : (⟨drivers⟩ : Registry).find? name with
  | none => exact absurd h (find?_eq_none_iff.1 hfound)
  | some driver =>
      unfold find? at hfound ⊢
      rw [List.find?_append, hfound]
      rfl

end Registry

namespace World

variable [DriverModel σ]

/-- Drivers that come later are not asked about a device that one before them recognises. -/
theorem identifyFirst_append {w w₁ : World σ} {device : NodeId} {drivers : List DriverHandle}
    {driver : DriverHandle} (h : w.identifyFirst device drivers = (some driver, w₁))
    (more : List DriverHandle) :
    w.identifyFirst device (drivers ++ more) = (some driver, w₁) := by
  induction drivers generalizing w with
  | nil => cases h
  | cons first rest ih =>
      rw [List.cons_append, identifyFirst]
      rw [identifyFirst] at h
      split
      next w' he =>
        rw [he] at h
        exact h
      next w' he =>
        rw [he] at h
        exact ih h

/-- Among drivers that do not change their minds, a search finds the first that recognises the
device. -/
theorem Ready.find?_of_identifyFirst {fit : Graph → Prop} {own : CellId → σ → Prop}
    {recognises : CellId → NodeId → Bool} {ds : List DriverHandle} {w : World σ}
    (hfirm : DriverModel.Firm fit own recognises) (h : w.Ready ds fit own)
    {drivers : List DriverHandle} (hdrivers : ∀ d ∈ drivers, d ∈ ds) (device : NodeId) :
    (w.identifyFirst device drivers).1 = drivers.find? fun d => recognises d.cell device := by
  induction drivers generalizing w with
  | nil => rfl
  | cons first rest ih =>
      obtain ⟨hready, hanswer⟩ := h.identify_firm hfirm (hdrivers first List.mem_cons_self) device
      cases hfirst : (w.identify first device).1 with
      | true =>
          rw [identifyFirst_of_true hfirst, List.find?_cons, ← hanswer, hfirst]
      | false =>
          rw [identifyFirst_of_false hfirst, List.find?_cons, ← hanswer, hfirst]
          exact ih hready fun d hmem => hdrivers d (List.mem_cons_of_mem _ hmem)

end World

/-! ### Mounts with more drivers -/

namespace MountTable

/-- The table with another registry. -/
def withRegistry (t : MountTable) (r : Registry) : MountTable := { t with drivers := r }

/-- Adding drivers to a table is registering them. -/
theorem handleAll_addDriver [DriverModel σ] (t : MountTable) (w : World σ)
    (list : List DriverHandle) :
    (t.handleAll w (list.map Request.addDriver)).2 =
      (t.withRegistry (t.drivers.registerAll w list).2.1, (t.drivers.registerAll w list).2.2) := by
  induction list generalizing t w with
  | nil => rfl
  | cons driver rest ih => exact ih _ _

theorem claimName_withRegistry (t : MountTable) (r : Registry) (name? : Option String) :
    (t.withRegistry r).claimName name? =
      (t.claimName name?).map fun claim => (claim.1, claim.2.withRegistry r) := by
  cases name? with
  | none => rfl
  | some name =>
      rw [claimName, claimName]
      split <;> rfl

theorem adopt_withRegistry (t : MountTable) (r : Registry) (w : World σ) (device : NodeId)
    (driver : DriverHandle) (name : String) (volume : Volume) :
    (t.withRegistry r).adopt w device driver name volume =
      ((t.adopt w device driver name volume).1,
        (t.adopt w device driver name volume).2.1.withRegistry r,
        (t.adopt w device driver name volume).2.2) := by
  unfold adopt
  split <;> rfl

variable [DriverModel σ]

theorem build_withRegistry (t : MountTable) (r : Registry) (w : World σ) (device : NodeId)
    (driver : DriverHandle) (name : String) :
    (t.withRegistry r).build w device driver name =
      ((t.build w device driver name).1, (t.build w device driver name).2.1.withRegistry r,
        (t.build w device driver name).2.2) := by
  unfold build
  split
  next => exact adopt_withRegistry ..
  next => rfl

/-- A mount with a given driver has no use for the registry. -/
theorem mountUsing_withRegistry (t : MountTable) (r : Registry) (w : World σ) (device : NodeId)
    (driver : DriverHandle) (name? : Option String) :
    (t.withRegistry r).mountUsing w device driver name? =
      ((t.mountUsing w device driver name?).1,
        (t.mountUsing w device driver name?).2.1.withRegistry r,
        (t.mountUsing w device driver name?).2.2) := by
  unfold mountUsing
  split
  next =>
    split
    next => rfl
    next w₁ _ =>
      rw [claimName_withRegistry]
      cases t.claimName name? with
      | none => rfl
      | some claim => exact claim.2.build_withRegistry r w₁ device driver claim.1
  next => rfl

/-- Drivers that come later have no part in a mount of a device that is recognised. -/
theorem mount_withRegistry_append {t : MountTable} {w : World σ} {device : NodeId}
    {name? : Option String} (h : (t.mount w device name?).1 ≠ .error .unrecognised)
    (more : List DriverHandle) :
    (t.withRegistry ⟨t.drivers.drivers ++ more⟩).mount w device name? =
      ((t.mount w device name?).1,
        (t.mount w device name?).2.1.withRegistry ⟨t.drivers.drivers ++ more⟩,
        (t.mount w device name?).2.2) := by
  unfold mount at h ⊢
  by_cases hdevice : w.graph.isDevice device = true
  · rw [if_pos hdevice, if_pos hdevice]
    rw [if_pos hdevice] at h
    have hregistry : (t.withRegistry ⟨t.drivers.drivers ++ more⟩).drivers.drivers =
        t.drivers.drivers ++ more := rfl
    cases hsearch : w.identifyFirst device t.drivers.drivers with
    | mk found w₁ =>
        rw [hsearch] at h
        cases found with
        | none => exact absurd rfl h
        | some driver =>
            rw [hregistry, World.identifyFirst_append hsearch more]
            exact mountUsing_withRegistry ..
  · rw [if_neg hdevice, if_neg hdevice]

end MountTable

/-! ### Another past -/

/-- The world with something more that happened before all that its trace shows. -/
def World.withPast (w : World σ) (past : List Event) : World σ :=
  { w with trace := past ++ w.trace }

/-- An operation that does the same under other settings of the log does the same whatever
happened before. -/
theorem exists_of_past {α β : Type} (op : World σ → α × β × World σ)
    (hop : ∀ config past w, op (w.under config past) =
      ((op w).1, (op w).2.1, (op w).2.2.under config past)) (w : World σ) :
    ∃ a b, ∃ w₁ : World σ, ∀ past, op { w with trace := past } = (a, b, w₁.withPast past) := by
  have hpast : ∀ past, ({ w with trace := past } : World σ) =
      World.under w.log past { w with trace := [] } := by
    intro past
    rw [World.under, List.map_nil, List.append_nil]
  refine ⟨(op { w with trace := [] }).1, (op { w with trace := [] }).2.1,
    (op { w with trace := [] }).2.2.under w.log [], fun past => ?_⟩
  rw [hpast past, hop]
  rfl

/-! ### Histories of registrations -/

/-- Two mounts, the second from a table with registry `r`, come to the same: one answer, tables that
differ in their registries, and worlds that differ in what happened before. -/
def MountTable.SameUpToRegistry (r : Registry) (w w' : World σ)
    (call call' : Except ServiceError VolumeHandle × MountTable × World σ) : Prop :=
  ∃ answer t₁ w₁, call = (answer, t₁, World.withPast w₁ w.trace) ∧
    call' = (answer, t₁.withRegistry r, World.withPast w₁ w'.trace)

/-- Where a registry comes from registrations, drivers that are added to a table change no mount
with a given driver, and of the others only such as found no driver. -/
theorem MountTable.sameUpToRegistry_of_addDriver [DriverModel σ] (t : MountTable) (w : World σ)
    (list : List DriverHandle) (device : NodeId) (name? : Option String) :
    let after := (t.handleAll w (list.map Request.addDriver)).2
    (∀ driver, SameUpToRegistry after.1.drivers w after.2 (t.mountUsing w device driver name?)
      (after.1.mountUsing after.2 device driver name?)) ∧
    ((t.mount w device name?).1 ≠ .error .unrecognised →
      SameUpToRegistry after.1.drivers w after.2 (t.mount w device name?)
        (after.1.mount after.2 device name?)) := by
  obtain ⟨trace, htrace⟩ := t.drivers.world_registerAll w list
  have hdrivers : (t.drivers.registerAll w list).2.1 =
      ⟨t.drivers.drivers ++ newcomers t.drivers.names list⟩ := by
    rw [← Registry.drivers_registerAll]
  rw [handleAll_addDriver, htrace, hdrivers]
  refine ⟨fun driver => ?_, fun hrecognised => ?_⟩
  · obtain ⟨answer, t₁, w₁, hmount⟩ :=
      exists_of_past (fun w => t.mountUsing w device driver name?)
        (fun config past w => t.mountUsing_under config past w device driver name?) w
    refine ⟨answer, t₁, w₁, hmount w.trace, ?_⟩
    rw [mountUsing_withRegistry, hmount trace]
    rfl
  · obtain ⟨answer, t₁, w₁, hmount⟩ :=
      exists_of_past (fun w => t.mount w device name?)
        (fun config past w => t.mount_under config past w device name?) w
    have hanswer : (t.mount { w with trace } device name?).1 ≠ .error .unrecognised := by
      rw [hmount trace]
      rw [show w = { w with trace := w.trace } from rfl, hmount w.trace] at hrecognised
      exact hrecognised
    refine ⟨answer, t₁, w₁, hmount w.trace, ?_⟩
    rw [mount_withRegistry_append hanswer, hmount trace]
    rfl

/-- The driver is the first of a list to recognise the device. -/
def FirstToRecognise (recognises : CellId → NodeId → Bool) (drivers : List DriverHandle)
    (device : NodeId) (driver : DriverHandle) : Prop :=
  ∃ before after, drivers = before ++ driver :: after ∧ recognises driver.cell device = true ∧
    ∀ other ∈ before, recognises other.cell device = false

theorem find?_eq_some_iff_firstToRecognise {recognises : CellId → NodeId → Bool}
    {drivers : List DriverHandle} {device : NodeId} {driver : DriverHandle} :
    drivers.find? (fun d => recognises d.cell device) = some driver ↔
      FirstToRecognise recognises drivers device driver := by
  rw [List.find?_eq_some_iff_append]
  constructor
  · rintro ⟨htrue, before, after, hsplit, hbefore⟩
    exact ⟨before, after, hsplit, htrue, fun other hother => by simpa using hbefore other hother⟩
  · rintro ⟨before, after, hsplit, htrue, hbefore⟩
    exact ⟨htrue, before, after, hsplit, fun other hother => by simpa using hbefore other hother⟩

/-- **Registries over all histories.**  After any sequence of registrations the names are distinct
and stand in the order in which each came up first, with the driver that came with it.  A further
registration is refused exactly if its name is there, and then changes nothing.  A name leads to the
driver of that name, and to none exactly if it is not there; a device leads to the first driver that
recognises it, and to none exactly if no driver does.  Further registrations do not change what a
name leads to that is there, nor what a device leads to that is recognised; and of the mounts of a
table only those that found no driver may come out otherwise. -/
theorem Registry.stable_over_registrations [DriverModel σ] (w : World σ)
    (list : List DriverHandle) :
    let r := (Registry.empty.registerAll w list).2.1
    (r.names.Nodup ∧ r.names = (list.map DriverHandle.name).eraseDups ∧
      r.drivers.Sublist list ∧
      ∀ driver, driver ∈ r.drivers ↔ FirstUnderName list driver) ∧
    (∀ (w : World σ) driver,
      (driver.name ∈ r.names → r.register w driver =
        (.error .alreadyRegistered, r, w.notify (.driverTaken driver.name))) ∧
      (driver.name ∉ r.names → r.register w driver =
        (.ok (), ⟨r.drivers ++ [driver]⟩, w.notify (.driverRegistered driver.name)))) ∧
    (∀ name, (∀ driver, r.find? name = some driver ↔ driver ∈ r.drivers ∧ driver.name = name) ∧
      (r.find? name = none ↔ name ∉ r.names)) ∧
    (∀ fit own recognises, DriverModel.Firm fit own recognises →
      ∀ w : World σ, w.Ready r.drivers fit own → ∀ device,
        (∀ driver, (w.identifyFirst device r.drivers).1 = some driver ↔
          FirstToRecognise recognises r.drivers device driver) ∧
        ((w.identifyFirst device r.drivers).1 = none ↔
          ∀ driver ∈ r.drivers, recognises driver.cell device = false)) ∧
    (∀ (w : World σ) more,
      let r' := (r.registerAll w more).2.1
      (∀ name ∈ r.names, r'.find? name = r.find? name) ∧
      ∀ fit own recognises, DriverModel.Firm fit own recognises →
        ∀ w₁ w₂ : World σ, w₁.Ready r.drivers fit own → w₂.Ready r'.drivers fit own →
          ∀ device driver, (w₁.identifyFirst device r.drivers).1 = some driver →
            (w₂.identifyFirst device r'.drivers).1 = some driver) ∧
    (∀ (t : MountTable) (w : World σ) (more : List DriverHandle) device name?,
      let after := (t.handleAll w (more.map Request.addDriver)).2
      (∀ driver, MountTable.SameUpToRegistry after.1.drivers w after.2
        (t.mountUsing w device driver name?)
        (after.1.mountUsing after.2 device driver name?)) ∧
      ((t.mount w device name?).1 ≠ .error .unrecognised →
        MountTable.SameUpToRegistry after.1.drivers w after.2 (t.mount w device name?)
          (after.1.mount after.2 device name?))) := by
  intro r
  have hdrivers : r.drivers = newcomers [] list := drivers_registerAll .empty w list
  have hnames : r.names = (list.map DriverHandle.name).eraseDups := by
    rw [names, hdrivers, names_newcomers, List.filter_eq_self.2 (by simp)]
  have hempty : empty.names.Nodup := List.nodup_nil
  have hnodup : r.names.Nodup := nodup_names_registerAll hempty w list
  have hsearch : ∀ {fit own recognises}, DriverModel.Firm fit own recognises →
      ∀ {drivers} {w : World σ}, w.Ready drivers fit own → ∀ device,
        (w.identifyFirst device drivers).1 = drivers.find? fun d => recognises d.cell device :=
    fun hfirm _ _ hready => hready.find?_of_identifyFirst hfirm fun _ hmem => hmem
  refine ⟨⟨hnodup, hnames, ?_, fun driver => ?_⟩,
    fun w driver => ⟨fun htaken => ?_, fun hfree => ?_⟩,
    fun name => ⟨fun driver => find?_eq_some_iff hnodup, find?_eq_none_iff⟩,
    fun fit own recognises hfirm w hready device => ⟨fun driver => ?_, ?_⟩,
    fun w more => ⟨fun name hname => ?_, ?_⟩,
    fun t w more device name? => t.sameUpToRegistry_of_addDriver w more device name?⟩
  · rw [hdrivers]
    exact newcomers_sublist [] list
  · rw [hdrivers, mem_newcomers_iff]
    exact and_iff_right List.not_mem_nil
  · exact (r.register_cases w driver).elim And.right fun h => absurd htaken h.1
  · exact (r.register_cases w driver).elim (fun h => absurd h.1 hfree) And.right
  · rw [hsearch hfirm hready]
    exact find?_eq_some_iff_firstToRecognise
  · rw [hsearch hfirm hready, List.find?_eq_none]
    simp only [Bool.not_eq_true]
  · have hmore : (r.registerAll w more).2.1 = ⟨r.drivers ++ newcomers r.names more⟩ := by
      rw [← drivers_registerAll r w more]
    rw [hmore]
    exact find?_append hname _
  · intro fit own recognises hfirm w₁ w₂ hready hready' device driver hfound
    rw [hsearch hfirm hready] at hfound
    rw [hsearch hfirm hready', drivers_registerAll, List.find?_append, hfound]
    rfl

/-! ### A name that is taken -/

namespace RegistryExample

/-- One driver that recognises nothing, and two that recognise every device. -/
def world : World ScriptedDriver where
  graph := (Graph.empty.push (.newDirectory "/")).push (.newImage "disk" [])
  drivers := ((Store.empty.push { format := "ext", identify := .never, mount := .directory }).push
    { format := "fat", identify := .always, mount := .directory }).push
    { format := "fat", identify := .always, mount := .treeless }

def ext : DriverHandle := ⟨"ext", ⟨0⟩⟩

def fat : DriverHandle := ⟨"fat", ⟨1⟩⟩

/-- A second driver under the name of the first. -/
def twin : DriverHandle := ⟨"fat", ⟨2⟩⟩

/-- The first of the drivers recognises no device, and the others all. -/
def recognises (cell : CellId) (_ : NodeId) : Bool := decide (cell ≠ ext.cell)

/-- A driver that answers so. -/
def Answering (cell : CellId) (d : ScriptedDriver) : Prop :=
  d.identify = if cell = ext.cell then .never else .always

theorem firm : DriverModel.Firm (fun _ => True) Answering recognises := by
  intro cell state g device hown _
  refine ⟨hown, trivial, ?_⟩
  show state.identify.answer g device (state.probes + 1) = _
  rw [hown, recognises]
  by_cases hcell : cell = ext.cell <;> simp [hcell, IdentifyRule.answer]

/-- The second driver of one name is refused, and the device is recognised by the first. -/
theorem twin_is_refused :
    (Registry.empty.registerAll world [ext, fat, twin]).1 =
      [.ok (), .ok (), .error .alreadyRegistered] ∧
    (Registry.empty.registerAll world [ext, fat, twin]).2.1.names = ["ext", "fat"] ∧
    FirstToRecognise recognises [ext, fat] ⟨1⟩ fat := by
  have hready : world.Ready [ext, fat] (fun _ => True) Answering := by
    refine ⟨fun driver hmem state hstate => ?_, by decide, trivial⟩
    rcases List.mem_cons.1 hmem with rfl | hmem
    · obtain rfl := Option.some.inj hstate
      rfl
    · obtain rfl := List.mem_singleton.1 hmem
      obtain rfl := Option.some.inj hstate
      rfl
  obtain ⟨hnames, _, _, hsearch, _⟩ :=
    Registry.stable_over_registrations world [ext, fat, twin]
  exact ⟨by decide, hnames.2.1.trans (by decide),
    ((hsearch _ _ _ firm world hready ⟨1⟩).1 fat).1 (by decide)⟩

end RegistryExample

end VolumeService
