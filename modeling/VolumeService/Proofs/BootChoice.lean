import VolumeService.Proofs.MountOutcome
import VolumeService.Proofs.ScriptedDrivers

/-! # Which device the boot scan chooses

A boot scan over a directory that nobody changes meanwhile, with drivers that do not change their
minds, is a search through a sorted list.

* **Steady drivers** (`DriverModel.Steady`).  Whatever calls came before, a driver recognises a
  device and builds a volume from it by the device and the name alone, and calls leave `/dev` and
  what it lists as they are.
* **Usable devices** (`Usable`).  A device counts if the *first* driver that recognises it builds
  a volume called `system` from it.  What later drivers would do with the device does not matter.
* **The choice** (`bootScan_selects`).  The scan mounts the usable device with the least name, as
  if there were no other lines in `/dev`, and fails without a trace if there is none. -/

namespace VolumeService

/-! ### Steady drivers -/

/-- The nodes in `kept` are made of the same in both graphs. -/
def Graph.Agree (kept : NodeId → Prop) (g g' : Graph) : Prop :=
  ∀ n, kept n → g'.content? n = g.content? n

/-- Drivers in states of `own` answer for the nodes in `kept` by the device and the name alone,
and leave these nodes made of what they are made of in `g₀`. -/
structure DriverModel.Steady {σ : Type} [DriverModel σ] (g₀ : Graph) (kept : NodeId → Prop)
    (own : CellId → σ → Prop) (recognises : CellId → NodeId → Bool)
    (builds : CellId → NodeId → String → Except NodeError (String × String)) : Prop where
  identify : ∀ {cell : CellId} {state : σ} {g : Graph} (device : NodeId), own cell state →
    g₀.Agree kept g →
      own cell (DriverModel.identify state g device).2.1 ∧
      g₀.Agree kept (DriverModel.identify state g device).2.2 ∧
      (kept device → (DriverModel.identify state g device).1 = recognises cell device)
  mount : ∀ {cell : CellId} {state : σ} {g : Graph} (device : NodeId) (name : String),
    own cell state → g₀.Agree kept g →
      own cell (DriverModel.mount state g device name).2.1 ∧
      g₀.Agree kept (DriverModel.mount state g device name).2.2 ∧
      (kept device →
        (DriverModel.mount state g device name).1.map (fun v => (v.format, v.name)) =
          builds cell device name)

theorem Graph.Agree.isDevice {kept : NodeId → Prop} {g g' : Graph} (h : g.Agree kept g')
    {n : NodeId} (hn : kept n) : g'.isDevice n = g.isDevice n := by
  rw [Graph.isDevice, kind_eq, h n hn, ← kind_eq, Graph.isDevice]

theorem Graph.Agree.directory? {kept : NodeId → Prop} {g g' : Graph} (h : g.Agree kept g')
    {n : NodeId} (hn : kept n) : g'.directory? n = g.directory? n := by
  rw [Graph.directory?, h n hn, Graph.directory?]

variable {σ : Type}

namespace World.Ready

variable {ds : List DriverHandle} {g₀ : Graph} {kept : NodeId → Prop} {own : CellId → σ → Prop}
  {recognises : CellId → NodeId → Bool}
  {builds : CellId → NodeId → String → Except NodeError (String × String)} {w w' : World σ}

variable [DriverModel σ] (hsteady : DriverModel.Steady g₀ kept own recognises builds)
include hsteady

theorem identify_steady (h : w.Ready ds (g₀.Agree kept) own) {driver : DriverHandle}
    (hdriver : driver ∈ ds) (device : NodeId) :
    (w.identify driver device).2.Ready ds (g₀.Agree kept) own ∧
      (kept device → (w.identify driver device).1 = recognises driver.cell device) :=
  h.identify (P := fun answer => kept device → answer = recognises driver.cell device) hdriver
    device fun _ hown => hsteady.identify device hown h.fit

theorem mountVia_steady (h : w.Ready ds (g₀.Agree kept) own) {driver : DriverHandle}
    (hdriver : driver ∈ ds) (device : NodeId) (name : String) :
    (w.mountVia driver device name).2.Ready ds (g₀.Agree kept) own ∧
      (kept device → (w.mountVia driver device name).1.map (fun v => (v.format, v.name)) =
        builds driver.cell device name) :=
  h.mountVia (P := fun answer => kept device →
      answer.map (fun v => (v.format, v.name)) = builds driver.cell device name) hdriver
    device name fun _ hown => hsteady.mount device name hown h.fit

/-- Consulting steady drivers leaves all ready. -/
theorem of_consults (h : w.Ready ds (g₀.Agree kept) own) (hw : w.Consults ds w') :
    w'.Ready ds (g₀.Agree kept) own := by
  induction hw with
  | refl => exact h
  | identify _ hdriver device ih => exact (ih.identify_steady hsteady hdriver device).1
  | mount _ hdriver device name ih => exact (ih.mountVia_steady hsteady hdriver device name).1
  | notify _ notice ih => exact ih.of_drivers_eq rfl ih.fit

/-- The search for a driver finds the first that recognises the device. -/
theorem identifyFirst_steady (h : w.Ready ds (g₀.Agree kept) own) {drivers : List DriverHandle}
    (hds : ∀ driver ∈ drivers, driver ∈ ds) {device : NodeId} (hdevice : kept device) :
    (w.identifyFirst device drivers).1 = drivers.find? fun d => recognises d.cell device := by
  induction drivers generalizing w with
  | nil => rfl
  | cons driver rest ih =>
      obtain ⟨hready, hanswer⟩ :=
        h.identify_steady hsteady (hds driver (List.mem_cons_self ..)) device
      rw [World.identifyFirst, List.find?_cons, ← hanswer hdevice]
      split
      next he => rw [he]
      next he =>
        rw [he]
        rw [he] at hready
        exact ih hready fun d hmem => hds d (List.mem_cons_of_mem _ hmem)

end World.Ready

namespace MountTable

/-! ### One line of the device directory -/

/-- The first of the drivers that recognises the device builds a volume called `system`. -/
def Usable (g : Graph) (ds : List DriverHandle) (recognises : CellId → NodeId → Bool)
    (builds : CellId → NodeId → String → Except NodeError (String × String))
    (device : NodeId) : Prop :=
  g.isDevice device = true ∧
    ∃ driver format, ds.find? (fun d => recognises d.cell device) = some driver ∧
      builds driver.cell device systemName = .ok (format, systemName)

/-- Whether a device is usable is up to the first driver that recognises it. -/
theorem usable_iff {g : Graph} {ds : List DriverHandle} {recognises : CellId → NodeId → Bool}
    {builds : CellId → NodeId → String → Except NodeError (String × String)} {device : NodeId}
    {driver : DriverHandle} (hkind : g.isDevice device = true)
    (hfound : ds.find? (fun d => recognises d.cell device) = some driver) :
    Usable g ds recognises builds device ↔
      ∃ format, builds driver.cell device systemName = .ok (format, systemName) := by
  constructor
  · rintro ⟨_, other, format, hother, hbuilds⟩
    obtain rfl := Option.some.inj (hfound.symm.trans hother)
    exact ⟨format, hbuilds⟩
  · rintro ⟨format, hbuilds⟩
    exact ⟨hkind, driver, format, hfound, hbuilds⟩

/-- An answer brings a volume of a certain name if it does so up to its format. -/
theorem exists_format_iff {answer : Except NodeError Volume} {name : String} :
    (∃ format, answer.map (fun v => (v.format, v.name)) = .ok (format, name)) ↔
      ∃ volume, answer = .ok volume ∧ volume.name = name := by
  cases answer with
  | error cause =>
      constructor
      · rintro ⟨_, h⟩
        cases h
      · rintro ⟨_, h, _⟩
        cases h
  | ok volume =>
      constructor
      · rintro ⟨_, h⟩
        exact ⟨volume, rfl, (Prod.mk.inj (Except.ok.inj h)).2⟩
      · rintro ⟨built, h, rfl⟩
        obtain rfl := Except.ok.inj h
        exact ⟨volume.format, rfl⟩

variable [DriverModel σ] {g₀ : Graph} {kept : NodeId → Prop} {own : CellId → σ → Prop}
  {recognises : CellId → NodeId → Bool}
  {builds : CellId → NodeId → String → Except NodeError (String × String)}
  {t : MountTable} {w : World σ} {dev device : NodeId} {line : String}

/-- The first driver that recognises a device has the last word on it. -/
theorem mountUsing_steady (hsteady : DriverModel.Steady g₀ kept own recognises builds)
    (h : w.Ready t.drivers.drivers (g₀.Agree kept) own) (hdevice : kept device)
    (hkind : g₀.isDevice device = true) {driver : DriverHandle}
    (hfound : t.drivers.drivers.find? (fun d => recognises d.cell device) = some driver) :
    ∃ w₁, w.Consults t.drivers.drivers w₁ ∧
      (w₁.mountVia driver device systemName).1.map (fun v => (v.format, v.name)) =
        builds driver.cell device systemName ∧
      t.mountUsing w device driver (some systemName) = t.build w₁ device driver systemName := by
  have hdriver : driver ∈ t.drivers.drivers := List.mem_of_find?_eq_some hfound
  obtain ⟨hready, hanswer⟩ := h.identify_steady hsteady hdriver device
  have hidentify : (w.identify driver device).1 = true := by
    rw [hanswer hdevice]
    simpa using List.find?_some hfound
  refine ⟨_, .identify .refl hdriver device,
    (hready.mountVia_steady hsteady hdriver device systemName).2 hdevice, ?_⟩
  exact mountUsing_eq_build ((h.fit.isDevice hdevice).trans hkind) hidentify
    (claimName_some (by decide))

/-- A line of `/dev` brings the system volume exactly if it leads to a usable device. -/
theorem trySystem_steady (hsteady : DriverModel.Steady g₀ kept own recognises builds)
    (h : w.Ready t.drivers.drivers (g₀.Agree kept) own)
    (hchild : Namespace.child? w.graph dev line = some device) (hdevice : kept device) :
    (Usable g₀ t.drivers.drivers recognises builds device ∧ ∃ driver w₁ w₂ volume,
      t.drivers.drivers.find? (fun d => recognises d.cell device) = some driver ∧
      w.Consults t.drivers.drivers w₁ ∧
      w₁.mountVia driver device systemName = (.ok volume, w₂) ∧ volume.name = systemName ∧
      t.trySystem w dev line =
        (some (w₂.handleFor volume), t.afterMount w₂ device volume)) ∨
    (¬ Usable g₀ t.drivers.drivers recognises builds device ∧
      ∃ w₁, w.Consults t.drivers.drivers w₁ ∧ t.trySystem w dev line = (none, t, w₁)) := by
  have hsearch := h.identifyFirst_steady hsteady (fun _ hmem => hmem) hdevice
  have hcall := w.consults_identifyFirst device t.drivers.drivers
  rw [trySystem, hchild]
  dsimp only
  rw [h.fit.isDevice hdevice]
  cases hkind : g₀.isDevice device with
  | false =>
      refine .inr ⟨?_, w, .refl, rfl⟩
      rintro ⟨hdev, _⟩
      rw [hkind] at hdev
      cases hdev
  | true =>
      rw [if_pos rfl]
      generalize w.identifyFirst device t.drivers.drivers = call at hsearch hcall ⊢
      obtain ⟨found, w₁⟩ := call
      cases found with
      | none =>
          refine .inr ⟨?_, w₁, hcall, rfl⟩
          rintro ⟨_, driver, format, hfound, _⟩
          rw [← hsearch] at hfound
          cases hfound
      | some driver =>
          have hfound := hsearch.symm
          obtain ⟨w₂, hw₂, hanswer, heq⟩ :=
            mountUsing_steady hsteady (h.of_consults hsteady hcall) hdevice hkind hfound
          dsimp only
          rw [heq]
          rcases t.build_cases w₂ device (List.mem_of_find?_eq_some hfound) systemName with
            ⟨volume, w₃, hmount, hvolume, he⟩ | ⟨hnot, w₃, hw₃, he⟩
          · rw [he]
            refine .inl ⟨?_, driver, w₂, w₃, volume, hfound, hcall.trans hw₂, hmount, hvolume, rfl⟩
            rw [usable_iff hkind hfound, ← hanswer, exists_format_iff]
            exact ⟨volume, congrArg Prod.fst hmount, hvolume⟩
          · rw [he]
            refine .inr ⟨?_, w₃, (hcall.trans hw₂).trans hw₃.consults, rfl⟩
            rw [usable_iff hkind hfound, ← hanswer, exists_format_iff]
            rintro ⟨volume, hbuilt, hvolume⟩
            exact hnot volume hbuilt hvolume

/-! ### The whole directory -/

/-- How a search through entries of `/dev` ends: with the first usable one, or empty-handed. -/
inductive Selection (g₀ : Graph) (recognises : CellId → NodeId → Bool)
    (builds : CellId → NodeId → String → Except NodeError (String × String)) (t : MountTable)
    (w : World σ) (entries : List (String × NodeId)) :
    Option (Except ServiceError VolumeHandle) × MountTable × World σ → Prop where
  | found {before after : List (String × NodeId)} {line : String} {device : NodeId}
      {driver : DriverHandle} {w₁ w₂ : World σ} {volume : Volume}
      (hsplit : entries = before ++ (line, device) :: after)
      (hbefore : ∀ entry ∈ before, ¬ Usable g₀ t.drivers.drivers recognises builds entry.2)
      (husable : Usable g₀ t.drivers.drivers recognises builds device)
      (hfound : t.drivers.drivers.find? (fun d => recognises d.cell device) = some driver)
      (hw : w.Consults t.drivers.drivers w₁)
      (hmount : w₁.mountVia driver device systemName = (.ok volume, w₂))
      (hvolume : volume.name = systemName) :
      Selection g₀ recognises builds t w entries
        (some (.ok (w₂.handleFor volume)), t.afterBoot w₂ device line volume)
  | fruitless {w₁ : World σ}
      (hnone : ∀ entry ∈ entries, ¬ Usable g₀ t.drivers.drivers recognises builds entry.2)
      (hw : w.Consults t.drivers.drivers w₁) :
      Selection g₀ recognises builds t w entries (some (.error .noSystemDevice), t, w₁)

/-- An entry that is not usable does not count. -/
theorem Selection.cons {entries : List (String × NodeId)} {w' : World σ}
    {result : Option (Except ServiceError VolumeHandle) × MountTable × World σ}
    {entry : String × NodeId} (hw : w.Consults t.drivers.drivers w')
    (hnot : ¬ Usable g₀ t.drivers.drivers recognises builds entry.2)
    (h : Selection g₀ recognises builds t w' entries result) :
    Selection g₀ recognises builds t w (entry :: entries) result := by
  cases h with
  | @found before after line device _ _ _ _ hsplit hbefore husable hfound hw' hmount hvolume =>
      have hcons : entry :: entries = (entry :: before) ++ (line, device) :: after := by
        rw [hsplit, List.cons_append]
      refine .found hcons ?_ husable hfound (hw.trans hw') hmount hvolume
      intro other hother
      rcases List.mem_cons.1 hother with rfl | hother
      · exact hnot
      · exact hbefore other hother
  | fruitless hnone hw' =>
      refine .fruitless ?_ (hw.trans hw')
      intro other hother
      rcases List.mem_cons.1 hother with rfl | hother
      · exact hnot
      · exact hnone other hother

/-- The scan from a position on is the search through the entries from there on. -/
theorem scan_steady (hsteady : DriverModel.Steady g₀ kept own recognises builds)
    {children : Directory NodeId} (hchildren : g₀.directory? dev = some children)
    (hdev : kept dev) (hkept : ∀ entry ∈ children.entries, kept entry.2)
    (hsize : children.size < UInt64.size) {visited rest : List (String × NodeId)}
    (hsplit : children.entries = visited ++ rest) {cursor : Cursor}
    (hcursor : cursor.position.toNat = visited.length) {limit : Nat} (hlimit : rest.length < limit)
    (h : w.Ready t.drivers.drivers (g₀.Agree kept) own) :
    Selection g₀ recognises builds t w rest (scan dev limit cursor t w) := by
  induction rest generalizing visited cursor limit w with
  | nil =>
      cases limit with
      | zero => cases hlimit
      | succ limit =>
          rw [List.append_nil] at hsplit
          rw [scan, Cursor.next?_of_entries_eq ((h.fit.directory? hdev).trans hchildren) hsplit
            hcursor]
          exact .fruitless (fun _ hmem => absurd hmem List.not_mem_nil) (.notify .refl _)
  | cons entry rest ih =>
      obtain ⟨line, device⟩ := entry
      cases limit with
      | zero => cases hlimit
      | succ limit =>
          have hdirectory := (h.fit.directory? hdev).trans hchildren
          have hentry : (line, device) ∈ children.entries := by
            rw [hsplit]
            exact List.mem_append_cons_self
          have hchild := Namespace.child?_of_mem hdirectory hentry
          have hdevice : kept device := hkept _ hentry
          obtain ⟨cursor', hnext, hcursor'⟩ :=
            Cursor.next?_of_entries_append hdirectory hsize hsplit hcursor
          have hvisit : w.Consults t.drivers.drivers
              (w.notify (.scanVisits cursor.position.toNat line)) := .notify .refl _
          have hready := h.of_consults hsteady hvisit
          rw [scan, hnext]
          dsimp only
          rcases trySystem_steady hsteady hready hchild hdevice with
            ⟨husable, driver, w₁, w₂, volume, hfound, hw₁, hmount, hvolume, he⟩ |
            ⟨hnot, w₁, hw₁, he⟩
          · rw [he]
            exact .found (List.nil_append _).symm (fun _ hmem => absurd hmem List.not_mem_nil)
              husable hfound (hvisit.trans hw₁) hmount hvolume
          · rw [he]
            refine .cons (hvisit.trans hw₁) hnot (ih ?_ hcursor' (Nat.lt_of_succ_lt_succ hlimit)
              (hready.of_consults hsteady hw₁))
            rw [hsplit, List.append_assoc]
            rfl

/-- With `/dev` in place, a boot scan is the search through its entries. -/
theorem bootScan_steady (hsystem : t.system = none)
    (hlookup : w.graph.lookup t.root "dev" = .ok dev)
    (hsteady : DriverModel.Steady g₀ kept own recognises builds)
    {children : Directory NodeId} (hchildren : g₀.directory? dev = some children)
    (hdev : kept dev) (hkept : ∀ entry ∈ children.entries, kept entry.2)
    (hsize : children.size < UInt64.size) {limit : Nat} (hlimit : children.size < limit)
    (h : w.Ready t.drivers.drivers (g₀.Agree kept) own) :
    Selection g₀ recognises builds t w children.entries (t.bootScan w limit) := by
  have hresolve : Namespace.resolve w.graph t.root devicePath = .ok dev := by
    rw [Namespace.resolve, if_pos (show Path.isAbsolute devicePath = true by decide),
      show Path.components devicePath = ["dev"] by decide, Namespace.walk, if_neg (by decide),
      if_neg (by decide), hlookup]
    rfl
  rw [bootScan, hsystem]
  dsimp only
  rw [hresolve]
  exact scan_steady hsteady hchildren hdev hkept hsize (List.nil_append _).symm rfl
    hlimit h

/-- A boot scan mounts the usable device of `/dev` with the least name, whatever else fails on the
way, and leaves everything as it is if there is none. -/
theorem bootScan_selects (t : MountTable) (w : World σ) (hsystem : t.system = none)
    (limit : Nat) :
    (∀ cause, Namespace.resolve w.graph t.root devicePath = .error cause →
      t.bootScan w limit =
        (some (.error .noDeviceDirectory), t, w.notify (.scanImpossible cause))) ∧
    ∀ dev children own recognises builds,
      w.graph.lookup t.root "dev" = .ok dev → w.graph.directory? dev = some children →
      children.size < UInt64.size → children.size < limit →
      DriverModel.Steady w.graph (fun n => n = dev ∨ n ∈ children.entries.map (·.2)) own
        recognises builds →
      w.Houses t.drivers.drivers own →
      (∀ driver ∈ t.drivers.drivers, w.drivers.has driver.cell.index = true) →
      let usable := Usable w.graph t.drivers.drivers recognises builds
      let after := t.bootScan w limit
      ((∃ v, after.1 = some (.ok v)) ↔ ∃ entry ∈ children.entries, usable entry.2) ∧
      (∀ v, after.1 = some (.ok v) → ∃ line device driver w₁,
        (line, device) ∈ children.entries ∧ usable device ∧
        (∀ entry ∈ children.entries, usable entry.2 →
          entry = (line, device) ∨ Name.Before line entry.1) ∧
        t.drivers.drivers.find? (fun d => recognises d.cell device) = some driver ∧
        w.Consults t.drivers.drivers w₁ ∧
        (w₁.mountVia driver device systemName).1 = .ok v.volume ∧ v.name = systemName ∧
        after.2.1 =
          { t with volumes := t.volumes ++ [v], nextId := t.nextId.next, system := some v } ∧
        after.2.2.idOf v = some t.nextId) ∧
      ((∀ entry ∈ children.entries, ¬ usable entry.2) →
        after.1 = some (.error .noSystemDevice) ∧ after.2.1 = t ∧
        w.Consults t.drivers.drivers after.2.2) := by
  refine ⟨?_, ?_⟩
  · intro cause hresolve
    rw [bootScan, hsystem]
    dsimp only
    rw [hresolve]
  · intro dev children own recognises builds hlookup hchildren hsize hlimit hsteady hhouses
      hstaffed usable after
    have hready : w.Ready t.drivers.drivers
        (w.graph.Agree fun n => n = dev ∨ n ∈ children.entries.map (·.2)) own :=
      ⟨hhouses, hstaffed, fun _ _ => rfl⟩
    have hselection : Selection w.graph recognises builds t w children.entries after :=
      bootScan_steady hsystem hlookup hsteady hchildren (.inl rfl)
        (fun entry hentry => .inr (List.mem_map_of_mem hentry)) hsize hlimit hready
    clear_value after
    cases hselection with
    | @found before rest line device driver w₁ w₂ volume hsplit hbefore husable hfound hw hmount
        hvolume =>
        have hmem : (line, device) ∈ children.entries := by
          rw [hsplit]
          exact List.mem_append_cons_self
        refine ⟨⟨fun _ => ⟨_, hmem, husable⟩, fun _ => ⟨_, rfl⟩⟩, ?_, ?_⟩
        · intro v hv
          obtain rfl := Except.ok.inj (Option.some.inj hv)
          refine ⟨line, device, driver, w₁, hmem, husable, ?_, hfound, hw, ?_, hvolume, rfl, ?_⟩
          · exact fun _ hentry => Directory.least_of_split hsplit hbefore hentry
          · rw [hmount]
            rfl
          · exact t.idOf_afterBoot w₂ device line volume
        · intro hnone
          exact absurd husable (hnone _ hmem)
    | fruitless hnone hw =>
        refine ⟨⟨?_, ?_⟩, ?_, fun _ => ⟨rfl, rfl, hw⟩⟩
        · rintro ⟨v, hv⟩
          cases hv
        · rintro ⟨entry, hentry, husable⟩
          exact absurd husable (hnone entry hentry)
        · intro v hv
          cases hv

end MountTable

/-! ### A device whose driver fails before one whose driver does not -/

namespace BootExample

def devices : Directory NodeId := (Directory.empty.insert "b" ⟨3⟩).insert "a" ⟨2⟩

def rootEntries : Directory NodeId := Directory.empty.insert "dev" ⟨1⟩

/-- A root with `/dev/a` and `/dev/b`, whose first bytes tell them apart. -/
def graph : Graph :=
  (((Graph.empty.push { name := "/", content := .directory rootEntries }).push
    { name := "dev", content := .directory devices }).push
    (.newImage "a" [1])).push (.newImage "b" [2])

/-- The first driver recognises `a` and fails, all others recognise `b`. -/
def script (cell : CellId) : ScriptedDriver :=
  if cell.index = 0 then { format := "broken", identify := .magic [1] 0, mount := .fails .ioError }
  else { format := "fat", identify := .magic [2] 0, mount := .treeless }

def world : World ScriptedDriver where
  graph := graph
  drivers := (Store.empty.push (script ⟨0⟩)).push (script ⟨1⟩)

def table : MountTable := .create ⟨0⟩ ⟨[⟨"broken", ⟨0⟩⟩, ⟨"fat", ⟨1⟩⟩]⟩

/-- What the drivers recognise. -/
def recognises (cell : CellId) (device : NodeId) : Bool :=
  (script cell).identify.answer graph device 0

/-- What the drivers build. -/
def builds (cell : CellId) (_device : NodeId) (name : String) :
    Except NodeError (String × String) :=
  if cell.index = 0 then .error .ioError else .ok ("fat", name)

/-- The drivers go by the bytes of a device, and answer as they do in a given graph. -/
theorem steady_on (g₀ : Graph) (kept : NodeId → Prop) :
    DriverModel.Steady g₀ kept (fun cell d => ∃ probes, d = { script cell with probes })
      (fun cell device => (script cell).identify.answer g₀ device 0) builds where
  identify := by
    rintro cell _ g device ⟨probes, rfl⟩ hg
    have hquiet : (script cell).Quiet := by
      unfold script
      split <;> rfl
    refine ⟨⟨probes + 1, rfl⟩, ?_, ?_⟩
    · show g₀.Agree kept ((script cell).affect g (probes + 1))
      rw [ScriptedDriver.affect_of_quiet hquiet]
      exact hg
    · intro hdevice
      show (script cell).identify.answer g device (probes + 1) =
        (script cell).identify.answer g₀ device 0
      unfold script
      split <;> simp only [IdentifyRule.answer, Graph.read_eq, hg device hdevice]
  mount := by
    rintro cell _ g device name ⟨probes, rfl⟩ hg
    refine ⟨⟨probes, rfl⟩, ?_, fun _ => ?_⟩
    · show g₀.Agree kept ((script cell).mount.build g (script cell).format device name).2
      unfold script
      split <;> exact hg
    · show ((script cell).mount.build g (script cell).format device name).1.map _ = _
      unfold script builds
      split <;> rfl

theorem steady (kept : NodeId → Prop) :
    DriverModel.Steady graph kept (fun cell d => ∃ probes, d = { script cell with probes })
      recognises builds := steady_on graph kept

/-- The scan passes over `a` and mounts `b`. -/
theorem bootScan_mounts_second :
    let v : VolumeHandle := ⟨.treeless "fat" systemName, ⟨0⟩⟩
    (table.bootScan world 3).1 = some (.ok v) ∧
      (table.bootScan world 3).2.1 =
        { table with volumes := [v], nextId := VolumeId.first.next, system := some v } ∧
      (table.bootScan world 3).2.2.idOf v = some .first := by
  have hhouses : world.Houses table.drivers.drivers
      (fun cell d => ∃ probes, d = { script cell with probes }) := by
    intro driver hmem state hstate
    rcases List.mem_cons.1 hmem with rfl | hmem
    · obtain rfl := Option.some.inj hstate
      exact ⟨0, rfl⟩
    · obtain rfl := List.mem_singleton.1 hmem
      obtain rfl := Option.some.inj hstate
      exact ⟨0, rfl⟩
  obtain ⟨hiff, hchoice, _⟩ := (MountTable.bootScan_selects table world rfl 3).2 ⟨1⟩ devices _
    recognises builds rfl rfl (by decide) (by decide) (steady _) hhouses (by decide)
  obtain ⟨v, hv⟩ :=
    hiff.2 ⟨("b", ⟨3⟩), by decide, rfl, ⟨"fat", ⟨1⟩⟩, "fat", by decide, rfl⟩
  obtain ⟨_, _, _, _, _, _, _, _, _, _, _, htable, hid⟩ := hchoice v hv
  have hfirst : v = ⟨.treeless "fat" systemName, ⟨0⟩⟩ := by
    have hlast : (table.bootScan world 3).1 = some (.ok ⟨.treeless "fat" systemName, ⟨0⟩⟩) := rfl
    exact Except.ok.inj (Option.some.inj (hv.symm.trans hlast))
  subst hfirst
  exact ⟨hv, htable, hid⟩

end BootExample

end VolumeService
