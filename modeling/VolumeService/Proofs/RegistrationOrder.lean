import Mathlib.Data.List.Forall2
import VolumeService.Proofs.DeviceDirectories
import VolumeService.Proofs.Lists
import VolumeService.Proofs.SteadyMounts

/-! # In which order devices and drivers are registered

Devices are entered into `/dev` one by one, and drivers into a registry.  In which order that is
done makes no difference to what can be mounted.

* **Devices.**  What `/dev` lists is up to the devices and their names
  (`DeviceDir.createWith_perm`), and a directory lists names in byte order whatever the order was
  that they came in (`Outfit.lines_eq`).
* **Drivers.**  If no two drivers recognise the same device (`Catalogue.Apart`), each device goes
  to the same driver whichever is asked first (`Catalogue.driver?_perm`).
* **Two sides.**  An `Outfit` is a table over a root with such a `/dev`, with steady drivers.  Two
  outfits with the same devices and the same drivers boot from the same device with the same
  outcome, and are alike again afterwards (`Alike`), so that each mount that follows has the same
  outcome on both sides (`outcomes_regardless_of_order`). -/

namespace VolumeService

/-! ### The drivers in another order -/

namespace Catalogue

variable {δ : Type} {cat : Catalogue δ} {drivers drivers' : List DriverHandle}

/-- No device is recognised by two of the drivers. -/
def Apart (cat : Catalogue δ) (drivers : List DriverHandle) : Prop :=
  ∀ device, ∀ d ∈ drivers, ∀ d' ∈ drivers, cat.recognises d.cell device = true →
    cat.recognises d'.cell device = true → d = d'

/-- A device goes to the same driver in whatever order drivers are asked. -/
theorem driver?_perm (hdrivers : drivers.Perm drivers') (hapart : cat.Apart drivers)
    (device : δ) : cat.driver? drivers device = cat.driver? drivers' device := by
  unfold driver?
  cases hfound : drivers.find? fun d => cat.recognises d.cell device with
  | none =>
      rw [List.find?_eq_none] at hfound
      refine (List.find?_eq_none.2 fun d hmem => ?_).symm
      exact hfound d (hdrivers.mem_iff.2 hmem)
  | some d =>
      have hmem : d ∈ drivers := List.mem_of_find?_eq_some hfound
      have hd : cat.recognises d.cell device = true := by simpa using List.find?_some hfound
      have hisSome : (drivers'.find? fun d => cat.recognises d.cell device).isSome = true :=
        List.find?_isSome.2 ⟨d, hdrivers.mem_iff.1 hmem, hd⟩
      obtain ⟨d', hfound'⟩ := Option.isSome_iff_exists.1 hisSome
      have hmem' : d' ∈ drivers := hdrivers.mem_iff.2 (List.mem_of_find?_eq_some hfound')
      have hd' : cat.recognises d'.cell device = true := by simpa using List.find?_some hfound'
      rw [hfound', hapart device d hmem d' hmem' hd hd']

theorem mount_perm (hdrivers : drivers.Perm drivers') (hapart : cat.Apart drivers) (device : δ)
    (name? : Option String) (nextId : VolumeId) (nextSuffix : UInt64) :
    cat.mount drivers device name? nextId nextSuffix =
      cat.mount drivers' device name? nextId nextSuffix := by
  rw [mount, driver?_perm hdrivers hapart, mount]

/-- The driver that a device goes to builds a system volume from it. -/
def Usable (cat : Catalogue δ) (drivers : List DriverHandle) (device : δ) : Prop :=
  cat.isDevice device = true ∧ ∃ driver format, cat.driver? drivers device = some driver ∧
    cat.builds driver.cell device systemName = .ok (format, systemName)

theorem usable_perm (hdrivers : drivers.Perm drivers') (hapart : cat.Apart drivers)
    (device : δ) : cat.Usable drivers device ↔ cat.Usable drivers' device := by
  rw [Usable, driver?_perm hdrivers hapart, Usable]

/-- The first line of a listing from whose device a system volume can be built. -/
structure FirstUsable (cat : Catalogue δ) (drivers : List DriverHandle) (lines : List (String × δ))
    (entry : String × δ) : Prop where
  usable : cat.Usable drivers entry.2
  split : ∃ before after, lines = before ++ entry :: after ∧
    ∀ other ∈ before, ¬ cat.Usable drivers other.2

variable {lines : List (String × δ)} {entry entry' : String × δ}

theorem FirstUsable.mem (h : cat.FirstUsable drivers lines entry) : entry ∈ lines := by
  obtain ⟨before, after, rfl, -⟩ := h.split
  exact List.mem_append_cons_self

/-- There is one first usable line, in whatever order drivers are asked. -/
theorem FirstUsable.eq_of_perm (h : cat.FirstUsable drivers lines entry)
    (h' : cat.FirstUsable drivers' lines entry') (hdrivers : drivers.Perm drivers')
    (hapart : cat.Apart drivers) : entry = entry' := by
  obtain ⟨before, after, hsplit, hbefore⟩ := h.split
  obtain ⟨before', after', hsplit', hbefore'⟩ := h'.split
  have husable := usable_perm hdrivers hapart
  refine eq_of_first (P := fun entry : String × δ => cat.Usable drivers entry.2)
    (hsplit.symm.trans hsplit') hbefore h.usable (fun other hother => ?_)
    ((husable entry'.2).2 h'.usable)
  exact fun hother' => hbefore' other hother ((husable other.2).1 hother')

end Catalogue

/-! ### Outfits -/

/-- A mount table over a root whose `/dev` was made with certain devices, with steady drivers. -/
structure Outfit {δ : Type} (cat : Catalogue δ) (σ : Type) [DriverModel σ] where
  /-- The device that a node is to the drivers. -/
  see : NodeId → δ
  /-- The nodes that the drivers leave as they are. -/
  kept : NodeId → Prop
  /-- The states that the drivers may be in. -/
  own : CellId → σ → Prop
  /-- The graph before `/dev` was made. -/
  before : Graph
  devices : List NodeId
  dev : NodeId
  table : MountTable
  world : World σ
  filled : ∃ g, DeviceDir.createWith before devices = (.ok dev, g) ∧
    world.graph.directory? dev = g.directory? dev ∧
    ∀ n ∈ DeviceDir.builtIn before ++ devices, g.name n = cat.name (see n)
  reached : world.graph.lookup table.root "dev" = .ok dev
  kept_dev : kept dev
  kept_devices : ∀ n ∈ DeviceDir.builtIn before ++ devices, kept n
  describes : cat.Describes see world.graph kept own
  ready : world.Ready table.drivers.drivers (world.graph.Agree kept) own

namespace Outfit

variable {δ : Type} {cat : Catalogue δ} {σ : Type} [DriverModel σ] {s s' : Outfit cat σ}

/-- The drivers of the table. -/
def drivers (s : Outfit cat σ) : List DriverHandle := s.table.drivers.drivers

/-- What can be told about the system volume, if there is one already. -/
def system (s : Outfit cat σ) : Option (String × String × Option VolumeId) :=
  s.table.system.map fun v => (v.volume.format, v.name, s.world.idOf v)

/-- What the boot scan does. -/
def boot (s : Outfit cat σ) (limit : Nat) :
    Option (Except ServiceError VolumeHandle) × MountTable × World σ :=
  s.table.bootScan s.world limit

/-- Two outfits with the same devices and the same drivers, in whatever order they were
registered, with the same counters and the same system volume or none. -/
structure SameStock (s s' : Outfit cat σ) : Prop where
  builtIn : (DeviceDir.builtIn s.before).map s.see = (DeviceDir.builtIn s'.before).map s'.see
  devices : (s.devices.map s.see).Perm (s'.devices.map s'.see)
  drivers : s.drivers.Perm s'.drivers
  nextId : s.table.nextId = s'.table.nextId
  nextSuffix : s.table.nextSuffix = s'.table.nextSuffix
  system : s.system = s'.system

/-- The boot scan mounted a volume that a driver built from the device at a line of `/dev`. -/
structure BootedFrom (s : Outfit cat σ) (limit : Nat) (line : String) (device : NodeId)
    (driver : DriverHandle) (v : VolumeHandle) : Prop where
  listed : ∃ children, s.world.graph.directory? s.dev = some children ∧
    (line, device) ∈ children.entries
  recognised : cat.driver? s.drivers (s.see device) = some driver
  built : ∃ w₁ w₂, s.world.Consults s.drivers w₁ ∧
    w₁.mountVia driver device systemName = (.ok v.volume, w₂) ∧ v = w₂.handleFor v.volume ∧
    s.boot limit = (some (.ok v), s.table.afterBoot w₂ device line v.volume)

/-! ### The lines of `/dev` -/

/-- A line of `/dev`, with the device that drivers see there. -/
def seen (s : Outfit cat σ) (entry : String × NodeId) : String × δ := (entry.1, s.see entry.2)

/-- The lines of a directory, with the devices that drivers see there. -/
def lines (s : Outfit cat σ) (children : Directory NodeId) : List (String × δ) :=
  children.entries.map s.seen

/-- `/dev` lists the devices under their names. -/
theorem exists_children (s : Outfit cat σ) :
    ∃ children, s.world.graph.directory? s.dev = some children ∧
      (s.lines children).Perm (((DeviceDir.builtIn s.before ++ s.devices).map s.see).map
        fun device => (cat.name device, device)) ∧
      (∀ entry ∈ children.entries, s.kept entry.2) ∧ children.size = s.devices.length + 2 := by
  obtain ⟨g, hcreate, hsame, hnames⟩ := s.filled
  obtain ⟨children, hchildren, hperm⟩ := DeviceDir.createWith_perm hcreate
  refine ⟨children, hsame.trans hchildren, ?_, ?_, ?_⟩
  · refine (hperm.map _).trans (.of_eq ?_)
    rw [List.map_map, List.map_map]
    refine List.map_congr_left fun n hn => ?_
    show (g.name n, s.see n) = (cat.name (s.see n), s.see n)
    rw [hnames n hn]
  · intro entry hentry
    obtain ⟨n, hn, rfl⟩ := List.mem_map.1 (hperm.mem_iff.1 hentry)
    exact s.kept_devices n hn
  · rw [Directory.size, hperm.length_eq, List.length_map, List.length_append]
    exact Nat.add_comm ..

theorem lines_sorted (s : Outfit cat σ) (children : Directory NodeId) :
    (s.lines children).Pairwise fun a b => Name.Before a.1 b.1 :=
  List.pairwise_map.2 children.sorted

/-- The order in which devices were registered leaves no mark on `/dev`. -/
theorem lines_eq (h : s.SameStock s') {children children' : Directory NodeId}
    (hchildren : s.world.graph.directory? s.dev = some children)
    (hchildren' : s'.world.graph.directory? s'.dev = some children') :
    s.lines children = s'.lines children' := by
  obtain ⟨listed, hlisted, hperm, -⟩ := s.exists_children
  obtain ⟨listed', hlisted', hperm', -⟩ := s'.exists_children
  obtain rfl := Option.some.inj (hchildren.symm.trans hlisted)
  obtain rfl := Option.some.inj (hchildren'.symm.trans hlisted')
  have hdevices : ((DeviceDir.builtIn s.before ++ s.devices).map s.see).Perm
      ((DeviceDir.builtIn s'.before ++ s'.devices).map s'.see) := by
    rw [List.map_append, List.map_append, h.builtIn]
    exact h.devices.append_left _
  have hlines := (hperm.trans (hdevices.map _)).trans hperm'.symm
  exact Directory.eq_of_perm (s.lines_sorted children) (s'.lines_sorted children') hlines

/-! ### The boot scan of one outfit -/

/-- A node is usable if the device that it is to the drivers is. -/
theorem usable_iff (s : Outfit cat σ) {device : NodeId} (hdevice : s.kept device) :
    MountTable.Usable s.world.graph s.drivers (fun cell n => cat.recognises cell (s.see n))
      (fun cell n => cat.builds cell (s.see n)) device ↔ cat.Usable s.drivers (s.see device) := by
  rw [MountTable.Usable, s.describes.kinds device hdevice]
  rfl

/-- The boot scan mounts the first usable line, or there is none and it fails. -/
theorem boot_cases (s : Outfit cat σ) (hsystem : s.table.system = none)
    {children : Directory NodeId} (hchildren : s.world.graph.directory? s.dev = some children)
    {limit : Nat} (hsize : s.devices.length + 2 < UInt64.size)
    (hlimit : s.devices.length + 2 < limit) :
    (∃ line device driver v,
      cat.FirstUsable s.drivers (s.lines children) (line, s.see device) ∧ s.kept device ∧
      s.BootedFrom limit line device driver v) ∨
    (∀ entry ∈ s.lines children, ¬ cat.Usable s.drivers entry.2) ∧
      ∃ w₁, s.world.Consults s.drivers w₁ ∧
        s.boot limit = (some (.error .noSystemDevice), s.table, w₁) := by
  obtain ⟨listed, hlisted, -, hkept, hlength⟩ := s.exists_children
  obtain rfl := Option.some.inj (hchildren.symm.trans hlisted)
  have hselection := MountTable.bootScan_steady hsystem s.reached s.describes.steady hchildren
    s.kept_dev hkept (hlength ▸ hsize) (hlength ▸ hlimit) s.ready
  have hnot : ∀ entries : List (String × NodeId), (∀ entry ∈ entries, s.kept entry.2) →
      (∀ entry ∈ entries, ¬ MountTable.Usable s.world.graph s.drivers
        (fun cell n => cat.recognises cell (s.see n))
        (fun cell n => cat.builds cell (s.see n)) entry.2) →
      ∀ entry ∈ entries.map s.seen, ¬ cat.Usable s.drivers entry.2 := by
    intro entries hentries hunusable entry hentry
    obtain ⟨node, hnode, rfl⟩ := List.mem_map.1 hentry
    exact fun husable => hunusable node hnode ((s.usable_iff (hentries node hnode)).2 husable)
  generalize hboot : s.table.bootScan s.world limit = result at hselection
  cases hselection with
  | @found before after line device driver w₁ w₂ volume hsplit hbefore husable hfound hw hmount
      hvolume =>
      have hmem : (line, device) ∈ children.entries := by
        rw [hsplit]
        exact List.mem_append_cons_self
      have hdevice : s.kept device := hkept _ hmem
      refine .inl ⟨line, device, driver, w₂.handleFor volume,
        ⟨(s.usable_iff hdevice).1 husable, before.map s.seen, after.map s.seen, ?_, ?_⟩, hdevice,
        ⟨⟨children, hchildren, hmem⟩, hfound, w₁, w₂, hw, hmount, rfl, hboot⟩⟩
      · rw [lines, hsplit, List.map_append, List.map_cons]
        rfl
      · refine hnot before (fun entry hentry => hkept entry ?_) hbefore
        rw [hsplit]
        exact List.mem_append_left _ hentry
  | @fruitless w₁ hnone hw =>
      exact .inr ⟨hnot children.entries hkept hnone, w₁, hw, hboot⟩

/-! ### The boot scans of two outfits -/

/-- The boot scan that mounts a volume comes to what the catalogue says about the driver and the
device. -/
theorem BootedFrom.settled {limit : Nat} {line : String} {device : NodeId} {driver : DriverHandle}
    {v : VolumeHandle} (h : s.BootedFrom limit line device driver v) (hdevice : s.kept device)
    (husable : cat.Usable s.drivers (s.see device)) :
    (s.boot limit).1 = some (.ok v) ∧
      MountTable.Settled s.world.graph s.kept s.own s.table
        (cat.build driver (s.see device) systemName s.table.nextId s.table.nextSuffix)
        (.ok v, (s.boot limit).2) := by
  obtain ⟨_, hrecognised, w₁, w₂, hw, hmount, hv, hboot⟩ := h
  have hdriver : driver ∈ s.drivers := List.mem_of_find?_eq_some hrecognised
  have hready₁ := s.ready.of_consults s.describes.steady hw
  obtain ⟨hready₂, hanswer⟩ := hready₁.mountVia_steady s.describes.steady hdriver device systemName
  have hbuilds := hanswer hdevice
  rw [hmount] at hready₂ hbuilds
  obtain ⟨-, driver', format, hrecognised', husual⟩ := husable
  obtain rfl := Option.some.inj (hrecognised.symm.trans hrecognised')
  obtain ⟨hformat, hname⟩ : v.volume.format = format ∧ v.volume.name = systemName :=
    Prod.mk.inj (Except.ok.inj (hbuilds.trans husual))
  have hid := s.table.idOf_afterBoot w₂ device line v.volume
  rw [← hv] at hid
  rw [hboot]
  refine ⟨rfl, ?_, rfl, ?_⟩
  · rw [Catalogue.build, husual]
    show Verdict.mk (.ok (v.volume.format, v.volume.name, _)) _ _ =
      if systemName = systemName then _ else _
    rw [hid, hformat, hname, if_pos rfl]
    rfl
  · have hready := hready₂.afterMount s.table device v.volume
    exact hready.of_drivers_eq rfl hready.fit

/-- A boot scan that finds the system slot full comes to what is in it. -/
theorem boot_of_system {system : VolumeHandle} (h : s.table.system = some system) (limit : Nat) :
    (s.boot limit).1 = some (.ok system) ∧
      MountTable.Settled s.world.graph s.kept s.own s.table
        ⟨.ok (system.volume.format, system.name, s.world.idOf system), s.table.nextId,
          s.table.nextSuffix⟩ (.ok system, (s.boot limit).2) := by
  have hboot : s.boot limit = (some (.ok system), s.table,
      (s.world.notify (.systemAlready system.name)).retain system) := by
    rw [boot, MountTable.bootScan, h]
  rw [hboot]
  refine ⟨rfl, ?_, rfl, s.ready.of_drivers_eq rfl s.ready.fit⟩
  rw [MountTable.verdict]
  dsimp only [Except.map]
  rw [World.idOf_retain]
  rfl

/-- A boot scan that finds no usable line comes to that. -/
theorem boot_of_fruitless {limit : Nat} {w₁ : World σ} (hw : s.world.Consults s.drivers w₁)
    (hboot : s.boot limit = (some (.error .noSystemDevice), s.table, w₁)) :
    (s.boot limit).1 = some (.error .noSystemDevice) ∧
      MountTable.Settled s.world.graph s.kept s.own s.table
        ⟨.error .noSystemDevice, s.table.nextId, s.table.nextSuffix⟩
        (.error .noSystemDevice, (s.boot limit).2) := by
  rw [hboot]
  exact ⟨rfl, rfl, rfl, s.ready.of_consults s.describes.steady hw⟩

/-- Two outfits with the same stock boot alike, from the same device by the same driver. -/
theorem boot_alike (hstock : s.SameStock s') (hapart : cat.Apart s.drivers) {limit limit' : Nat}
    (hsize : s.devices.length + 2 < UInt64.size) (hlimit : s.devices.length + 2 < limit)
    (hlimit' : s.devices.length + 2 < limit') :
    ∃ result result' expected, (s.boot limit).1 = some result ∧ (s'.boot limit').1 = some result' ∧
      MountTable.Settled s.world.graph s.kept s.own s.table expected (result, (s.boot limit).2) ∧
      MountTable.Settled s'.world.graph s'.kept s'.own s'.table expected
        (result', (s'.boot limit').2) ∧
      (s.table.system = none → ∀ v v', result = .ok v → result' = .ok v' →
        ∃ line device device' driver, s.see device = s'.see device' ∧
          s.BootedFrom limit line device driver v ∧
          s'.BootedFrom limit' line device' driver v') := by
  have hlength : s'.devices.length = s.devices.length := by
    have hlength := hstock.devices.length_eq
    rw [List.length_map, List.length_map] at hlength
    exact hlength.symm
  have hslots := hstock.system
  cases hsystem : s.table.system with
  | some system =>
      rw [Outfit.system, hsystem, Outfit.system, Option.map_some, eq_comm,
        Option.map_eq_some_iff] at hslots
      obtain ⟨system', hsystem', hfacts⟩ := hslots
      obtain ⟨hboot, hsettled⟩ := boot_of_system hsystem limit
      obtain ⟨hboot', hsettled'⟩ := boot_of_system hsystem' limit'
      rw [← hstock.nextId, ← hstock.nextSuffix, hfacts] at hsettled'
      exact ⟨_, _, _, hboot, hboot', hsettled, hsettled', fun hnone => by cases hnone⟩
  | none =>
      rw [Outfit.system, hsystem, Outfit.system, Option.map_none, eq_comm,
        Option.map_eq_none_iff] at hslots
      obtain ⟨children, hchildren, -⟩ := s.exists_children
      obtain ⟨children', hchildren', -⟩ := s'.exists_children
      have hlines := lines_eq hstock hchildren hchildren'
      have husable := Catalogue.usable_perm hstock.drivers hapart
      rcases s.boot_cases hsystem hchildren hsize hlimit with
        ⟨line, device, driver, v, hfirst, hdevice, hbooted⟩ | ⟨hnone, w₁, hw, hboot⟩ <;>
      rcases s'.boot_cases hslots hchildren' (hlength ▸ hsize) (hlength ▸ hlimit') with
        ⟨line', device', driver', v', hfirst', hdevice', hbooted'⟩ | ⟨hnone', w₁', hw', hboot'⟩
      · obtain ⟨hsame, hdevices⟩ : line = line' ∧ s.see device = s'.see device' :=
          Prod.mk.inj (hfirst.eq_of_perm (hlines ▸ hfirst') hstock.drivers hapart)
        have hdrivers : driver = driver' := by
          have hrecognised := hbooted.recognised
          rw [hdevices, Catalogue.driver?_perm hstock.drivers hapart] at hrecognised
          exact Option.some.inj (hrecognised.symm.trans hbooted'.recognised)
        subst hsame hdrivers
        obtain ⟨hboot, hsettled⟩ := hbooted.settled hdevice hfirst.usable
        obtain ⟨hboot', hsettled'⟩ := hbooted'.settled hdevice' hfirst'.usable
        rw [← hstock.nextId, ← hstock.nextSuffix, ← hdevices] at hsettled'
        refine ⟨_, _, _, hboot, hboot', hsettled, hsettled', fun _ u u' hu hu' => ?_⟩
        obtain rfl := Except.ok.inj hu
        obtain rfl := Except.ok.inj hu'
        exact ⟨line, device, device', driver, hdevices, hbooted, hbooted'⟩
      · exact absurd ((husable _).1 hfirst.usable) (hnone' _ (hlines ▸ hfirst.mem))
      · exact absurd ((husable _).2 hfirst'.usable) (hnone _ (hlines ▸ hfirst'.mem))
      · obtain ⟨hboot, hsettled⟩ := boot_of_fruitless hw hboot
        obtain ⟨hboot', hsettled'⟩ := boot_of_fruitless hw' hboot'
        rw [← hstock.nextId, ← hstock.nextSuffix] at hsettled'
        exact ⟨_, _, _, hboot, hboot', hsettled, hsettled', fun _ _ _ hv => by cases hv⟩

/-! ### What follows -/

/-- The tables and the worlds of two outfits later on, still with the same drivers and the same
counters. -/
structure Alike (s s' : Outfit cat σ) (now now' : MountTable × World σ) : Prop where
  drivers : now.1.drivers.drivers = s.drivers
  drivers' : now'.1.drivers.drivers = s'.drivers
  ready : now.2.Ready s.drivers (s.world.graph.Agree s.kept) s.own
  ready' : now'.2.Ready s'.drivers (s'.world.graph.Agree s'.kept) s'.own
  nextId : now.1.nextId = now'.1.nextId
  nextSuffix : now.1.nextSuffix = now'.1.nextSuffix

/-- Mounts of the same device under the same name, or both without a name. -/
def SameMount (s s' : Outfit cat σ) (mount mount' : NodeId × Option String) : Prop :=
  s.kept mount.1 ∧ s'.kept mount'.1 ∧ s.see mount.1 = s'.see mount'.1 ∧ mount.2 = mount'.2

/-- What comes to the same verdict leaves two outfits alike. -/
theorem Alike.of_settled {t t' : MountTable} {expected : Verdict}
    {answer answer' : Except ServiceError VolumeHandle × MountTable × World σ}
    (hdrivers : t.drivers.drivers = s.drivers) (hdrivers' : t'.drivers.drivers = s'.drivers)
    (h : MountTable.Settled s.world.graph s.kept s.own t expected answer)
    (h' : MountTable.Settled s'.world.graph s'.kept s'.own t' expected answer') :
    Alike s s' answer.2 answer'.2 where
  drivers := (congrArg Registry.drivers h.drivers).trans hdrivers
  drivers' := (congrArg Registry.drivers h'.drivers).trans hdrivers'
  ready := hdrivers ▸ h.ready
  ready' := hdrivers' ▸ h'.ready
  nextId := congrArg Verdict.nextId (h.verdict.trans h'.verdict.symm)
  nextSuffix := congrArg Verdict.nextSuffix (h.verdict.trans h'.verdict.symm)

/-- The same mount comes to the same verdict in two outfits that are alike. -/
theorem Alike.mount {now now' : MountTable × World σ} (h : Alike s s' now now')
    (hstock : s.SameStock s') (hapart : cat.Apart s.drivers) {mount mount' : NodeId × Option String}
    (hmount : SameMount s s' mount mount') :
    ∃ expected,
      MountTable.Settled s.world.graph s.kept s.own now.1 expected
        (now.1.mount now.2 mount.1 mount.2) ∧
      MountTable.Settled s'.world.graph s'.kept s'.own now'.1 expected
        (now'.1.mount now'.2 mount'.1 mount'.2) := by
  obtain ⟨hdevice, hdevice', hsame, hname⟩ := hmount
  have hready := h.ready
  have hready' := h.ready'
  rw [← h.drivers] at hready
  rw [← h.drivers'] at hready'
  have hsettled := MountTable.mount_steady s.describes hready hdevice mount.2
  have hsettled' := MountTable.mount_steady s'.describes hready' hdevice' mount'.2
  rw [h.drivers, hsame, hname, h.nextId, h.nextSuffix,
    Catalogue.mount_perm hstock.drivers hapart] at hsettled
  rw [h.drivers'] at hsettled'
  exact ⟨_, hname ▸ hsettled, hsettled'⟩

theorem Alike.mountAll {now now' : MountTable × World σ} (h : Alike s s' now now')
    (hstock : s.SameStock s') (hapart : cat.Apart s.drivers)
    {mounts mounts' : List (NodeId × Option String)}
    (hmounts : List.Forall₂ (SameMount s s') mounts mounts') :
    Alike s s' (now.1.mountAll now.2 mounts) (now'.1.mountAll now'.2 mounts') := by
  induction hmounts generalizing now now' with
  | nil => exact h
  | cons hmount _ ih =>
      obtain ⟨_, hsettled, hsettled'⟩ := h.mount hstock hapart hmount
      exact ih (.of_settled h.drivers h.drivers' hsettled hsettled')

/-- **The order of registration makes no difference.**  Two managers whose `/dev` was filled with
the same devices, and that have the same drivers, no two of which recognise the same device, boot
with the same outcome: the same error, or a volume of the same format, name and id, built by the
same driver from the same device at the same line of `/dev`.  Each mount that follows has the same
outcome on both sides, after the same mounts.

Whatever else the managers have mounted makes no difference as long as the next id, the next
made-up name and the system volume, if there is one, are the same. -/
theorem outcomes_regardless_of_order (hstock : s.SameStock s') (hapart : cat.Apart s.drivers)
    {limit limit' : Nat} (hsize : s.devices.length + 2 < UInt64.size)
    (hlimit : s.devices.length + 2 < limit) (hlimit' : s.devices.length + 2 < limit') :
    ∃ result result', (s.boot limit).1 = some result ∧ (s'.boot limit').1 = some result' ∧
      MountTable.verdict (result, (s.boot limit).2) =
        MountTable.verdict (result', (s'.boot limit').2) ∧
      (s.table.system = none → ∀ v v', result = .ok v → result' = .ok v' →
        ∃ line device device' driver, s.see device = s'.see device' ∧
          s.BootedFrom limit line device driver v ∧
          s'.BootedFrom limit' line device' driver v') ∧
      ∀ mounts mounts', List.Forall₂ (SameMount s s') mounts mounts' →
        ∀ mount mount', SameMount s s' mount mount' →
          ∀ now now', now = (s.boot limit).2.1.mountAll (s.boot limit).2.2 mounts →
            now' = (s'.boot limit').2.1.mountAll (s'.boot limit').2.2 mounts' →
            MountTable.verdict (now.1.mount now.2 mount.1 mount.2) =
              MountTable.verdict (now'.1.mount now'.2 mount'.1 mount'.2) := by
  obtain ⟨result, result', _, hboot, hboot', hsettled, hsettled', hfrom⟩ :=
    boot_alike hstock hapart hsize hlimit hlimit'
  refine ⟨result, result', hboot, hboot', hsettled.verdict.trans hsettled'.verdict.symm, hfrom, ?_⟩
  rintro mounts mounts' hmounts mount mount' hmount now now' rfl rfl
  have hbooted : Alike s s' (s.boot limit).2 (s'.boot limit').2 :=
    .of_settled rfl rfl hsettled hsettled'
  obtain ⟨_, hmounted, hmounted'⟩ :=
    (hbooted.mountAll hstock hapart hmounts).mount hstock hapart hmount
  exact hmounted.verdict.trans hmounted'.verdict.symm

end Outfit

/-! ### Two devices and two drivers, each registered in either order -/

/-- A device has other bytes than those that it has. -/
theorem IdentifyRule.magic_inj {g : Graph} {device : NodeId} {offset probe : Nat}
    {bytes bytes' : List UInt8} (hlength : bytes.length = bytes'.length)
    (h : (IdentifyRule.magic bytes offset).answer g device probe = true)
    (h' : (IdentifyRule.magic bytes' offset).answer g device probe = true) : bytes = bytes' := by
  rw [answer] at h h'
  rw [← hlength] at h'
  split at h
  next count buffer hread =>
    rw [hread] at h'
    simp only [Bool.and_eq_true, beq_iff_eq] at h h'
    rw [← h.2, h'.2]
  next => cases h

namespace OrderExample

open BootExample (script builds steady_on)

def base : Graph := (Graph.empty.push (.newImage "a" [1])).push (.newImage "b" [2])

/-- A root whose `/dev` was made with the devices `a` and `b`. -/
def graph : Graph :=
  (DeviceDir.createWith base [⟨0⟩, ⟨1⟩]).2.push
    { name := "/", content := .directory (Directory.empty.insert "dev" ⟨2⟩) }

def world : World ScriptedDriver where
  graph := graph
  drivers := (Store.empty.push (script ⟨0⟩)).push (script ⟨1⟩)

def broken : DriverHandle := ⟨"broken", ⟨0⟩⟩

def fat : DriverHandle := ⟨"fat", ⟨1⟩⟩

def catalogue : Catalogue NodeId where
  name := graph.name
  isDevice := graph.isDevice
  recognises cell device := (script cell).identify.answer graph device 0
  builds := builds

theorem ready {drivers : List DriverHandle} (h : drivers.Perm [broken, fat]) :
    world.Ready drivers (graph.Agree fun n => n.index < 5)
      (fun cell d => ∃ probes, d = { script cell with probes }) where
  houses := by
    intro driver hmem state hstate
    rcases List.mem_cons.1 (h.mem_iff.1 hmem) with rfl | hmem
    · obtain rfl := Option.some.inj hstate
      exact ⟨0, rfl⟩
    · obtain rfl := List.mem_singleton.1 hmem
      obtain rfl := Option.some.inj hstate
      exact ⟨0, rfl⟩
  staffed := by
    intro driver hmem
    rcases List.mem_cons.1 (h.mem_iff.1 hmem) with rfl | hmem
    · rfl
    · obtain rfl := List.mem_singleton.1 hmem
      rfl
  fit _ _ := rfl

/-- The devices and the drivers are registered in the order of the alphabet. -/
def first : Outfit catalogue ScriptedDriver where
  see := id
  kept n := n.index < 5
  own cell d := ∃ probes, d = { script cell with probes }
  before := base
  devices := [⟨0⟩, ⟨1⟩]
  dev := ⟨2⟩
  table := .create ⟨5⟩ ⟨[broken, fat]⟩
  world := world
  filled := ⟨_, rfl, rfl, by decide⟩
  reached := rfl
  kept_dev := by decide
  kept_devices := by decide
  describes := ⟨fun _ _ => rfl, steady_on graph _⟩
  ready := ready (.refl _)

/-- Entered in the other order, the devices make the same directory. -/
theorem devices_swapped : graph.directory? ⟨2⟩ =
    (DeviceDir.createWith base [⟨1⟩, ⟨0⟩]).2.directory? ⟨2⟩ := by
  have hentries : (graph.directory? ⟨2⟩).map Directory.entries =
      ((DeviceDir.createWith base [⟨1⟩, ⟨0⟩]).2.directory? ⟨2⟩).map Directory.entries := by decide
  exact Option.map_inj_right (fun _ _ => Directory.ext_entries) |>.1 hentries

/-- Both the other way around. -/
def second : Outfit catalogue ScriptedDriver :=
  { first with
    devices := [⟨1⟩, ⟨0⟩]
    table := .create ⟨5⟩ ⟨[fat, broken]⟩
    filled := ⟨_, rfl, devices_swapped, by decide⟩
    kept_devices := show ∀ n ∈ DeviceDir.builtIn base ++ [⟨1⟩, ⟨0⟩], n.index < 5 by decide
    ready := ready (.swap ..) }

theorem apart : catalogue.Apart first.drivers := by
  have hmagic : ∀ device, catalogue.recognises broken.cell device = true →
      catalogue.recognises fat.cell device = true → False := by
    intro device hbroken hfat
    replace hbroken : (IdentifyRule.magic [1] 0).answer graph device 0 = true := hbroken
    have hbytes : ([1] : List UInt8) = [2] := IdentifyRule.magic_inj rfl hbroken hfat
    exact absurd hbytes (by decide)
  intro device d hd d' hd' h h'
  rcases List.mem_cons.1 hd with rfl | hd <;> rcases List.mem_cons.1 hd' with rfl | hd'
  · rfl
  · obtain rfl := List.mem_singleton.1 hd'
    exact (hmagic device h h').elim
  · obtain rfl := List.mem_singleton.1 hd
    exact (hmagic device h' h).elim
  · rw [List.mem_singleton.1 hd, List.mem_singleton.1 hd']

theorem sameStock : first.SameStock second where
  builtIn := rfl
  devices := by decide
  drivers := by decide
  nextId := rfl
  nextSuffix := rfl
  system := rfl

/-- Both boot from `b`, and then mount it once more under a made-up name. -/
theorem swapped_order_boots_alike :
    first.SameStock second ∧ catalogue.Apart first.drivers ∧
      ∃ v v', (first.boot 5).1 = some (.ok v) ∧ (second.boot 5).1 = some (.ok v') ∧
        (∃ line device driver, first.BootedFrom 5 line device driver v ∧
          second.BootedFrom 5 line device driver v') ∧
        MountTable.verdict ((first.boot 5).2.1.mount (first.boot 5).2.2 ⟨1⟩ none) =
          MountTable.verdict ((second.boot 5).2.1.mount (second.boot 5).2.2 ⟨1⟩ none) := by
  have hsystem : first.table.system = none := rfl
  have hlimit : first.devices.length + 2 < 5 := by decide
  obtain ⟨result, result', hboot, hboot', _, hfrom, hmounts⟩ :=
    Outfit.outcomes_regardless_of_order sameStock apart (by decide) hlimit hlimit
  have hv : (first.boot 5).1 = some (.ok ⟨.treeless "fat" systemName, ⟨0⟩⟩) := rfl
  have hv' : (second.boot 5).1 = some (.ok ⟨.treeless "fat" systemName, ⟨0⟩⟩) := rfl
  obtain rfl := Option.some.inj (hboot.symm.trans hv)
  obtain rfl := Option.some.inj (hboot'.symm.trans hv')
  obtain ⟨line, device, device', driver, hsame, hbooted, hbooted'⟩ := hfrom hsystem _ _ rfl rfl
  obtain rfl : device = device' := hsame
  refine ⟨sameStock, apart, _, _, hv, hv', ⟨line, device, driver, hbooted, hbooted'⟩, ?_⟩
  have hkept : (1 : Nat) < 5 := by decide
  exact hmounts [] [] .nil (⟨1⟩, none) (⟨1⟩, none) ⟨hkept, hkept, rfl, rfl⟩ _ _ rfl rfl

end OrderExample

end VolumeService
