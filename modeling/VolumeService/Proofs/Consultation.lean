import VolumeService.MountTable.Boot

/-! # Consulting drivers

Much of what the service does changes nothing of its own: it asks drivers and reports to the
log.  `World.Consults ds w w'` says that `w'` came from `w` by nothing else, with all drivers
asked taken from `ds`.

* **What stays** (`Consults.cells`, `Consults.log`).  Whatever the drivers do, no shared volume
  is made, changed or numbered, and the configuration of the log stays.
* **One device at a time.** A consultation about one device is a *probe* (`World.Probes`); one that
  goes through devices which are there when their turn comes is a *survey* (`World.Surveys`).
* **Graphs grow.** `g.Extends g'` says that all nodes of `g` are in `g'` as they were;
  `g.Continues g'` says the same of all nodes ever made, those that are gone included.
* **Confined drivers** (`DriverModel.Confined own`).  A driver whose state is in `own` answers as
  it likes and may change its mind, but touches nothing beyond its own state and nodes that it
  makes.  Consulting confined drivers lets the graph grow and no more (`Consults.extends`).  What
  holds of each call of drivers holds of consulting them (`Consults.keeps`). -/

namespace VolumeService

/-! ### Graphs that grow -/

namespace Graph

/-- All nodes of `g` are in `g'` as they were. -/
def Extends (g g' : Graph) : Prop := ∀ n, g.has n = true → g'.node? n = g.node? n

theorem Extends.refl (g : Graph) : g.Extends g := fun _ _ => rfl

theorem Extends.has {g g' : Graph} (h : g.Extends g') {n : NodeId} (hn : g.has n = true) :
    g'.has n = true := by
  rw [Graph.has, h n hn]
  exact hn

theorem Extends.trans {g₁ g₂ g₃ : Graph} (h₁ : g₁.Extends g₂) (h₂ : g₂.Extends g₃) :
    g₁.Extends g₃ := by
  intro n hn
  rw [h₂ n (h₁.has hn), h₁ n hn]

theorem Extends.link? {g g' : Graph} (h : g.Extends g') {n : NodeId} (hn : g.has n = true) :
    g'.link? n = g.link? n := by
  rw [Graph.link?, h n hn, Graph.link?]

/-- The identity has been given to a node, which may be gone by now. -/
def Issued (g : Graph) (n : NodeId) : Prop := n.index < g.nodes.next

theorem Issued.of_has {g : Graph} {n : NodeId} (h : g.has n = true) : g.Issued n := by
  obtain ⟨node, hnode⟩ := Option.isSome_iff_exists.1 h
  exact Store.lt_next_of_get?_eq_some hnode

theorem has_of_isDevice {g : Graph} {n : NodeId} (h : g.isDevice n = true) :
    g.has n = true := by
  rw [isDevice, kind, decide_eq_true_iff] at h
  rw [has]
  cases hn : g.node? n with
  | none =>
      rw [hn] at h
      cases h
  | some node => rfl

theorem not_issued_fresh (g : Graph) : ¬ g.Issued g.fresh := Nat.lt_irrefl _

/-- All nodes that were ever made in `g` are in `g'` as they are in `g`. -/
structure Continues (g g' : Graph) : Prop where
  next : g.nodes.next ≤ g'.nodes.next
  same : ∀ n, g.Issued n → g'.node? n = g.node? n

namespace Continues

variable {g₁ g₂ g₃ : Graph}

theorem refl (g : Graph) : g.Continues g := ⟨Nat.le_refl _, fun _ _ => rfl⟩

theorem issued (h : g₁.Continues g₂) {n : NodeId} (hn : g₁.Issued n) : g₂.Issued n :=
  Nat.lt_of_lt_of_le hn h.next

theorem trans (h₁ : g₁.Continues g₂) (h₂ : g₂.Continues g₃) : g₁.Continues g₃ where
  next := Nat.le_trans h₁.next h₂.next
  same n hn := (h₂.same n (h₁.issued hn)).trans (h₁.same n hn)

theorem not_issued_fresh (h : g₁.Continues g₂) : ¬ g₁.Issued g₂.fresh := fun hn =>
  Graph.not_issued_fresh g₂ (h.issued hn)

theorem push (h : g₁.Continues g₂) (node : Node) : g₁.Continues (g₂.push node) where
  next := Nat.le_trans h.next (by simp [Graph.push])
  same n hn := by
    have hne : n ≠ g₂.fresh := by
      rintro rfl
      exact h.not_issued_fresh hn
    rw [node?_push, if_neg hne, h.same n hn]

/-- Nodes that were not made in `g₁` can change without `g₁` noticing. -/
theorem modify (h : g₁.Continues g₂) {n : NodeId} (hn : ¬ g₁.Issued n) (f : Node → Node) :
    g₁.Continues (g₂.modify n f) where
  next := Nat.le_trans h.next (Nat.le_of_eq (Store.next_modify ..).symm)
  same m hm := by
    have hne : n ≠ m := by
      rintro rfl
      exact hn hm
    rw [node?_modify, if_neg hne, h.same m hm]

end Continues

theorem Continues.extends {g g' : Graph} (h : g.Continues g') : g.Extends g' :=
  fun n hn => h.same n (.of_has hn)

end Graph

/-! ### Consultations -/

variable {σ : Type} [DriverModel σ]

namespace World

@[simp] theorem cells_identify (w : World σ) (driver : DriverHandle) (device : NodeId) :
    (w.identify driver device).2.cells = w.cells := by
  unfold identify
  split <;> rfl

@[simp] theorem log_identify (w : World σ) (driver : DriverHandle) (device : NodeId) :
    (w.identify driver device).2.log = w.log := by
  unfold identify
  split <;> rfl

@[simp] theorem cells_mountVia (w : World σ) (driver : DriverHandle) (device : NodeId)
    (name : String) : (w.mountVia driver device name).2.cells = w.cells := by
  unfold mountVia
  split <;> rfl

@[simp] theorem log_mountVia (w : World σ) (driver : DriverHandle) (device : NodeId)
    (name : String) : (w.mountVia driver device name).2.log = w.log := by
  unfold mountVia
  split <;> rfl

/-- From `w` to `w'` nothing happened but calls of drivers from `ds` and reports to the log. -/
inductive Consults (ds : List DriverHandle) (w : World σ) : World σ → Prop where
  | refl : Consults ds w w
  | identify {w' : World σ} {driver : DriverHandle} (h : Consults ds w w')
      (hdriver : driver ∈ ds) (device : NodeId) : Consults ds w (w'.identify driver device).2
  | mount {w' : World σ} {driver : DriverHandle} (h : Consults ds w w') (hdriver : driver ∈ ds)
      (device : NodeId) (name : String) : Consults ds w (w'.mountVia driver device name).2
  | notify {w' : World σ} (h : Consults ds w w') (notice : Notice) :
      Consults ds w (w'.notify notice)

namespace Consults

variable {ds : List DriverHandle} {w w' w'' : World σ}

theorem trans (h₁ : Consults ds w w') (h₂ : Consults ds w' w'') : Consults ds w w'' := by
  induction h₂ with
  | refl => exact h₁
  | identify _ hdriver device ih => exact ih.identify hdriver device
  | mount _ hdriver device name ih => exact ih.mount hdriver device name
  | notify _ notice ih => exact ih.notify notice

theorem cells (h : Consults ds w w') : w'.cells = w.cells := by
  induction h with
  | refl => rfl
  | identify _ _ device ih => rw [cells_identify, ih]
  | mount _ _ device name ih => rw [cells_mountVia, ih]
  | notify _ notice ih => rw [cells_notify, ih]

theorem log (h : Consults ds w w') : w'.log = w.log := by
  induction h with
  | refl => rfl
  | identify _ _ device ih => rw [log_identify, ih]
  | mount _ _ device name ih => rw [log_mountVia, ih]
  | notify _ notice ih => rw [log_notify, ih]

theorem idOf (h : Consults ds w w') (v : VolumeHandle) : w'.idOf v = w.idOf v := by
  rw [World.idOf, cell?, h.cells, World.idOf, cell?]

end Consults

/-! ### Probes and surveys -/

/-- From `w` to `w'` nothing happened but calls of drivers from `ds` about one device and reports
to the log. -/
inductive Probes (ds : List DriverHandle) (device : NodeId) (w : World σ) : World σ → Prop where
  | refl : Probes ds device w w
  | identify {w' : World σ} {driver : DriverHandle} (h : Probes ds device w w')
      (hdriver : driver ∈ ds) : Probes ds device w (w'.identify driver device).2
  | mount {w' : World σ} {driver : DriverHandle} (h : Probes ds device w w')
      (hdriver : driver ∈ ds) (name : String) :
      Probes ds device w (w'.mountVia driver device name).2
  | notify {w' : World σ} (h : Probes ds device w w') (notice : Notice) :
      Probes ds device w (w'.notify notice)

namespace Probes

variable {ds : List DriverHandle} {device : NodeId} {w w' w'' : World σ}

theorem trans (h₁ : Probes ds device w w') (h₂ : Probes ds device w' w'') :
    Probes ds device w w'' := by
  induction h₂ with
  | refl => exact h₁
  | identify _ hdriver ih => exact ih.identify hdriver
  | mount _ hdriver name ih => exact ih.mount hdriver name
  | notify _ notice ih => exact ih.notify notice

theorem consults (h : Probes ds device w w') : Consults ds w w' := by
  induction h with
  | refl => exact .refl
  | identify _ hdriver ih => exact ih.identify hdriver device
  | mount _ hdriver name ih => exact ih.mount hdriver device name
  | notify _ notice ih => exact ih.notify notice

/-- Asking some of the drivers in order is a probe. -/
theorem identifyFirst {drivers : List DriverHandle} (hds : ∀ driver ∈ drivers, driver ∈ ds)
    (h : Probes ds device w w') : Probes ds device w (w'.identifyFirst device drivers).2 := by
  induction drivers generalizing w' with
  | nil => exact h
  | cons driver rest ih =>
      have hcall := h.identify (hds driver (List.mem_cons_self ..))
      rw [World.identifyFirst]
      split
      next he =>
        rw [he] at hcall
        exact hcall
      next he =>
        rw [he] at hcall
        exact ih (fun d hmem => hds d (List.mem_cons_of_mem _ hmem)) hcall

end Probes

/-- Asking drivers for the first that recognises a device is probing the device. -/
theorem probes_identifyFirst (w : World σ) (device : NodeId) (ds : List DriverHandle) :
    w.Probes ds device (w.identifyFirst device ds).2 :=
  Probes.refl.identifyFirst fun _ hmem => hmem

theorem consults_identifyFirst (w : World σ) (device : NodeId) (ds : List DriverHandle) :
    w.Consults ds (w.identifyFirst device ds).2 := (w.probes_identifyFirst device ds).consults

/-- From `w` to `w'` nothing happened but probes of devices, each there when its turn came, and
reports to the log. -/
inductive Surveys (ds : List DriverHandle) (w : World σ) : World σ → Prop where
  | refl : Surveys ds w w
  | probe {w₁ w₂ : World σ} {device : NodeId} (h : Surveys ds w w₁)
      (hdevice : w₁.graph.has device = true) (hprobes : w₁.Probes ds device w₂) : Surveys ds w w₂
  | notify {w' : World σ} (h : Surveys ds w w') (notice : Notice) : Surveys ds w (w'.notify notice)

namespace Surveys

variable {ds : List DriverHandle} {w w' w'' : World σ}

theorem trans (h₁ : Surveys ds w w') (h₂ : Surveys ds w' w'') : Surveys ds w w'' := by
  induction h₂ with
  | refl => exact h₁
  | probe _ hdevice hprobes ih => exact ih.probe hdevice hprobes
  | notify _ notice ih => exact ih.notify notice

theorem consults (h : Surveys ds w w') : Consults ds w w' := by
  induction h with
  | refl => exact .refl
  | probe _ _ hprobes ih => exact ih.trans hprobes.consults
  | notify _ notice ih => exact ih.notify notice

end Surveys

/-- A driver of a list built a volume from a device under a name. -/
def Builds (w : World σ) (ds : List DriverHandle) (device : NodeId) (name : String)
    (volume : Volume) (w' : World σ) : Prop :=
  ∃ driver ∈ ds, w.mountVia driver device name = (.ok volume, w')

theorem Builds.probes {w w₁ w₂ : World σ} {ds : List DriverHandle} {device : NodeId}
    {name : String} {volume : Volume} (h : w₁.Builds ds device name volume w₂)
    (hw : w.Probes ds device w₁) : w.Probes ds device w₂ := by
  obtain ⟨driver, hdriver, hcall⟩ := h
  have hprobes := hw.mount hdriver name
  rwa [hcall] at hprobes

theorem identifyFirst_of_true {w : World σ} {device : NodeId} {driver : DriverHandle}
    (h : (w.identify driver device).1 = true) (rest : List DriverHandle) :
    w.identifyFirst device (driver :: rest) = (some driver, (w.identify driver device).2) := by
  rw [identifyFirst]
  split
  next he => rw [he]
  next he =>
    rw [he] at h
    cases h

theorem identifyFirst_of_false {w : World σ} {device : NodeId} {driver : DriverHandle}
    (h : (w.identify driver device).1 = false) (rest : List DriverHandle) :
    w.identifyFirst device (driver :: rest) =
      (w.identify driver device).2.identifyFirst device rest := by
  rw [identifyFirst]
  split
  next he =>
    rw [he] at h
    cases h
  next he => rw [he]

/-- The driver that a search answers with is one of those searched. -/
theorem mem_of_identifyFirst {w : World σ} {device : NodeId} {drivers : List DriverHandle}
    {driver : DriverHandle} (h : (w.identifyFirst device drivers).1 = some driver) :
    driver ∈ drivers := by
  induction drivers generalizing w with
  | nil => cases h
  | cons first rest ih =>
      rw [identifyFirst] at h
      split at h
      · obtain rfl := Option.some.inj h
        exact List.mem_cons_self ..
      · exact List.mem_cons_of_mem _ (ih h)

end World

/-! ### What holds of each call -/

/-- The calls of a driver in a state of `own` leave it in a state of `own` and lead from graphs to
graphs related to them. -/
structure DriverModel.Keeps (related : Graph → Graph → Prop) (own : CellId → σ → Prop) : Prop where
  identify : ∀ {cell : CellId} {state : σ} (g : Graph) (device : NodeId), own cell state →
    own cell (DriverModel.identify state g device).2.1 ∧
      related g (DriverModel.identify state g device).2.2
  mount : ∀ {cell : CellId} {state : σ} (g : Graph) (device : NodeId) (name : String),
    own cell state →
      own cell (DriverModel.mount state g device name).2.1 ∧
        related g (DriverModel.mount state g device name).2.2

/-! ### Confined drivers -/

/-- A driver in a state of `own` leaves everything as it is but its own state, and may add
nodes; its states stay in `own`. -/
structure DriverModel.Confined (own : CellId → σ → Prop) : Prop where
  identify : ∀ {cell : CellId} {state : σ} (g : Graph) (device : NodeId), own cell state →
    own cell (DriverModel.identify state g device).2.1 ∧
      g.Extends (DriverModel.identify state g device).2.2
  mount : ∀ {cell : CellId} {state : σ} (g : Graph) (device : NodeId) (name : String),
    own cell state →
      own cell (DriverModel.mount state g device name).2.1 ∧
        g.Extends (DriverModel.mount state g device name).2.2

theorem DriverModel.Confined.keeps {own : CellId → σ → Prop} (h : DriverModel.Confined own) :
    DriverModel.Keeps Graph.Extends own := ⟨h.identify, h.mount⟩

/-- Drivers that leave all that was ever made as it is are confined. -/
theorem DriverModel.Keeps.confined {own : CellId → σ → Prop}
    (h : DriverModel.Keeps Graph.Continues own) : DriverModel.Confined own where
  identify g device hown := (h.identify g device hown).imp_right Graph.Continues.extends
  mount g device name hown := (h.mount g device name hown).imp_right Graph.Continues.extends

namespace World

/-- The drivers of a list are in states of `own`. -/
def Houses (w : World σ) (ds : List DriverHandle) (own : CellId → σ → Prop) : Prop :=
  ∀ driver ∈ ds, ∀ state, w.drivers.get? driver.cell.index = some state → own driver.cell state

variable {ds : List DriverHandle} {own : CellId → σ → Prop} {w w' : World σ}

omit [DriverModel σ] in
/-- A driver that moves on within `own` leaves all drivers in states of `own`. -/
theorem Houses.modify (h : w.Houses ds own) {cell : CellId} {next : σ} (hnext : own cell next)
    (hdrivers : w'.drivers = w.drivers.modify cell.index fun _ => next) : w'.Houses ds own := by
  intro driver hmem state hstate
  rw [hdrivers, Store.get?_modify] at hstate
  split at hstate
  next he =>
    obtain ⟨_, _, rfl⟩ := Option.map_eq_some_iff.1 hstate
    have hcell : driver.cell = cell := by
      obtain ⟨_, i⟩ := driver
      obtain ⟨i⟩ := i
      obtain ⟨j⟩ := cell
      exact congrArg CellId.mk he.symm
    rw [hcell]
    exact hnext
  next => exact h driver hmem state hstate

/-- The drivers of a list are all there, in states of `own`, and the graph is `fit`. -/
structure Ready (w : World σ) (ds : List DriverHandle) (fit : Graph → Prop)
    (own : CellId → σ → Prop) : Prop where
  houses : w.Houses ds own
  staffed : ∀ driver ∈ ds, w.drivers.has driver.cell.index = true
  fit : fit w.graph

section Ready

variable {fit : Graph → Prop}

omit [DriverModel σ] in
/-- A driver of the list has a state, and that is in `own`. -/
theorem Ready.exists_state (h : w.Ready ds fit own) {driver : DriverHandle}
    (hdriver : driver ∈ ds) :
    ∃ state, w.drivers.get? driver.cell.index = some state ∧ own driver.cell state := by
  obtain ⟨state, hstate⟩ := Option.isSome_iff_exists.1 (h.staffed driver hdriver)
  exact ⟨state, hstate, h.houses driver hdriver state hstate⟩

omit [DriverModel σ] in
/-- A driver that moves on within `own` and leaves a `fit` graph leaves all ready. -/
theorem Ready.moved (h : w.Ready ds fit own) {cell : CellId} {next : σ} (hnext : own cell next)
    (hdrivers : w'.drivers = w.drivers.modify cell.index fun _ => next) (hgraph : fit w'.graph) :
    w'.Ready ds fit own where
  houses := h.houses.modify hnext hdrivers
  staffed driver hdriver := by
    rw [hdrivers, Store.has_modify]
    exact h.staffed driver hdriver
  fit := hgraph

omit [DriverModel σ] in
/-- What touches no driver and leaves a `fit` graph leaves all ready. -/
theorem Ready.of_drivers_eq (h : w.Ready ds fit own) (hdrivers : w'.drivers = w.drivers)
    (hgraph : fit w'.graph) : w'.Ready ds fit own where
  houses driver hdriver := by
    rw [hdrivers]
    exact h.houses driver hdriver
  staffed driver hdriver := by
    rw [hdrivers]
    exact h.staffed driver hdriver
  fit := hgraph

/-- A call that every state in `own` answers properly leaves all ready. -/
theorem Ready.identify {P : Bool → Prop} (h : w.Ready ds fit own) {driver : DriverHandle}
    (hdriver : driver ∈ ds) (device : NodeId)
    (hcall : ∀ state, own driver.cell state →
      own driver.cell (DriverModel.identify state w.graph device).2.1 ∧
      fit (DriverModel.identify state w.graph device).2.2 ∧
      P (DriverModel.identify state w.graph device).1) :
    (w.identify driver device).2.Ready ds fit own ∧ P (w.identify driver device).1 := by
  obtain ⟨state, hstate, hown⟩ := h.exists_state hdriver
  obtain ⟨hnext, hgraph, hanswer⟩ := hcall state hown
  unfold World.identify
  rw [hstate]
  exact ⟨h.moved hnext rfl hgraph, hanswer⟩

theorem Ready.mountVia {P : Except NodeError Volume → Prop} (h : w.Ready ds fit own)
    {driver : DriverHandle} (hdriver : driver ∈ ds) (device : NodeId) (name : String)
    (hcall : ∀ state, own driver.cell state →
      own driver.cell (DriverModel.mount state w.graph device name).2.1 ∧
      fit (DriverModel.mount state w.graph device name).2.2 ∧
      P (DriverModel.mount state w.graph device name).1) :
    (w.mountVia driver device name).2.Ready ds fit own ∧
      P (w.mountVia driver device name).1 := by
  obtain ⟨state, hstate, hown⟩ := h.exists_state hdriver
  obtain ⟨hnext, hgraph, hanswer⟩ := hcall state hown
  unfold World.mountVia
  rw [hstate]
  exact ⟨h.moved hnext rfl hgraph, hanswer⟩

end Ready

/-- What relates the graphs before and after each call of drivers relates those before and after
consulting them. -/
theorem Consults.keeps {related : Graph → Graph → Prop} (hrefl : ∀ g, related g g)
    (htrans : ∀ {g₁ g₂ g₃}, related g₁ g₂ → related g₂ g₃ → related g₁ g₃)
    (hown : DriverModel.Keeps related own) (hw : w.Houses ds own) (h : Consults ds w w') :
    w'.Houses ds own ∧ related w.graph w'.graph := by
  induction h with
  | refl => exact ⟨hw, hrefl _⟩
  | @identify w₁ driver _ hdriver device ih =>
      obtain ⟨hhoused, hgraph⟩ := ih
      unfold World.identify
      split
      next => exact ⟨hhoused, hgraph⟩
      next state hstate =>
        obtain ⟨hnext, hg⟩ :=
          hown.identify w₁.graph device (hhoused driver hdriver state hstate)
        exact ⟨hhoused.modify hnext rfl, htrans hgraph hg⟩
  | @mount w₁ driver _ hdriver device name ih =>
      obtain ⟨hhoused, hgraph⟩ := ih
      unfold World.mountVia
      split
      next => exact ⟨hhoused, hgraph⟩
      next state hstate =>
        obtain ⟨hnext, hg⟩ :=
          hown.mount w₁.graph device name (hhoused driver hdriver state hstate)
        exact ⟨hhoused.modify hnext rfl, htrans hgraph hg⟩
  | notify _ notice ih => exact ih

/-- Consulting confined drivers leaves them confined and lets the graph grow. -/
theorem Consults.extends (hown : DriverModel.Confined own) (hw : w.Houses ds own)
    (h : Consults ds w w') : w'.Houses ds own ∧ w.graph.Extends w'.graph :=
  h.keeps Graph.Extends.refl Graph.Extends.trans hown.keeps hw

end World

end VolumeService
