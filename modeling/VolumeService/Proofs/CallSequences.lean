import VolumeService.Proofs.MountOutcome
import VolumeService.Session.Run

/-! # Sequences of driver calls

`w.Calls ds calls w'` says that `w'` came from `w` by the listed calls of drivers from `ds`, in this
order and with these answers, and that no driver was called otherwise.

* **Calls** (`Call`) name driver and device by identity, where a trace has names only.
* **Between calls** the world may change in every way that no driver notices (`World.Idle`): reports
  to the log, registrations.
* **Stable graphs** (`Graph.Stable`).  A node keeps the name and the kind that it was made with.
  Drivers may change directories and links and add nodes, but no node becomes another.
* **What the trace shows** (`Calls.seen`).  With all drivers in place, the trace gets one event for
  each listed call, and no others. -/

namespace VolumeService

open Session (driverCalls driverCalls_append)

/-! ### Nodes that stay what they are -/

namespace Graph

/-- All nodes of `g` are in `g'`, under the same names and of the same kinds. -/
def Stable (g g' : Graph) : Prop :=
  ∀ n, g.has n = true → g'.has n = true ∧ g'.name n = g.name n ∧ g'.kind n = g.kind n

namespace Stable

variable {g g₁ g₂ g₃ : Graph} {n : NodeId}

theorem refl (g : Graph) : g.Stable g := fun _ hn => ⟨hn, rfl, rfl⟩

theorem trans (h₁ : g₁.Stable g₂) (h₂ : g₂.Stable g₃) : g₁.Stable g₃ := by
  intro n hn
  obtain ⟨hn₂, hname₂, hkind₂⟩ := h₁ n hn
  obtain ⟨hn₃, hname₃, hkind₃⟩ := h₂ n hn₂
  exact ⟨hn₃, hname₃.trans hname₂, hkind₃.trans hkind₂⟩

theorem has (h : g₁.Stable g₂) (hn : g₁.has n = true) : g₂.has n = true := (h n hn).1

theorem isDevice (h : g₁.Stable g₂) (hn : g₁.isDevice n = true) : g₂.isDevice n = true := by
  have hkind := (h n (has_of_isDevice hn)).2.2
  rwa [Graph.isDevice, hkind]

theorem of_extends (h : g₁.Extends g₂) : g₁.Stable g₂ := by
  intro n hn
  refine ⟨h.has hn, ?_, ?_⟩
  · rw [Graph.name, h n hn, Graph.name]
  · rw [Graph.kind, h n hn, Graph.kind]

theorem of_reparent (g : Graph) (n parent : NodeId) : g.Stable (g.reparent n parent) := by
  intro m hm
  refine ⟨?_, name_reparent .., ?_⟩
  · rw [Graph.reparent, has_modify, hm]
  · rw [kind_eq, content?_reparent, ← kind_eq]

end Stable

end Graph

/-- Drivers that leave all nodes as they are leave them under their names and of their kinds. -/
theorem DriverModel.Confined.keeps_stable {σ : Type} [DriverModel σ] {own : CellId → σ → Prop}
    (h : DriverModel.Confined own) : DriverModel.Keeps Graph.Stable own where
  identify g device hown := (h.identify g device hown).imp_right .of_extends
  mount g device name hown := (h.mount g device name hown).imp_right .of_extends

variable {σ : Type}

/-! ### Calls -/

/-- A call of a driver about a device, with the answer if it was a question. -/
inductive Call where
  | identify (driver : DriverHandle) (device : NodeId) (answer : Bool)
  | mount (driver : DriverHandle) (device : NodeId) (name : String)
deriving DecidableEq, Repr

namespace Call

/-- The device that a call is about. -/
def device : Call → NodeId
  | identify _ device _ => device
  | mount _ device _ => device

/-- What a trace shows of a call. -/
def event (g : Graph) : Call → Event
  | identify driver device answer => .identify driver.name (g.name device) answer
  | mount driver device name => .mount driver.name (g.name device) name

theorem event_eq_of_stable {g g' : Graph} (h : g.Stable g') {call : Call}
    (hdevice : g.has call.device = true) : call.event g' = call.event g := by
  have hname := (h _ hdevice).2.1
  cases call with
  | identify driver device answer => exact congrArg (Event.identify driver.name · answer) hname
  | mount driver device name => exact congrArg (Event.mount driver.name · name) hname

end Call

/-- Later, a trace still shows calls under the names that it showed them under. -/
theorem Call.events_of_stable {g g' : Graph} (h : g.Stable g') {calls : List Call}
    (hdevices : ∀ call ∈ calls, g.has call.device = true) :
    calls.map (Call.event g') = calls.map (Call.event g) :=
  List.map_congr_left fun call hcall => event_eq_of_stable h (hdevices call hcall)

namespace World

/-- From `w` to `w'` no driver was called and none changed its state. -/
structure Idle (w w' : World σ) : Prop where
  drivers : w'.drivers = w.drivers
  calls : driverCalls w'.trace = driverCalls w.trace
  graph : w.graph.Stable w'.graph

theorem idle_notify (w : World σ) (notice : Notice) : w.Idle (w.notify notice) where
  drivers := rfl
  calls := (driverCalls_append ..).trans (List.append_nil _)
  graph := .refl _

theorem Idle.trans {w₁ w₂ w₃ : World σ} (h₁ : w₁.Idle w₂) (h₂ : w₂.Idle w₃) : w₁.Idle w₃ where
  drivers := h₂.drivers.trans h₁.drivers
  calls := h₂.calls.trans h₁.calls
  graph := h₁.graph.trans h₂.graph

/-- A registration calls no driver. -/
theorem idle_afterMount (t : MountTable) (w : World σ) (device : NodeId) (volume : Volume) :
    w.Idle (t.afterMount w device volume).2 := by
  have hregister : w.Idle (t.register w volume).2.2 := by
    unfold MountTable.register linkMountPoint
    cases volume.mountPoint with
    | none => exact ⟨rfl, rfl, .refl _⟩
    | some n => exact ⟨rfl, rfl, .of_reparent _ n t.root⟩
  exact hregister.trans (idle_notify ..)

theorem idle_setSystem (t : MountTable) (w : World σ) (line : String) (v : VolumeHandle) :
    w.Idle (t.setSystem w line v).2 :=
  (idle_notify w (.systemMounted line)).trans ⟨rfl, rfl, .refl _⟩

variable [DriverModel σ]

/-- From `w` to `w'` the drivers of `ds` were called as listed, in this order and with these
answers, and not otherwise. -/
inductive Calls (ds : List DriverHandle) (w : World σ) : List Call → World σ → Prop where
  | refl : Calls ds w [] w
  | identify {calls : List Call} {w' : World σ} {driver : DriverHandle} {device : NodeId}
      (h : Calls ds w calls w') (hdriver : driver ∈ ds) (hdevice : w'.graph.has device = true) :
      Calls ds w (calls ++ [.identify driver device (w'.identify driver device).1])
        (w'.identify driver device).2
  | mount {calls : List Call} {w' : World σ} {driver : DriverHandle} {device : NodeId}
      (h : Calls ds w calls w') (hdriver : driver ∈ ds) (hdevice : w'.graph.has device = true)
      (name : String) :
      Calls ds w (calls ++ [.mount driver device name]) (w'.mountVia driver device name).2
  | idle {calls : List Call} {w' w'' : World σ} (h : Calls ds w calls w') (hidle : w'.Idle w'') :
      Calls ds w calls w''

variable {ds : List DriverHandle} {own : CellId → σ → Prop} {g : Graph} {w w' w'' : World σ}
  {calls more : List Call}

theorem Calls.trans (h₁ : w.Calls ds calls w') (h₂ : w'.Calls ds more w'') :
    w.Calls ds (calls ++ more) w'' := by
  induction h₂ with
  | refl =>
      rw [List.append_nil]
      exact h₁
  | identify _ hdriver hdevice ih =>
      rw [← List.append_assoc]
      exact ih.identify hdriver hdevice
  | mount _ hdriver hdevice name ih =>
      rw [← List.append_assoc]
      exact ih.mount hdriver hdevice name
  | idle _ hidle ih => exact ih.idle hidle

/-- A question to one driver. -/
theorem calls_identify {driver : DriverHandle} (hdriver : driver ∈ ds) {device : NodeId}
    (hdevice : w.graph.has device = true) :
    w.Calls ds [.identify driver device (w.identify driver device).1]
      (w.identify driver device).2 := .identify .refl hdriver hdevice

omit [DriverModel σ] in
/-- One more call about a device that is there, shown as it happens. -/
theorem shown_snoc (call : Call) (hdevices : ∀ other ∈ calls, w'.graph.has other.device = true)
    (hseen : driverCalls w'.trace = driverCalls w.trace ++ calls.map (Call.event w'.graph))
    (hstable : w'.graph.Stable w''.graph) (hdevice : w'.graph.has call.device = true)
    (htrace : driverCalls w''.trace = driverCalls w'.trace ++ [call.event w'.graph]) :
    (∀ other ∈ calls ++ [call], w''.graph.has other.device = true) ∧
      driverCalls w''.trace =
        driverCalls w.trace ++ (calls ++ [call]).map (Call.event w''.graph) := by
  have hall : ∀ other ∈ calls ++ [call], w'.graph.has other.device = true := by
    intro other hother
    rcases List.mem_append.1 hother with hold | hlast
    · exact hdevices other hold
    · rw [List.mem_singleton.1 hlast]
      exact hdevice
  refine ⟨fun other hother => hstable.has (hall other hother), ?_⟩
  rw [htrace, hseen, List.append_assoc, Call.events_of_stable hstable hall, List.map_append]
  rfl

section Stable

variable (hown : DriverModel.Keeps Graph.Stable own)
include hown

/-- A call of a driver leaves all drivers in place and all nodes what they are, and is all that the
trace gets. -/
theorem Ready.identify_stable (h : w.Ready ds g.Stable own) {driver : DriverHandle}
    (hdriver : driver ∈ ds) (device : NodeId) :
    (w.identify driver device).2.Ready ds g.Stable own ∧
      w.graph.Stable (w.identify driver device).2.graph ∧
      driverCalls (w.identify driver device).2.trace = driverCalls w.trace ++
        [.identify driver.name (w.graph.name device) (w.identify driver device).1] := by
  obtain ⟨state, hstate, hstateOwn⟩ := h.exists_state hdriver
  obtain ⟨hnext, hgraph⟩ := hown.identify w.graph device hstateOwn
  unfold World.identify
  rw [hstate]
  exact ⟨h.moved hnext rfl (h.fit.trans hgraph), hgraph, driverCalls_append ..⟩

theorem Ready.mountVia_stable (h : w.Ready ds g.Stable own) {driver : DriverHandle}
    (hdriver : driver ∈ ds) (device : NodeId) (name : String) :
    (w.mountVia driver device name).2.Ready ds g.Stable own ∧
      w.graph.Stable (w.mountVia driver device name).2.graph ∧
      driverCalls (w.mountVia driver device name).2.trace = driverCalls w.trace ++
        [.mount driver.name (w.graph.name device) name] := by
  obtain ⟨state, hstate, hstateOwn⟩ := h.exists_state hdriver
  obtain ⟨hnext, hgraph⟩ := hown.mount w.graph device name hstateOwn
  unfold World.mountVia
  rw [hstate]
  exact ⟨h.moved hnext rfl (h.fit.trans hgraph), hgraph, driverCalls_append ..⟩

theorem Calls.ready (hcalls : w.Calls ds calls w') (h : w.Ready ds g.Stable own) :
    w'.Ready ds g.Stable own := by
  induction hcalls with
  | refl => exact h
  | identify _ hdriver _ ih => exact (ih.identify_stable hown hdriver _).1
  | mount _ hdriver _ name ih => exact (ih.mountVia_stable hown hdriver _ name).1
  | idle _ hidle ih => exact ih.of_drivers_eq hidle.drivers (ih.fit.trans hidle.graph)

theorem Calls.stable (hcalls : w.Calls ds calls w') (h : w.Ready ds g.Stable own) :
    w.graph.Stable w'.graph := by
  have hnow : w.Ready ds w.graph.Stable own := ⟨h.houses, h.staffed, .refl _⟩
  exact (hcalls.ready hown hnow).fit

/-- The trace shows the calls that were made and no others. -/
theorem Calls.seen (hcalls : w.Calls ds calls w') (h : w.Ready ds g.Stable own) :
    (∀ call ∈ calls, w'.graph.has call.device = true) ∧
      driverCalls w'.trace = driverCalls w.trace ++ calls.map (Call.event w'.graph) := by
  induction hcalls with
  | refl => exact ⟨fun call hcall => absurd hcall List.not_mem_nil, (List.append_nil _).symm⟩
  | @identify calls w' driver device hbefore hdriver hdevice ih =>
      obtain ⟨_, hstable, htrace⟩ := (hbefore.ready hown h).identify_stable hown hdriver device
      exact shown_snoc (.identify driver device _) ih.1 ih.2 hstable hdevice htrace
  | @mount calls w' driver device hbefore hdriver hdevice name ih =>
      obtain ⟨_, hstable, htrace⟩ := (hbefore.ready hown h).mountVia_stable hown hdriver device name
      exact shown_snoc (.mount driver device name) ih.1 ih.2 hstable hdevice htrace
  | idle _ hidle ih =>
      refine ⟨fun call hcall => hidle.graph.has (ih.1 call hcall), ?_⟩
      rw [hidle.calls, ih.2, Call.events_of_stable hidle.graph ih.1]

end Stable

end World

end VolumeService
