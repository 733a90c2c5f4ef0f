import VolumeService.Kernel
import VolumeService.Proofs.LogSettings
import VolumeService.Session.Run

/-! # What the log decides

Settings of the log decide which records reach which sink, and nothing that a caller could see or a
driver could notice.

* **One operation** (`Kernel.perform_eq`).  What an operation does is what it does in the kernel
  without a log (`Kernel.unlogged`); its events are appended to the trace, and its records go where
  the settings in force send them.
* **The outline of a run** (`Kernel.outline`) is what its operations do without a log.  Every run of
  these operations has this outline, whatever settings are made before and in between
  (`Kernel.run_outline`).
* **The journal of a run** (`Kernel.journal`) has the records that it emits, each with the settings
  in force.  Sinks receive what these settings let through (`Kernel.delivered_events`).
* Both together: `Kernel.log_decides_delivery_only`. -/

namespace VolumeService

/-- The record of an event that is one. -/
def Event.record? : Event → Option Log.Record
  | record r _ => some r
  | _ => none

/-- The records of a trace in order, wherever they went. -/
def recordsOf (trace : List Event) : List Log.Record := trace.filterMap Event.record?

/-- The record and the sink in force, if the record passes the filter and there is a sink. -/
def Log.Config.deliver? (config : Log.Config) (record : Log.Record) :
    Option (Log.Record × Log.Sink) :=
  if record.level.AtLeast config.threshold then config.sink.map fun sink => (record, sink)
  else none

/-! ### Events under other settings -/

open Session (driverCalls driverCalls_append delivered)

theorem delivered_append (first second : List Event) :
    delivered (first ++ second) = delivered first ++ delivered second := List.filterMap_append

theorem recordsOf_append (first second : List Event) :
    recordsOf (first ++ second) = recordsOf first ++ recordsOf second := List.filterMap_append

/-- Settings of the log concern no call of a driver. -/
theorem driverCalls_under (config : Log.Config) (trace : List Event) :
    driverCalls (trace.map (Event.under config)) = driverCalls trace := by
  induction trace with
  | nil => rfl
  | cons event rest ih =>
      have hcons : ∀ (e : Event) es, driverCalls (e :: es) = driverCalls [e] ++ driverCalls es :=
        fun e es => driverCalls_append [e] es
      rw [List.map_cons, hcons, hcons event, ih]
      cases event <;> rfl

/-- The same records are emitted under all settings of the log. -/
theorem recordsOf_under (config : Log.Config) (trace : List Event) :
    recordsOf (trace.map (Event.under config)) = recordsOf trace := by
  rw [recordsOf, List.filterMap_map, recordsOf]
  congr 1
  funext event
  cases event <;> rfl

/-- Under given settings, sinks receive what these settings let through. -/
theorem delivered_under (config : Log.Config) (trace : List Event) :
    delivered (trace.map (Event.under config)) = (recordsOf trace).filterMap config.deliver? := by
  rw [delivered, List.filterMap_map, recordsOf, List.filterMap_filterMap]
  congr 1
  funext event
  cases event with
  | record r sink =>
      have hrecord : (Event.record r sink).record? = some r := rfl
      have hunder : Event.under config (.record r sink) =
          .record r (config.recipient r.level) := rfl
      rw [Function.comp, hunder, hrecord, Option.bind_some]
      unfold Log.Config.recipient Log.Config.deliver?
      by_cases hpass : r.level.AtLeast config.threshold
      · rw [if_pos hpass, if_pos hpass]
        cases config.sink <;> rfl
      · rw [if_neg hpass, if_neg hpass]
  | identify driver device answer => rfl
  | mount driver device name => rfl

namespace Kernel

variable {σ : Type}

/-! ### Kernels without a log -/

/-- The kernel under other settings of the log, and after another past. -/
def under (config : Log.Config) (past : List Event) (k : Kernel σ) : Kernel σ :=
  { k with system := k.system.under config past }

/-- The kernel without what its log knows: all settings are the first ones, and nothing has
happened. -/
def unlogged (k : Kernel σ) : Kernel σ := k.setWorld { k.world with log := {}, trace := [] }

/-- Changes the settings of the log. -/
def configure (k : Kernel σ) (config : Log.Config) : Kernel σ :=
  k.setWorld { k.world with log := config }

theorem under_unlogged (k : Kernel σ) : k.unlogged.under k.log k.world.trace = k := by
  show k.setWorld { k.world with trace := k.world.trace ++ [] } = k
  rw [List.append_nil]
  rfl

variable [DriverModel σ] (config : Log.Config) (past : List Event) (k : Kernel σ)

theorem performRegistry_under (operation : RegistryOperation σ) :
    (k.under config past).performRegistry operation =
      ((k.performRegistry operation).1, (k.performRegistry operation).2.under config past) := by
  have hworld : (k.under config past).world = k.world.under config past := rfl
  have hregistry : ∀ id, registry? (k.under config past) id = k.registry? id := fun _ => rfl
  cases operation with
  | newDriver name driver => rfl
  | create drivers =>
      simp only [performRegistry, hworld, Registry.registerAll_under]
      rfl
  | register id driver =>
      simp only [performRegistry, hworld, hregistry, Registry.register_under]
      split <;> rfl
  | find id name =>
      simp only [performRegistry, hregistry]
      split <;> rfl
  | identify id device =>
      simp only [performRegistry, hworld, hregistry, World.identifyFirst_under]
      split <;> rfl
  | list id =>
      simp only [performRegistry, hregistry]
      split <;> rfl

theorem performVolume_under (operation : VolumeOperation) :
    (k.under config past).performVolume operation =
      ((k.performVolume operation).1, (k.performVolume operation).2.under config past) := by
  have hsystem : (k.under config past).system = k.system.under config past := rfl
  have hregistry : ∀ id, registry? (k.under config past) id = k.registry? id := fun _ => rfl
  cases operation with
  | share volume => rfl
  | retain v => rfl
  | release v => rfl
  | idOf v => rfl
  | handlesOf v => rfl
  | openTable root id =>
      simp only [performVolume, hregistry]
      split <;> rfl
  | closeTable id =>
      simp only [performVolume, hsystem, System.closeTable_under]
      rfl
  | initService root id =>
      simp only [performVolume, hregistry]
      split <;> rfl
  | ask target request =>
      simp only [performVolume, hsystem, System.request_under]
      cases k.system.request target request <;> rfl

/-- An operation is answered alike under other settings of the log. -/
theorem perform_under (operation : Operation σ) :
    (k.under config past).perform operation =
      ((k.perform operation).1, (k.perform operation).2.under config past) := by
  cases operation with
  | node operation => rfl
  | registry operation => exact k.performRegistry_under config past operation
  | volume operation => exact k.performVolume_under config past operation
  | report record =>
      have hemit := k.world.emit_under config past record
      show (Answer.done,
        (k.under config past).setWorld ((k.world.under config past).emit record)) = _
      rw [hemit]
      rfl

/-- What an operation does is what it does without a log; its events come after the past, and its
records go where the settings in force send them. -/
theorem perform_eq (operation : Operation σ) :
    k.perform operation =
      ((k.unlogged.perform operation).1,
        (k.unlogged.perform operation).2.under k.log k.world.trace) := by
  have hunder := k.unlogged.perform_under k.log k.world.trace operation
  rw [under_unlogged] at hunder
  exact hunder

/-! ### Runs -/

/-- What operations do without a log: the answers, the kernel afterwards, and the events. -/
def outline (k : Kernel σ) : List (Operation σ) → List Answer × Kernel σ × List Event
  | [] => ([], k.unlogged, [])
  | operation :: rest =>
    let first := k.unlogged.perform operation
    let more := first.2.outline rest
    (first.1 :: more.1, more.2.1, first.2.world.trace ++ more.2.2)

/-- The events of a run: those that are in the trace afterwards and were not before. -/
def events (k : Kernel σ) (acts : List (Act σ)) : List Event :=
  (k.run acts).2.world.trace.drop k.world.trace.length

/-- The records that a run emits, each with the settings of the log in force. -/
def journal (k : Kernel σ) : List (Act σ) → List (Log.Record × Log.Config)
  | [] => []
  | act :: rest =>
    (recordsOf (k.events [act])).map (fun record => (record, k.log)) ++
      (k.run [act]).2.journal rest

theorem outline_unlogged {k k' : Kernel σ} (h : k.unlogged = k'.unlogged)
    (operations : List (Operation σ)) : k.outline operations = k'.outline operations := by
  cases operations with
  | nil => rw [outline, outline, h]
  | cons operation rest => rw [outline, outline, h]

theorem run_append (acts rest : List (Act σ)) :
    (k.run (acts ++ rest)).2 = ((k.run acts).2.run rest).2 := by
  induction acts generalizing k with
  | nil => rfl
  | cons act acts ih =>
      cases act with
      | operate operation => exact ih _
      | set setting => exact ih _

/-- A run only adds to the trace. -/
theorem trace_run (acts : List (Act σ)) :
    (k.run acts).2.world.trace = k.world.trace ++ k.events acts := by
  have hprefix : k.world.trace <+: (k.run acts).2.world.trace := by
    induction acts generalizing k with
    | nil => exact List.prefix_refl _
    | cons act rest ih =>
        cases act with
        | operate operation =>
            have hfirst : k.world.trace <+: (k.perform operation).2.world.trace := by
              rw [perform_eq]
              exact List.prefix_append ..
            exact hfirst.trans (ih (k.perform operation).2)
        | set setting => exact ih (k.configure (k.log.set setting))
  obtain ⟨added, hadded⟩ := hprefix
  rw [events, ← hadded, List.drop_left]

theorem events_nil : k.events [] = [] := List.drop_length

theorem events_append (acts rest : List (Act σ)) :
    k.events (acts ++ rest) = k.events acts ++ (k.run acts).2.events rest := by
  have hall := k.trace_run (acts ++ rest)
  rw [run_append, trace_run, trace_run, List.append_assoc] at hall
  exact (List.append_cancel_left hall).symm

theorem events_cons (act : Act σ) (rest : List (Act σ)) :
    k.events (act :: rest) = k.events [act] ++ (k.run [act]).2.events rest :=
  k.events_append [act] rest

theorem events_operate (operation : Operation σ) :
    k.events [.operate operation] =
      (k.unlogged.perform operation).2.world.trace.map (Event.under k.log) := by
  have htrace : (k.run [.operate operation]).2.world.trace =
      k.world.trace ++ (k.unlogged.perform operation).2.world.trace.map (Event.under k.log) := by
    show (k.perform operation).2.world.trace = _
    rw [perform_eq]
    rfl
  rw [trace_run] at htrace
  exact List.append_cancel_left htrace

theorem events_set (setting : Log.Setting) : k.events [.set setting] = [] := List.drop_length

/-! ### The outline of a run -/

/-- Runs have the outline of their operations, whatever is set before and in between. -/
theorem run_outline (acts : List (Act σ)) :
    (k.run acts).1 = (k.outline (acts.filterMap Act.operation?)).1 ∧
    (k.run acts).2.unlogged = (k.outline (acts.filterMap Act.operation?)).2.1 ∧
    driverCalls (k.events acts) =
      driverCalls (k.outline (acts.filterMap Act.operation?)).2.2 ∧
    recordsOf (k.events acts) = recordsOf (k.outline (acts.filterMap Act.operation?)).2.2 := by
  induction acts generalizing k with
  | nil =>
      rw [events_nil]
      exact ⟨rfl, rfl, rfl, rfl⟩
  | cons act rest ih =>
      cases act with
      | operate operation =>
          have hafter : (k.perform operation).2.unlogged =
              (k.unlogged.perform operation).2.unlogged := by
            rw [perform_eq]
            rfl
          obtain ⟨hanswers, hkernel, hcalls, hrecords⟩ := ih (k.perform operation).2
          rw [outline_unlogged hafter] at hanswers hkernel hcalls hrecords
          rw [events_cons, events_operate, driverCalls_append, recordsOf_append,
            driverCalls_under, recordsOf_under]
          refine ⟨?_, hkernel, ?_, ?_⟩
          · have hanswer : (k.perform operation).1 = (k.unlogged.perform operation).1 := by
              rw [perform_eq]
            show (k.perform operation).1 :: _ = _ :: _
            rw [hanswer, hanswers]
          · exact (congrArg _ hcalls).trans (driverCalls_append ..).symm
          · exact (congrArg _ hrecords).trans (recordsOf_append ..).symm
      | set setting =>
          have hafter : (k.configure (k.log.set setting)).unlogged = k.unlogged := rfl
          obtain ⟨hanswers, hkernel, hcalls, hrecords⟩ := ih (k.configure (k.log.set setting))
          rw [outline_unlogged hafter] at hanswers hkernel hcalls hrecords
          rw [events_cons, events_set, List.nil_append]
          exact ⟨hanswers, hkernel, hcalls, hrecords⟩

/-- Operations leave the settings of the log as they are. -/
theorem log_run (acts : List (Act σ)) :
    (k.run acts).2.log = (acts.filterMap Act.setting?).foldl Log.Config.set k.log := by
  induction acts generalizing k with
  | nil => rfl
  | cons act rest ih =>
      cases act with
      | operate operation =>
          have hlog : (k.perform operation).2.log = k.log := by
            rw [perform_eq]
            rfl
          rw [show (k.run (.operate operation :: rest)).2 = ((k.perform operation).2.run rest).2
            from rfl, ih, hlog]
          rfl
      | set setting => exact ih (k.configure (k.log.set setting))

/-! ### The journal of a run -/

/-- The journal has the records that are emitted, in order. -/
theorem records_journal (acts : List (Act σ)) :
    (k.journal acts).map (·.1) = recordsOf (k.events acts) := by
  induction acts generalizing k with
  | nil =>
      rw [events_nil]
      rfl
  | cons act rest ih =>
      have hrecords : (recordsOf (k.events [act])).map (fun record => (record, k.log).1) =
          recordsOf (k.events [act]) := List.map_id _
      rw [journal, List.map_append, ih, List.map_map, k.events_cons act rest, recordsOf_append]
      exact congrArg (· ++ _) hrecords

/-- During one act the settings in force decide what sinks receive. -/
theorem delivered_act (act : Act σ) :
    delivered (k.events [act]) = (recordsOf (k.events [act])).filterMap k.log.deliver? := by
  cases act with
  | operate operation => rw [events_operate, delivered_under, recordsOf_under]
  | set setting =>
      rw [events_set]
      rfl

/-- Sinks receive what the settings in force let through, once and in order. -/
theorem delivered_events (acts : List (Act σ)) :
    delivered (k.events acts) =
      (k.journal acts).filterMap fun entry => entry.2.deliver? entry.1 := by
  induction acts generalizing k with
  | nil =>
      rw [events_nil]
      rfl
  | cons act rest ih =>
      rw [journal, List.filterMap_append, List.filterMap_map, k.events_cons act rest,
        delivered_append, delivered_act, ih]
      rfl

/-- **What the log decides.**  Two runs of the same operations, from kernels that differ in their
logs only, answer the same, call the drivers in the same way, emit the same records and end in
kernels that differ in their logs only, whatever settings of the log are made in either run before
and between the operations.

The sinks receive those records, in order and once, whose level is at least as severe as the filter
level in force when they are emitted, each at the sink in force then; the settings in force are
those that were made last. -/
theorem log_decides_delivery_only {k k' : Kernel σ} (hstate : k.unlogged = k'.unlogged)
    {acts acts' : List (Act σ)}
    (hacts : acts.filterMap Act.operation? = acts'.filterMap Act.operation?) :
    ((k.run acts).1 = (k'.run acts').1 ∧
      (k.run acts).2.unlogged = (k'.run acts').2.unlogged ∧
      driverCalls (k.events acts) = driverCalls (k'.events acts') ∧
      recordsOf (k.events acts) = recordsOf (k'.events acts')) ∧
    (k.run acts).2.world.trace = k.world.trace ++ k.events acts ∧
    (k.run acts).2.log = (acts.filterMap Act.setting?).foldl Log.Config.set k.log ∧
    (k.journal acts).map (·.1) = recordsOf (k.events acts) ∧
    delivered (k.events acts) =
      (k.journal acts).filterMap fun entry => entry.2.deliver? entry.1 := by
  have houtline : k.outline (acts.filterMap Act.operation?) =
      k'.outline (acts'.filterMap Act.operation?) := by
    rw [outline_unlogged hstate, hacts]
  obtain ⟨hanswers, hkernel, hcalls, hrecords⟩ := k.run_outline acts
  obtain ⟨hanswers', hkernel', hcalls', hrecords'⟩ := k'.run_outline acts'
  rw [houtline] at hanswers hkernel hcalls hrecords
  refine ⟨⟨?_, ?_, ?_, ?_⟩, ?_, ?_, ?_, ?_⟩
  · rw [hanswers, hanswers']
  · rw [hkernel, hkernel']
  · rw [hcalls, hcalls']
  · rw [hrecords, hrecords']
  · exact k.trace_run acts
  · exact k.log_run acts
  · exact k.records_journal acts
  · exact k.delivered_events acts

end Kernel

/-! ### A run whose log is filtered and sent elsewhere on the way -/

namespace LogExample

open Kernel

/-- A device is mounted and unmounted, and then unmounted once more. -/
def operations : List (Operation ScriptedDriver) :=
  [.node (.make (.newDirectory "/")), .node (.make (.newImage "disk" [])),
    .registry (.newDriver "fat" { format := "fat", identify := .always, mount := .treeless }),
    .registry (.create [⟨"fat", ⟨0⟩⟩]), .volume (.openTable ⟨0⟩ ⟨0⟩),
    .volume (.ask (.table ⟨0⟩) (.mount ⟨1⟩ (some "data"))),
    .volume (.ask (.table ⟨0⟩) (.unmount "data")),
    .volume (.ask (.table ⟨0⟩) (.unmount "data"))]

/-- At first all but details pass.  After the mount only errors do, and before the last operation
the sink is replaced. -/
def acts : List (Act ScriptedDriver) :=
  .set (.sink (some ⟨"console"⟩)) :: .set (.threshold .info) ::
      (operations.take 6).map .operate ++
    .set (.threshold .error) :: ((operations.drop 6).take 1).map .operate ++
    .set (.sink (some ⟨"file"⟩)) :: (operations.drop 7).map .operate

/-- A kernel that has just started, without a sink. -/
def silent : Kernel ScriptedDriver := {}

/-- The same kernel with a sink that gets nothing but the worst. -/
def alarmed : Kernel ScriptedDriver :=
  silent.configure { threshold := .fatal, sink := some ⟨"alarm"⟩ }

/-- The operations answer what they answer without any settings. -/
theorem run_is_filtered :
    alarmed.unlogged = silent.unlogged ∧
      acts.filterMap Act.operation? = (operations.map Act.operate).filterMap Act.operation? ∧
      (alarmed.run acts).1 = (silent.run (operations.map .operate)).1 ∧
      Session.delivered (alarmed.events acts) =
        [((Notice.mounted "fat" "data" "disk" 1).record, ⟨"console"⟩),
          ((Notice.noSuchVolume "data").record, ⟨"file"⟩)] := by
  have hstate : alarmed.unlogged = silent.unlogged := rfl
  have hacts : acts.filterMap Act.operation? =
      (operations.map Act.operate).filterMap Act.operation? := rfl
  obtain ⟨⟨hanswers, _, _, _⟩, _, _, _, hdelivered⟩ :=
    Kernel.log_decides_delivery_only hstate hacts
  refine ⟨hstate, hacts, hanswers, ?_⟩
  rw [hdelivered]
  rfl

end LogExample

end VolumeService
