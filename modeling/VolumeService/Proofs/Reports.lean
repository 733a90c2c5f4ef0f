import VolumeService.Proofs.BootChoice
import VolumeService.Proofs.DriverCalls
import VolumeService.Proofs.LogIndependence

/-! # What an operation reports

Every failure of the volume service is reported once and as a failure, and no success is reported
as one.

* **Reports** (`World.Reports`).  Between two worlds certain notices were given to the log, in this
  order and no others; drivers may have been called, for they say nothing to the log.  Reports of
  operations one after the other are appended (`Reports.trans`).
* **Mounts** (`MountReport`).  An answer of a mount comes with one notice, which says the same: an
  error at the level of errors, or that the volume is mounted.
* **Boot scans** (`Inspected`).  A scan says which lines it visits, in order, and after each line no
  more than why mounting what it leads to failed (`VisitReport`).  What comes last says how the scan
  ended, and only the end without a volume is fatal. -/

namespace VolumeService

open Session (delivered)

variable {σ : Type}

/-! ### Notices between two worlds -/

/-- Between `w` and `w'` these notices were given to the log, and nothing else: what passes the
filter was delivered. -/
structure World.Reports (w : World σ) (notices : List Notice) (w' : World σ) : Prop where
  log : w'.log = w.log
  trace : ∃ events, w'.trace = w.trace ++ events ∧
    delivered events = notices.filterMap fun notice => w.log.deliver? notice.record

namespace World.Reports

variable {w w₁ w₂ : World σ} {notices more : List Notice}

/-- Nothing is reported where neither the settings of the log nor the trace change. -/
theorem of_trace_eq (hlog : w₁.log = w.log) (htrace : w₁.trace = w.trace) : w.Reports [] w₁ :=
  ⟨hlog, [], by rw [htrace, List.append_nil], rfl⟩

theorem refl (w : World σ) : w.Reports [] w := of_trace_eq rfl rfl

theorem trans (h₁ : w.Reports notices w₁) (h₂ : w₁.Reports more w₂) :
    w.Reports (notices ++ more) w₂ := by
  obtain ⟨events, htrace, hdelivered⟩ := h₁.trace
  obtain ⟨events', htrace', hdelivered'⟩ := h₂.trace
  refine ⟨h₂.log.trans h₁.log, events ++ events', ?_, ?_⟩
  · rw [htrace', htrace, List.append_assoc]
  · rw [delivered_append, hdelivered, hdelivered', h₁.log, List.filterMap_append]

/-- What is silent at the end changes no report. -/
theorem trans_silent (h₁ : w.Reports notices w₁) (h₂ : w₁.Reports [] w₂) :
    w.Reports notices w₂ := by
  have h := h₁.trans h₂
  rwa [List.append_nil] at h

/-- A notice is given to the log as its record. -/
theorem of_notify (w : World σ) (notice : Notice) : w.Reports [notice] (w.notify notice) :=
  ⟨rfl, _, rfl, delivered_under w.log [.record notice.record none]⟩

/-- Registering a volume is silent. -/
theorem of_register (t : MountTable) (w : World σ) (volume : Volume) :
    w.Reports [] (t.register w volume).2.2 := by
  unfold MountTable.register World.linkMountPoint
  split <;> exact of_trace_eq rfl rfl

variable [DriverModel σ]

/-- Asking a driver is silent: it is in the trace, but not as a record. -/
theorem of_identify (w : World σ) (driver : DriverHandle) (device : NodeId) :
    w.Reports [] (w.identify driver device).2 := by
  unfold identify
  split
  · exact refl w
  · exact ⟨rfl, _, rfl, rfl⟩

theorem of_mountVia (w : World σ) (driver : DriverHandle) (device : NodeId) (name : String) :
    w.Reports [] (w.mountVia driver device name).2 := by
  unfold mountVia
  split
  · exact refl w
  · exact ⟨rfl, _, rfl, rfl⟩

theorem of_identifyFirst (w : World σ) (device : NodeId) (drivers : List DriverHandle) :
    w.Reports [] (w.identifyFirst device drivers).2 := by
  induction drivers generalizing w with
  | nil => exact refl w
  | cons driver rest ih =>
      have hcall := of_identify w driver device
      cases hanswer : (w.identify driver device).1 with
      | true =>
          rw [identifyFirst_of_true hanswer]
          exact hcall
      | false =>
          rw [identifyFirst_of_false hanswer]
          exact hcall.trans (ih _)

end World.Reports

/-! ### Mounts -/

/-- The notice that an answer of a mount comes with. -/
inductive MountReport : Except ServiceError VolumeHandle → Notice → Prop where
  | notADevice (device : String) : MountReport (.error .notADevice) (.mountNotDevice device)
  | unrecognised (device : String) : MountReport (.error .unrecognised) (.mountUnrecognised device)
  | driverRefuses (device driver : String) :
      MountReport (.error .driverRefuses) (.mountMismatch device driver)
  | nameTooLong (device : String) (size : Nat) :
      MountReport (.error .nameTooLong) (.mountNameTooLong device size)
  | failed (driver device name : String) (cause : NodeError) :
      MountReport (.error .mountFailed) (.mountFailed driver device name cause)
  | misnamed (driver device got expected : String) :
      MountReport (.error .mountFailed) (.mountMisnamed driver device got expected)
  | mounted (v : VolumeHandle) (device : String) (id : Nat) :
      MountReport (.ok v) (.mounted v.volume.format v.name device id)

/-- The level at which an answer is reported. -/
def reportLevel {ε α : Type} : Except ε α → Level
  | .ok _ => .info
  | .error _ => .error

/-- A mount that fails is reported as an error, and no other. -/
theorem MountReport.level_eq {answer : Except ServiceError VolumeHandle} {notice : Notice}
    (h : MountReport answer notice) : notice.level = reportLevel answer := by
  cases h <;> rfl

namespace MountTable

theorem adopt_reports (t : MountTable) (w : World σ) (device : NodeId) (driver : DriverHandle)
    (name : String) (volume : Volume) :
    ∃ notice, MountReport (t.adopt w device driver name volume).1 notice ∧
      w.Reports [notice] (t.adopt w device driver name volume).2.2 := by
  unfold adopt
  split
  · exact ⟨_, .mounted .., (World.Reports.of_register t w volume).trans (.of_notify ..)⟩
  · exact ⟨_, .misnamed .., .of_notify ..⟩

section

variable [DriverModel σ]

theorem build_reports (t : MountTable) (w : World σ) (device : NodeId) (driver : DriverHandle)
    (name : String) :
    ∃ notice, MountReport (t.build w device driver name).1 notice ∧
      w.Reports [notice] (t.build w device driver name).2.2 := by
  have hcall := World.Reports.of_mountVia w driver device name
  rw [build]
  generalize w.mountVia driver device name = call at hcall ⊢
  obtain ⟨answer, w₁⟩ := call
  cases answer with
  | error cause => exact ⟨_, .failed .., hcall.trans (.of_notify ..)⟩
  | ok volume =>
      obtain ⟨notice, hnotice, hreports⟩ := t.adopt_reports w₁ device driver name volume
      exact ⟨notice, hnotice, hcall.trans hreports⟩

/-- A mount with a given driver gives one notice to the log, and it says what the answer says. -/
theorem mountUsing_reports (t : MountTable) (w : World σ) (device : NodeId)
    (driver : DriverHandle) (name? : Option String) :
    ∃ notice, MountReport (t.mountUsing w device driver name?).1 notice ∧
      w.Reports [notice] (t.mountUsing w device driver name?).2.2 := by
  have hcall := World.Reports.of_identify w driver device
  unfold mountUsing
  split
  next =>
    generalize w.identify driver device = call at hcall ⊢
    obtain ⟨answer, w₁⟩ := call
    cases answer with
    | false => exact ⟨_, .driverRefuses .., hcall.trans (.of_notify ..)⟩
    | true =>
        dsimp only
        split
        next => exact ⟨_, .nameTooLong .., hcall.trans (.of_notify ..)⟩
        next name t' _ =>
          obtain ⟨notice, hnotice, hreports⟩ := t'.build_reports w₁ device driver name
          exact ⟨notice, hnotice, hcall.trans hreports⟩
  next => exact ⟨_, .notADevice .., .of_notify ..⟩

/-- So does a mount that chooses its driver. -/
theorem mount_reports (t : MountTable) (w : World σ) (device : NodeId) (name? : Option String) :
    ∃ notice, MountReport (t.mount w device name?).1 notice ∧
      w.Reports [notice] (t.mount w device name?).2.2 := by
  have hsearch := World.Reports.of_identifyFirst w device t.drivers.drivers
  unfold mount
  split
  next =>
    generalize w.identifyFirst device t.drivers.drivers = search at hsearch ⊢
    obtain ⟨found, w₁⟩ := search
    cases found with
    | none => exact ⟨_, .unrecognised .., hsearch.trans (.of_notify ..)⟩
    | some driver =>
        obtain ⟨notice, hnotice, hreports⟩ := t.mountUsing_reports w₁ device driver name?
        exact ⟨notice, hnotice, hsearch.trans hreports⟩
  next => exact ⟨_, .notADevice .., .of_notify ..⟩

end

/-! ### Removals -/

/-- A volume is unmounted with a notice, and a warning before it while handles are out; a name that
no volume has is reported as such. -/
theorem unmount_reports (t : MountTable) (w : World σ) (name : String) :
    ((t.unmount w name).1 = .error .noSuchVolume ∧
      w.Reports [.noSuchVolume name] (t.unmount w name).2.2) ∨
    ∃ v, (t.unmount w name).1 = .ok v ∧ ∃ count,
      w.Reports ((if 0 < count then [.handlesOpen name count] else []) ++ [.unmounted name])
        (t.unmount w name).2.2 := by
  unfold unmount
  split
  next => exact .inl ⟨rfl, .of_notify ..⟩
  next v t' w₁ hpick =>
    obtain ⟨_, _, _, rfl⟩ := erase_of_removeFirst? hpick
    have hclear : w.Reports [] (w.clearId v) := .of_trace_eq rfl rfl
    generalize t'.otherHandles (w.clearId v) v = count
    have hwarning : (w.clearId v).Reports (if 0 < count then [.handlesOpen name count] else [])
        (if 0 < count then (w.clearId v).notify (.handlesOpen name count) else w.clearId v) := by
      split
      · exact .of_notify ..
      · exact .refl _
    exact .inr ⟨v, rfl, count, (hclear.trans hwarning).trans (.of_notify ..)⟩

/-- Unregistering is silent, unless the volume is not registered. -/
theorem unregister_reports (t : MountTable) (w : World σ) (v : VolumeHandle) :
    ((t.unregister w v).1 = .error .noSuchVolume ∧
      w.Reports [.notRegistered v.name] (t.unregister w v).2.2) ∨
    ∃ held, (t.unregister w v).1 = .ok held ∧ w.Reports [] (t.unregister w v).2.2 := by
  unfold unregister
  split
  next => exact .inl ⟨rfl, .of_notify ..⟩
  next held t' w₁ hpick =>
    obtain ⟨_, _, _, rfl⟩ := erase_of_removeFirst? hpick
    exact .inr ⟨held, rfl, .of_trace_eq rfl rfl⟩

/-! ### Boot scans -/

/-- What is said about the attempt to mount what a line of `/dev` leads to: nothing if there was
none, and otherwise what a mount says. -/
inductive VisitReport : Option VolumeHandle → List Notice → Prop where
  | passed : VisitReport none []
  | failed {cause : ServiceError} {notice : Notice} (h : MountReport (.error cause) notice) :
      VisitReport none [notice]
  | mounted {v : VolumeHandle} {notice : Notice} (h : MountReport (.ok v) notice) :
      VisitReport (some v) [notice]

/-- The position of the line of `/dev` that a scan reads after `n` others. -/
def positionAfter (n : Nat) : Nat := (UInt64.ofNat n).toNat

/-- The levels of what is said about lines that are visited in vain, given for each line whether a
mount failed: one notice for debugging, and an error after it if one did. -/
def visitLevels (failed : List Bool) : List Level :=
  failed.flatMap fun f => if f then [.debug, .error] else [.debug]

theorem fatal_notMem_visitLevels (failed : List Bool) : Level.fatal ∉ visitLevels failed := by
  unfold visitLevels
  rw [List.mem_flatMap]
  rintro ⟨f, _, hmem⟩
  cases f <;> simp at hmem

theorem setSystem_reports (t : MountTable) (w : World σ) (line : String) (v : VolumeHandle) :
    w.Reports [.systemMounted line] (t.setSystem w line v).2 :=
  (World.Reports.of_notify w _).trans_silent (.of_trace_eq rfl rfl)

variable [DriverModel σ]

theorem trySystem_reports (t : MountTable) (w : World σ) (dev : NodeId) (line : String) :
    ∃ notices, VisitReport (t.trySystem w dev line).1 notices ∧
      w.Reports notices (t.trySystem w dev line).2.2 := by
  unfold trySystem
  split
  next => exact ⟨[], .passed, .refl w⟩
  next device _ =>
    split
    next =>
      have hsearch := World.Reports.of_identifyFirst w device t.drivers.drivers
      generalize w.identifyFirst device t.drivers.drivers = search at hsearch ⊢
      obtain ⟨found, w₁⟩ := search
      cases found with
      | none => exact ⟨[], .passed, hsearch⟩
      | some driver =>
          obtain ⟨notice, hnotice, hreports⟩ :=
            t.mountUsing_reports w₁ device driver (some systemName)
          dsimp only
          generalize t.mountUsing w₁ device driver (some systemName) = call at hnotice hreports ⊢
          obtain ⟨answer, t₁, w₂⟩ := call
          cases answer with
          | error cause => exact ⟨[notice], .failed hnotice, hsearch.trans hreports⟩
          | ok v => exact ⟨[notice], .mounted hnotice, hsearch.trans hreports⟩
    next => exact ⟨[], .passed, .refl w⟩

/-- The first `n` lines of `/dev` were visited in vain, each as it was when its turn came; for each,
in order, the visit was reported and then why a mount failed, if one was tried. -/
inductive Inspected (t : MountTable) (dev : NodeId) (w : World σ) :
    Nat → List Notice → World σ → Prop where
  | start : Inspected t dev w 0 [] w
  | visit {n : Nat} {notices failures : List Notice} {w₁ w₂ : World σ} {line : Line}
      (h : Inspected t dev w n notices w₁) (hline : lineAfter w₁.graph dev n = some line)
      (hvain : t.trySystem (w₁.notify (.scanVisits (positionAfter n) line.name)) dev line.name =
        (none, t, w₂))
      (hfailures : VisitReport none failures)
      (hreports : w₁.Reports (.scanVisits (positionAfter n) line.name :: failures) w₂) :
      Inspected t dev w (n + 1)
        (notices ++ .scanVisits (positionAfter n) line.name :: failures) w₂

/-- What a scan of `/dev` reports: the lines that it visits in vain, and then that there are no more
lines, or the visit of one more line, the mount of what it leads to, and the end. -/
inductive ScanReport (t : MountTable) (dev : NodeId) (w : World σ) :
    Option (Except ServiceError VolumeHandle) → List Notice → Prop where
  | unfinished {n : Nat} {notices : List Notice} {w₁ : World σ}
      (h : Inspected t dev w n notices w₁) : ScanReport t dev w none notices
  | fruitless {n : Nat} {notices : List Notice} {w₁ : World σ}
      (h : Inspected t dev w n notices w₁) (hend : lineAfter w₁.graph dev n = none) :
      ScanReport t dev w (some (.error .noSystemDevice)) (notices ++ [.scanFruitless])
  | mounted {n : Nat} {notices : List Notice} {w₁ : World σ} {line : Line} {v : VolumeHandle}
      {notice : Notice} (h : Inspected t dev w n notices w₁)
      (hline : lineAfter w₁.graph dev n = some line) (hnotice : MountReport (.ok v) notice) :
      ScanReport t dev w (some (.ok v)) (notices ++
        [.scanVisits (positionAfter n) line.name, notice, .systemMounted line.name])

theorem Inspected.reports {t : MountTable} {dev : NodeId} {w w₁ : World σ} {n : Nat}
    {notices : List Notice} (h : Inspected t dev w n notices w₁) : w.Reports notices w₁ := by
  induction h with
  | start => exact .refl w
  | visit _ _ _ _ hreports ih => exact ih.trans hreports

theorem Inspected.levels {t : MountTable} {dev : NodeId} {w w₁ : World σ} {n : Nat}
    {notices : List Notice} (h : Inspected t dev w n notices w₁) :
    ∃ failed : List Bool, failed.length = n ∧ notices.map Notice.level = visitLevels failed := by
  induction h with
  | start => exact ⟨[], rfl, rfl⟩
  | @visit n notices failures _ _ line _ _ _ hfailures _ ih =>
      obtain ⟨failed, hlength, hlevels⟩ := ih
      have hvisit : ∃ f, (Notice.scanVisits (positionAfter n) line.name :: failures).map
          Notice.level = visitLevels [f] := by
        cases hfailures with
        | passed => exact ⟨false, rfl⟩
        | failed hnotice =>
            refine ⟨true, ?_⟩
            rw [List.map_cons, List.map_singleton, hnotice.level_eq]
            rfl
      obtain ⟨f, hf⟩ := hvisit
      refine ⟨failed ++ [f], ?_, ?_⟩
      · rw [List.length_append, hlength, List.length_singleton]
      · rw [List.map_append, hlevels, hf, visitLevels, visitLevels, ← List.flatMap_append,
          visitLevels]

/-- A scan that goes on after some lines reports what a scan reports. -/
theorem scan_reports {t : MountTable} {dev : NodeId} {w w₁ : World σ} {n : Nat}
    {notices : List Notice} (h : Inspected t dev w n notices w₁) (limit : Nat) :
    ∃ all, ScanReport t dev w (scan dev limit ⟨UInt64.ofNat n⟩ t w₁).1 all ∧
      w.Reports all (scan dev limit ⟨UInt64.ofNat n⟩ t w₁).2.2 := by
  induction limit generalizing n notices w₁ with
  | zero => exact ⟨notices, .unfinished h, h.reports⟩
  | succ limit ih =>
      rw [scan, Cursor.next?]
      cases hline : Namespace.line? w₁.graph dev (UInt64.ofNat n).toNat with
      | none => exact ⟨_, .fruitless h hline, h.reports.trans (.of_notify ..)⟩
      | some line =>
          have hposition : (UInt64.ofNat n).toNat = positionAfter n := rfl
          have hnext : UInt64.ofNat n + 1 = UInt64.ofNat (n + 1) := (UInt64.ofNat_add n 1).symm
          have hvisit := World.Reports.of_notify w₁ (.scanVisits (positionAfter n) line.name)
          obtain ⟨more, hmore, hreports⟩ := t.trySystem_reports
            (w₁.notify (.scanVisits (positionAfter n) line.name)) dev line.name
          dsimp only [Option.map_some]
          rw [hposition]
          rcases t.trySystem_cases (w₁.notify (.scanVisits (positionAfter n) line.name)) dev
            line.name with ⟨w₂, _, he⟩ | ⟨_, w₂, device, volume, _, _, _, _, he⟩
          · rw [he] at hmore hreports
            rw [he, hnext]
            exact ih (h.visit hline he hmore (hvisit.trans hreports))
          · rw [he] at hmore hreports
            rw [he]
            cases hmore with
            | mounted hnotice =>
                generalize t.afterMount w₂ device volume = after at hreports ⊢
                have hall := (h.reports.trans (hvisit.trans hreports)).trans
                  (after.1.setSystem_reports after.2 line.name (w₂.handleFor volume))
                rw [List.append_assoc] at hall
                exact ⟨_, .mounted h hline hnotice, hall⟩

/-- What a boot scan reports: that there is a system volume already, that there is no `/dev`, or
what the scan of `/dev` reports. -/
inductive BootReport (t : MountTable) (w : World σ) :
    Option (Except ServiceError VolumeHandle) → List Notice → Prop where
  | already {v : VolumeHandle} (hsystem : t.system = some v) :
      BootReport t w (some (.ok v)) [.systemAlready v.name]
  | impossible {cause : NodeError} (hsystem : t.system = none)
      (hdev : Namespace.resolve w.graph t.root devicePath = .error cause) :
      BootReport t w (some (.error .noDeviceDirectory)) [.scanImpossible cause]
  | scanned {dev : NodeId} {answer : Option (Except ServiceError VolumeHandle)}
      {notices : List Notice} (hsystem : t.system = none)
      (hdev : Namespace.resolve w.graph t.root devicePath = .ok dev)
      (h : ScanReport t dev w answer notices) : BootReport t w answer notices

theorem bootScan_reports (t : MountTable) (w : World σ) (limit : Nat) :
    ∃ notices, BootReport t w (t.bootScan w limit).1 notices ∧
      w.Reports notices (t.bootScan w limit).2.2 := by
  unfold bootScan
  split
  next v hsystem =>
    exact ⟨_, .already hsystem, (World.Reports.of_notify ..).trans_silent (.of_trace_eq rfl rfl)⟩
  next hsystem =>
    split
    next cause hdev => exact ⟨_, .impossible hsystem hdev, .of_notify ..⟩
    next dev hdev =>
      have hstart : Inspected t dev w 0 [] w := .start
      obtain ⟨notices, hscan, hreports⟩ := scan_reports hstart limit
      exact ⟨notices, .scanned hsystem hdev hscan, hreports⟩

/-- A boot scan without a volume ends with its only fatal notice. -/
theorem BootReport.levels_of_error {t : MountTable} {w : World σ} {cause : ServiceError}
    {notices : List Notice} (h : BootReport t w (some (.error cause)) notices) :
    ∃ levels, notices.map Notice.level = levels ++ [.fatal] ∧ .fatal ∉ levels := by
  cases h with
  | impossible _ _ => exact ⟨[], rfl, List.not_mem_nil⟩
  | scanned _ _ h =>
      cases h with
      | fruitless h _ =>
          obtain ⟨failed, _, hlevels⟩ := h.levels
          refine ⟨visitLevels failed, ?_, fatal_notMem_visitLevels failed⟩
          rw [List.map_append, hlevels]
          rfl

end MountTable

/-! ### What reaches a sink that takes everything -/

/-- Between `w` and `w'` the records of these notices, at these levels, were delivered to the sink
and no others. -/
structure World.Delivers (w : World σ) (sink : Log.Sink) (notices : List Notice)
    (levels : List Level) (w' : World σ) : Prop where
  trace : ∃ events, w'.trace = w.trace ++ events ∧
    delivered events = notices.map fun notice => (notice.record, sink)
  levels : notices.map Notice.level = levels

/-- Where nothing is filtered, all that is reported is delivered. -/
theorem World.Reports.delivers {w w' : World σ} {sink : Log.Sink} {notices : List Notice}
    {levels : List Level} (h : w.Reports notices w')
    (hlog : w.log = { threshold := .trace, sink := some sink })
    (hlevels : notices.map Notice.level = levels) : w.Delivers sink notices levels w' := by
  obtain ⟨events, htrace, hdelivered⟩ := h.trace
  refine ⟨⟨events, htrace, ?_⟩, hlevels⟩
  have hdeliver : (fun notice : Notice => w.log.deliver? notice.record) =
      fun notice => some (notice.record, sink) := by
    funext notice
    rw [hlog]
    exact if_pos (Level.atLeast_trace _)
  rw [hdelivered, hdeliver, List.filterMap_eq_map']

/-- The levels of what was delivered are behind those of what was delivered before. -/
theorem World.Delivers.levels_delivered {w w' : World σ} {sink : Log.Sink} {notices : List Notice}
    {levels : List Level} (h : w.Delivers sink notices levels w') :
    (delivered w'.trace).map (fun delivery => delivery.1.level) =
      (delivered w.trace).map (fun delivery => delivery.1.level) ++ levels := by
  obtain ⟨events, htrace, hdelivered⟩ := h.trace
  rw [htrace, delivered_append, List.map_append, hdelivered, List.map_map, ← h.levels]
  rfl

namespace MountTable

variable [DriverModel σ]

/-- **Every failure is reported, and no success as a failure.**  With a sink in force and nothing
filtered, a mount delivers one record: why it failed, as an error, or that the volume is mounted, as
information.  A volume that is unmounted is reported with information, after a warning while handles
are out; one that cannot be unmounted or unregistered, with one error.  A boot scan that ends
without a volume says so last, and that is its only fatal record.  A scan that ends with a volume
delivers, for each line that it visited in vain and in their order, a record for debugging and at
most the error of one failed mount, then the record of the last line, and information about the
mount and about the system volume. -/
theorem every_failure_is_reported (t : MountTable) (w : World σ) {sink : Log.Sink}
    (hlog : w.log = { threshold := .trace, sink := some sink }) :
    (∀ device name?, let call := t.mount w device name?
      ∃ notice, MountReport call.1 notice ∧
        w.Delivers sink [notice] [reportLevel call.1] call.2.2) ∧
    (∀ device driver name?, let call := t.mountUsing w device driver name?
      ∃ notice, MountReport call.1 notice ∧
        w.Delivers sink [notice] [reportLevel call.1] call.2.2) ∧
    (∀ name, let call := t.unmount w name
      (∀ cause, call.1 = .error cause →
        w.Delivers sink [.noSuchVolume name] [.error] call.2.2) ∧
      ∀ v, call.1 = .ok v → w.Delivers sink [.unmounted name] [.info] call.2.2 ∨
        ∃ count, w.Delivers sink [.handlesOpen name count, .unmounted name] [.warn, .info]
          call.2.2) ∧
    (∀ v, let call := t.unregister w v
      (∀ cause, call.1 = .error cause →
        w.Delivers sink [.notRegistered v.name] [.error] call.2.2) ∧
      ∀ held, call.1 = .ok held → w.Delivers sink [] [] call.2.2) ∧
    (∀ limit, let call := t.bootScan w limit
      (∀ cause, call.1 = some (.error cause) → ∃ notices levels,
        w.Delivers sink notices (levels ++ [.fatal]) call.2.2 ∧ .fatal ∉ levels) ∧
      ∀ v, call.1 = some (.ok v) →
        (t.system = some v ∧ w.Delivers sink [.systemAlready v.name] [.warn] call.2.2) ∨
        t.system = none ∧ ∃ dev n notices w₁ line notice failed,
          Namespace.resolve w.graph t.root devicePath = .ok dev ∧
          Inspected t dev w n notices w₁ ∧ lineAfter w₁.graph dev n = some line ∧
          MountReport (.ok v) notice ∧ failed.length = n ∧
          w.Delivers sink (notices ++
              [.scanVisits (positionAfter n) line.name, notice, .systemMounted line.name])
            (visitLevels failed ++ [.debug, .info, .info]) call.2.2) := by
  refine ⟨fun device name? => ?_, fun device driver name? => ?_, fun name => ?_, fun v => ?_,
    fun limit => ?_⟩
  · obtain ⟨notice, hnotice, hreports⟩ := t.mount_reports w device name?
    exact ⟨notice, hnotice, hreports.delivers hlog (congrArg (· :: []) hnotice.level_eq)⟩
  · obtain ⟨notice, hnotice, hreports⟩ := t.mountUsing_reports w device driver name?
    exact ⟨notice, hnotice, hreports.delivers hlog (congrArg (· :: []) hnotice.level_eq)⟩
  · rcases t.unmount_reports w name with ⟨he, hreports⟩ | ⟨v, he, count, hreports⟩
    · refine ⟨fun _ _ => hreports.delivers hlog rfl, fun v hv => ?_⟩
      cases he.symm.trans hv
    · refine ⟨fun cause hcause => ?_, fun _ _ => ?_⟩
      · cases he.symm.trans hcause
      · split at hreports
        · exact .inr ⟨count, hreports.delivers hlog rfl⟩
        · exact .inl (hreports.delivers hlog rfl)
  · rcases t.unregister_reports w v with ⟨he, hreports⟩ | ⟨held, he, hreports⟩
    · refine ⟨fun _ _ => hreports.delivers hlog rfl, fun v hv => ?_⟩
      cases he.symm.trans hv
    · refine ⟨fun cause hcause => ?_, fun _ _ => hreports.delivers hlog rfl⟩
      cases he.symm.trans hcause
  · obtain ⟨all, hboot, hreports⟩ := t.bootScan_reports w limit
    refine ⟨fun cause hcause => ?_, fun v hv => ?_⟩
    · rw [hcause] at hboot
      obtain ⟨levels, hlevels, hfatal⟩ := hboot.levels_of_error
      exact ⟨all, levels, hreports.delivers hlog hlevels, hfatal⟩
    · rw [hv] at hboot
      cases hboot with
      | already hsystem => exact .inl ⟨hsystem, hreports.delivers hlog rfl⟩
      | @scanned dev _ _ hsystem hdev h =>
          cases h with
          | @mounted n notices w₁ line _ notice h hline hnotice =>
              obtain ⟨failed, hlength, hlevels⟩ := h.levels
              refine .inr ⟨hsystem, dev, n, notices, w₁, line, notice, failed, hdev, h, hline,
                hnotice, hlength, hreports.delivers hlog ?_⟩
              rw [List.map_append, hlevels, List.map_cons, List.map_cons, hnotice.level_eq]
              rfl

end MountTable

/-! ### A device that cannot be mounted before one that can -/

namespace ReportExample

open BootExample (table)

/-- A sink that everything is delivered to. -/
def console : Log.Sink := ⟨"console"⟩

/-- A root with `/dev/a`, which its driver fails to mount, and `/dev/b`, which its driver mounts.
Nothing is filtered. -/
def world : World ScriptedDriver :=
  { BootExample.world with log := { threshold := .trace, sink := some console } }

/-- A table over `/dev`, in which there is no `/dev`. -/
def bare : MountTable := .create ⟨1⟩ table.drivers

/-- The mount of `a` fails with one error.  The boot scan reports so too when it visits `a`, and
then mounts `b`; over `/dev` it ends with a fatal record. -/
theorem failures_are_reported :
    (∃ notice, MountReport (.error .mountFailed) notice ∧
      world.Delivers console [notice] [.error] (table.mount world ⟨2⟩ none).2.2) ∧
    (∃ v notices, (table.bootScan world 8).1 = some (.ok v) ∧
      world.Delivers console notices [.debug, .error, .debug, .info, .info]
        (table.bootScan world 8).2.2) ∧
    ∃ notices levels, world.Delivers console notices (levels ++ [.fatal])
      (bare.bootScan world 8).2.2 ∧ .fatal ∉ levels := by
  obtain ⟨hmount, _, _, _, hboot⟩ := table.every_failure_is_reported world rfl
  obtain ⟨_, _, _, _, hbare⟩ := bare.every_failure_is_reported world rfl
  refine ⟨hmount ⟨2⟩ none, ?_, (hbare 8).1 .noDeviceDirectory rfl⟩
  have hmounted : (table.bootScan world 8).1 = some (.ok ⟨.treeless "fat" systemName, ⟨0⟩⟩) := rfl
  rcases (hboot 8).2 _ hmounted with ⟨hsystem, _⟩ |
    ⟨_, _, _, _, _, _, _, failed, _, _, _, _, _, hdelivers⟩
  · cases hsystem
  · -- which levels were delivered is seen from the run itself
    have hlevels : [.debug, .error, .debug, .info, .info] =
        MountTable.visitLevels failed ++ [.debug, .info, .info] := hdelivers.levels_delivered
    rw [← hlevels] at hdelivers
    exact ⟨_, _, hmounted, hdelivers⟩

end ReportExample

end VolumeService
