import VolumeService.Proofs.CallSequences
import VolumeService.Proofs.ScriptedDrivers

/-! # Which drivers are called

Asking a driver about a device touches the device, so it matters which calls are made, and that no
others are.

* **One driver** (`attempt`) that is to mount a device is asked whether it recognises the device; if
  it does and there is a name to mount under, it is told to mount, once.
* **Mounts** (`MountCalls`) that choose their driver ask the drivers in order up to the first that
  recognises the device, and then it is for that one to mount it: it is asked again, and may answer
  otherwise.
* **Boot scans** (`ScanCalls`) visit the lines of `/dev` in order, each as it is when its turn comes
  (`Tour`), and make the calls of a mount for those that lead to character devices.  The first
  success is the end.
* **Firm drivers** (`DriverModel.Firm`) answer by the device alone.  What they have recognised they
  do not refuse (`MountTable.mount_ne_driverRefuses`).
* All together: `MountTable.calls_of_mounts_and_scans`. -/

namespace VolumeService

open Session (driverCalls)

variable {σ : Type}

/-! ### What a mount calls -/

/-- Questions about a device that all get the same answer. -/
def asked (device : NodeId) (answer : Bool) (drivers : List DriverHandle) : List Call :=
  drivers.map fun driver => .identify driver device answer

/-- The calls of a driver that is to mount a device: it is asked whether it recognises the device,
and, if it does and there is a name to mount under, told to mount. -/
def attempt (driver : DriverHandle) (device : NodeId) (answer : Bool) (name? : Option String) :
    List Call :=
  .identify driver device answer ::
    if answer then (name?.map fun name => Call.mount driver device name).toList else []

/-- The calls of a mount that chooses its driver.  All drivers are asked in order and none
recognises the device; or one does, no driver behind it is asked, and it is to mount the device. -/
inductive MountCalls (drivers : List DriverHandle) (device : NodeId) (name? : Option String) :
    List Call → Prop where
  | unrecognised : MountCalls drivers device name? (asked device false drivers)
  | recognised {before after : List DriverHandle} {driver : DriverHandle} (answer : Bool)
      (hsplit : drivers = before ++ driver :: after) :
      MountCalls drivers device name?
        (asked device false before ++ .identify driver device true ::
          attempt driver device answer name?)

namespace MountTable

/-- The name that a driver is told to mount under: the one given, if it is short enough, or the next
made-up one. -/
def nameFor (t : MountTable) (name? : Option String) : Option String :=
  (t.claimName name?).map Prod.fst

theorem nameFor_eq_none {t : MountTable} {name? : Option String} (h : t.claimName name? = none) :
    t.nameFor name? = none := by
  rw [nameFor, h]
  rfl

theorem nameFor_of_claimName {t t' : MountTable} {name? : Option String} {name : String}
    (h : t.claimName name? = some (name, t')) : t.nameFor name? = some name := by
  rw [nameFor, h]
  rfl

/-- There is a name to mount under exactly if none is given or a short one is. -/
theorem isSome_nameFor (t : MountTable) (name? : Option String) :
    (t.nameFor name?).isSome = true ↔ ∀ name, name? = some name → Name.size name < maxNameSize := by
  cases name? with
  | none => simp [nameFor, claimName]
  | some name => by_cases hname : Name.size name < maxNameSize <;> simp [nameFor, claimName, hname]

end MountTable

/-- How a search for a driver ends: no driver recognises the device, or one does, and those behind
it are not asked. -/
theorem World.identifyFirst_calls [DriverModel σ] {own : CellId → σ → Prop}
    (hown : DriverModel.Keeps Graph.Stable own) {ds : List DriverHandle} {g : Graph} {w : World σ}
    (h : w.Ready ds g.Stable own) {drivers : List DriverHandle}
    (hdrivers : ∀ driver ∈ drivers, driver ∈ ds) {device : NodeId}
    (hdevice : w.graph.has device = true) :
    (∃ w₁, w.identifyFirst device drivers = (none, w₁) ∧
      w.Calls ds (asked device false drivers) w₁) ∨
    ∃ before driver after w₁, drivers = before ++ driver :: after ∧
      w.identifyFirst device drivers = (some driver, w₁) ∧
      w.Calls ds (asked device false before ++ [.identify driver device true]) w₁ := by
  induction drivers generalizing w with
  | nil => exact .inl ⟨w, rfl, .refl⟩
  | cons driver rest ih =>
      have hdriver := hdrivers driver (List.mem_cons_self ..)
      have hrest := fun other hmem => hdrivers other (List.mem_cons_of_mem _ hmem)
      have hcall := World.calls_identify hdriver hdevice
      obtain ⟨hready, hstable, _⟩ := h.identify_stable hown hdriver device
      cases hanswer : (w.identify driver device).1 with
      | true =>
          rw [hanswer] at hcall
          exact .inr ⟨[], driver, rest, _, rfl, identifyFirst_of_true hanswer rest, hcall⟩
      | false =>
          rw [hanswer] at hcall
          rw [identifyFirst_of_false hanswer]
          rcases ih hready hrest (hstable.has hdevice) with
            ⟨w₁, he, hcalls⟩ | ⟨before, found, after, w₁, hsplit, he, hcalls⟩
          · exact .inl ⟨w₁, he, hcall.trans hcalls⟩
          · refine .inr ⟨driver :: before, found, after, w₁, ?_, he, hcall.trans hcalls⟩
            rw [hsplit, List.cons_append]

namespace MountTable

variable [DriverModel σ] {own : CellId → σ → Prop} {ds : List DriverHandle} {g : Graph}
  {w w₁ : World σ} {calls : List Call} {device : NodeId} {driver : DriverHandle}

/-- A driver is told to mount once, and nothing that is done with its answer is a call. -/
theorem build_calls (t : MountTable) (hcalls : w.Calls ds calls w₁) (hdriver : driver ∈ ds)
    (hdevice : w₁.graph.has device = true) (name : String) :
    w.Calls ds (calls ++ [.mount driver device name]) (t.build w₁ device driver name).2.2 := by
  have hmount := hcalls.mount hdriver hdevice name
  rw [build]
  generalize w₁.mountVia driver device name = call at hmount ⊢
  obtain ⟨answer, w₂⟩ := call
  cases answer with
  | error cause => exact hmount.idle (w₂.idle_notify _)
  | ok volume =>
      by_cases hvolume : volume.name = name
      · dsimp only
        rw [adopt_of_name_eq t w₂ device driver hvolume]
        exact hmount.idle (World.idle_afterMount t w₂ device volume)
      · dsimp only
        rw [adopt_of_name_ne t w₂ device driver hvolume]
        exact hmount.idle (w₂.idle_notify _)

theorem mountUsing_calls_of_not_isDevice (t : MountTable)
    (hdevice : w.graph.isDevice device = false) (driver : DriverHandle) (name? : Option String) :
    w.Calls ds [] (t.mountUsing w device driver name?).2.2 := by
  rw [mountUsing, hdevice]
  exact .idle .refl (w.idle_notify _)

/-- A mount with a given driver calls that driver, as far as its answer and the name let it. -/
theorem mountUsing_calls (hown : DriverModel.Keeps Graph.Stable own) (t : MountTable)
    (h : w.Ready ds g.Stable own) (hdriver : driver ∈ ds) (hdevice : w.graph.isDevice device = true)
    (name? : Option String) :
    w.Calls ds (attempt driver device (w.identify driver device).1 (t.nameFor name?))
      (t.mountUsing w device driver name?).2.2 := by
  have hcall := World.calls_identify hdriver (Graph.has_of_isDevice hdevice)
  have hstable := (h.identify_stable hown hdriver device).2.1
  unfold mountUsing
  rw [if_pos hdevice]
  generalize w.identify driver device = call at hcall hstable ⊢
  obtain ⟨answer, w₁⟩ := call
  cases answer with
  | false => exact hcall.idle (w₁.idle_notify _)
  | true =>
      dsimp only
      split
      next hnone =>
        rw [nameFor_eq_none hnone]
        exact hcall.idle (w₁.idle_notify _)
      next name t' hname =>
        rw [nameFor_of_claimName hname]
        exact build_calls t' hcall hdriver (hstable.has (Graph.has_of_isDevice hdevice)) name

/-- A driver found by a search is to mount the device. -/
theorem found_calls (hown : DriverModel.Keeps Graph.Stable own) (t : MountTable)
    (h : w.Ready ds g.Stable own) {before : List DriverHandle} (hdriver : driver ∈ ds)
    (hdevice : w.graph.isDevice device = true)
    (hcalls : w.Calls ds (asked device false before ++ [.identify driver device true]) w₁)
    (name? : Option String) :
    ∃ answer, w.Calls ds (asked device false before ++ .identify driver device true ::
        attempt driver device answer (t.nameFor name?))
      (t.mountUsing w₁ device driver name?).2.2 := by
  have hkind := (hcalls.stable hown h).isDevice hdevice
  have hmount := mountUsing_calls hown t (hcalls.ready hown h) hdriver hkind name?
  have hall := hcalls.trans hmount
  rw [List.append_assoc] at hall
  exact ⟨_, hall⟩

theorem mount_calls_of_not_isDevice (t : MountTable) (hdevice : w.graph.isDevice device = false)
    (name? : Option String) : w.Calls ds [] (t.mount w device name?).2.2 := by
  rw [mount, hdevice]
  exact .idle .refl (w.idle_notify _)

theorem mount_calls (hown : DriverModel.Keeps Graph.Stable own) (t : MountTable)
    (h : w.Ready ds g.Stable own) (hds : ∀ driver ∈ t.drivers.drivers, driver ∈ ds)
    (hdevice : w.graph.isDevice device = true) (name? : Option String) :
    ∃ calls, MountCalls t.drivers.drivers device (t.nameFor name?) calls ∧
      w.Calls ds calls (t.mount w device name?).2.2 := by
  unfold mount
  rw [if_pos hdevice]
  rcases World.identifyFirst_calls hown h hds (Graph.has_of_isDevice hdevice) with
    ⟨w₁, he, hcalls⟩ | ⟨before, driver, after, w₁, hsplit, he, hcalls⟩
  · rw [he]
    exact ⟨_, .unrecognised, hcalls.idle (w₁.idle_notify _)⟩
  · rw [he]
    have hdriver := hds driver (hsplit ▸ List.mem_append_cons_self)
    obtain ⟨answer, hall⟩ := found_calls hown t h hdriver hdevice hcalls name?
    exact ⟨_, .recognised answer hsplit, hall⟩

end MountTable

/-! ### What a boot scan calls -/

/-- The character device that a line of a directory leads to. -/
def Namespace.device? (g : Graph) (dir : NodeId) (line : String) : Option NodeId :=
  (child? g dir line).filter g.isDevice

/-- The line of `/dev` that a scan reads after `n` others.  Positions are machine words. -/
def lineAfter (g : Graph) (dev : NodeId) (n : Nat) : Option Line :=
  Namespace.line? g dev (UInt64.ofNat n).toNat

/-- The calls for a line of `/dev`: those of a mount as the system volume if it leads to a character
device, and none otherwise. -/
inductive VisitCalls (g : Graph) (dev : NodeId) (drivers : List DriverHandle) (line : String) :
    List Call → Prop where
  | passed (hline : Namespace.device? g dev line = none) : VisitCalls g dev drivers line []
  | tried {device : NodeId} {calls : List Call} (hline : Namespace.device? g dev line = some device)
      (hcalls : MountCalls drivers device (some systemName) calls) :
      VisitCalls g dev drivers line calls

namespace MountTable

variable [DriverModel σ]

/-- The first `n` lines of `/dev` were visited in vain, each as it was when its turn came, with
these calls. -/
inductive Tour (ds : List DriverHandle) (t : MountTable) (dev : NodeId) (w : World σ) :
    Nat → List Call → World σ → Prop where
  | start : Tour ds t dev w 0 [] w
  | visit {n : Nat} {calls more : List Call} {w₁ w₂ : World σ} {line : Line}
      (h : Tour ds t dev w n calls w₁) (hline : lineAfter w₁.graph dev n = some line)
      (hmore : VisitCalls w₁.graph dev t.drivers.drivers line.name more)
      (hcalls : w₁.Calls ds more w₂)
      (hvain : t.trySystem (w₁.notify (.scanVisits (UInt64.ofNat n).toNat line.name)) dev
        line.name = (none, t, w₂)) :
      Tour ds t dev w (n + 1) (calls ++ more) w₂

/-- The calls of a scan of `/dev`: after lines that are visited in vain the limit is reached, or
there are no more lines, or a line leads to a device that is mounted, and then no more lines are
visited. -/
inductive ScanCalls (ds : List DriverHandle) (t : MountTable) (dev : NodeId) (w : World σ)
    (limit : Nat) : Option (Except ServiceError VolumeHandle) → List Call → Prop where
  | unfinished {calls : List Call} {w₁ : World σ} (tour : Tour ds t dev w limit calls w₁) :
      ScanCalls ds t dev w limit none calls
  | fruitless {n : Nat} {calls : List Call} {w₁ : World σ} (tour : Tour ds t dev w n calls w₁)
      (hend : lineAfter w₁.graph dev n = none) :
      ScanCalls ds t dev w limit (some (.error .noSystemDevice)) calls
  | mounted {n : Nat} {calls more : List Call} {w₁ : World σ} {line : Line} {device : NodeId}
      {v : VolumeHandle} (tour : Tour ds t dev w n calls w₁)
      (hline : lineAfter w₁.graph dev n = some line)
      (hdevice : Namespace.device? w₁.graph dev line.name = some device)
      (hmore : MountCalls t.drivers.drivers device (some systemName) more) :
      ScanCalls ds t dev w limit (some (.ok v)) (calls ++ more)

variable {own : CellId → σ → Prop} {ds : List DriverHandle} {g : Graph} {t : MountTable}
  {w w₁ : World σ} {calls : List Call} {dev : NodeId}

theorem Tour.made {n : Nat} (h : Tour ds t dev w n calls w₁) : w.Calls ds calls w₁ := by
  induction h with
  | start => exact .refl
  | visit _ _ _ hcalls _ ih => exact ih.trans hcalls

/-- A line of `/dev` is passed over, or the device that it leads to is mounted like any other. -/
theorem trySystem_calls (hown : DriverModel.Keeps Graph.Stable own) (h : w.Ready ds g.Stable own)
    (hds : ∀ driver ∈ t.drivers.drivers, driver ∈ ds) (dev : NodeId) (line : String) :
    (Namespace.device? w.graph dev line = none ∧ t.trySystem w dev line = (none, t, w)) ∨
    ∃ device calls, Namespace.device? w.graph dev line = some device ∧
      MountCalls t.drivers.drivers device (some systemName) calls ∧
      w.Calls ds calls (t.trySystem w dev line).2.2 := by
  rw [trySystem, Namespace.device?]
  cases hchild : Namespace.child? w.graph dev line with
  | none => exact .inl ⟨rfl, rfl⟩
  | some device =>
      dsimp only
      by_cases hdevice : w.graph.isDevice device = true
      · rw [if_pos hdevice, Option.filter_some_pos hdevice]
        refine .inr ⟨device, ?_⟩
        rcases World.identifyFirst_calls hown h hds (Graph.has_of_isDevice hdevice) with
          ⟨w₁, he, hcalls⟩ | ⟨before, driver, after, w₁, hsplit, he, hcalls⟩
        · rw [he]
          exact ⟨_, rfl, .unrecognised, hcalls⟩
        · rw [he]
          have hdriver := hds driver (hsplit ▸ List.mem_append_cons_self)
          obtain ⟨answer, hall⟩ :=
            found_calls hown t h hdriver hdevice hcalls (some systemName)
          exact ⟨_, rfl, .recognised answer hsplit, hall⟩
      · rw [if_neg hdevice, Option.filter_some_neg (eq_false_of_ne_true hdevice)]
        exact .inl ⟨rfl, rfl⟩

/-- A visit of a line ends in vain and leaves the table alone, or it brings a volume. -/
theorem trySystem_visit (hown : DriverModel.Keeps Graph.Stable own) (h : w.Ready ds g.Stable own)
    (hds : ∀ driver ∈ t.drivers.drivers, driver ∈ ds) (dev : NodeId) (line : String) :
    (∃ w₁ calls, t.trySystem w dev line = (none, t, w₁) ∧
      VisitCalls w.graph dev t.drivers.drivers line calls ∧ w.Calls ds calls w₁) ∨
    ∃ v t' w₁ device calls, t.trySystem w dev line = (some v, t', w₁) ∧
      Namespace.device? w.graph dev line = some device ∧
      MountCalls t.drivers.drivers device (some systemName) calls ∧ w.Calls ds calls w₁ := by
  rcases trySystem_calls hown h hds dev line with
    ⟨hdevice, he⟩ | ⟨device, calls, hdevice, hmount, hcalls⟩
  · exact .inl ⟨w, [], he, .passed hdevice, .refl⟩
  · rcases t.trySystem_cases w dev line with ⟨w₁, _, he⟩ | ⟨_, w₁, _, volume, _, _, _, _, he⟩
    · rw [he] at hcalls
      exact .inl ⟨w₁, calls, he, .tried hdevice hmount, hcalls⟩
    · rw [he] at hcalls
      exact .inr ⟨_, _, _, device, calls, he, hdevice, hmount, hcalls⟩

/-- A scan that goes on after some lines visits more lines, up to the first success. -/
theorem scan_calls (hown : DriverModel.Keeps Graph.Stable own) (h : w.Ready ds g.Stable own)
    (hds : ∀ driver ∈ t.drivers.drivers, driver ∈ ds) {n : Nat} (tour : Tour ds t dev w n calls w₁)
    (limit : Nat) :
    ∃ all, ScanCalls ds t dev w (n + limit) (scan dev limit ⟨UInt64.ofNat n⟩ t w₁).1 all ∧
      w.Calls ds all (scan dev limit ⟨UInt64.ofNat n⟩ t w₁).2.2 := by
  induction limit generalizing n calls w₁ with
  | zero => exact ⟨calls, .unfinished tour, tour.made⟩
  | succ limit ih =>
      rw [scan, Cursor.next?]
      cases hline : Namespace.line? w₁.graph dev (UInt64.ofNat n).toNat with
      | none => exact ⟨calls, .fruitless tour hline, tour.made.idle (w₁.idle_notify _)⟩
      | some line =>
          have hready := tour.made.ready hown h
          have hvisit := w₁.idle_notify (.scanVisits (UInt64.ofNat n).toNat line.name)
          have hnext : UInt64.ofNat n + 1 = UInt64.ofNat (n + 1) := (UInt64.ofNat_add n 1).symm
          dsimp only [Option.map_some]
          rcases trySystem_visit hown (hready.of_drivers_eq hvisit.drivers hready.fit) hds dev
            line.name with
            ⟨w₂, more, he, hmore, hcalls⟩ | ⟨v, t', w₂, device, more, he, hdevice, hmore, hcalls⟩
          · have tour' := tour.visit hline hmore ((World.Calls.idle .refl hvisit).trans hcalls) he
            rw [he, hnext, ← Nat.succ_add_eq_add_succ]
            exact ih tour'
          · have hall := (tour.made.idle hvisit).trans hcalls
            rw [he]
            exact ⟨calls ++ more, .mounted tour hline hdevice hmore,
              hall.idle (World.idle_setSystem ..)⟩

end MountTable

/-! ### Drivers that do not change their minds -/

/-- On graphs that are `fit`, whether a driver in a state of `own` recognises a device is up to the
driver and the device alone. -/
def DriverModel.Firm [DriverModel σ] (fit : Graph → Prop) (own : CellId → σ → Prop)
    (recognises : CellId → NodeId → Bool) : Prop :=
  ∀ {cell : CellId} {state : σ} {g : Graph} (device : NodeId), own cell state → fit g →
    own cell (DriverModel.identify state g device).2.1 ∧
      fit (DriverModel.identify state g device).2.2 ∧
      (DriverModel.identify state g device).1 = recognises cell device

section Firm

variable [DriverModel σ] {fit : Graph → Prop} {own : CellId → σ → Prop}
  {recognises : CellId → NodeId → Bool} {ds : List DriverHandle} {w w₁ : World σ}

theorem World.Ready.identify_firm (hfirm : DriverModel.Firm fit own recognises)
    (h : w.Ready ds fit own) {driver : DriverHandle} (hdriver : driver ∈ ds) (device : NodeId) :
    (w.identify driver device).2.Ready ds fit own ∧
      (w.identify driver device).1 = recognises driver.cell device :=
  h.identify (P := (· = recognises driver.cell device)) hdriver device
    fun _ hown => hfirm device hown h.fit

/-- A driver found by a search recognises the device, and would do so again. -/
theorem World.Ready.identifyFirst_firm (hfirm : DriverModel.Firm fit own recognises)
    (h : w.Ready ds fit own) {drivers : List DriverHandle} (hdrivers : ∀ d ∈ drivers, d ∈ ds)
    {device : NodeId} {driver : DriverHandle}
    (hfound : w.identifyFirst device drivers = (some driver, w₁)) :
    w₁.Ready ds fit own ∧ recognises driver.cell device = true := by
  induction drivers generalizing w with
  | nil => cases hfound
  | cons first rest ih =>
      have hmem := hdrivers first (List.mem_cons_self ..)
      obtain ⟨hready, hanswer⟩ := h.identify_firm hfirm hmem device
      cases hfirst : (w.identify first device).1 with
      | true =>
          rw [World.identifyFirst_of_true hfirst] at hfound
          obtain ⟨hsame, rfl⟩ := Prod.mk.inj hfound
          obtain rfl := Option.some.inj hsame
          exact ⟨hready, hanswer.symm.trans hfirst⟩
      | false =>
          rw [World.identifyFirst_of_false hfirst] at hfound
          exact ih hready (fun d hmem => hdrivers d (List.mem_cons_of_mem _ hmem)) hfound

end Firm

namespace MountTable

variable [DriverModel σ] {own : CellId → σ → Prop} {ds : List DriverHandle} {t : MountTable}
  {w : World σ} {device : NodeId} {driver : DriverHandle}

/-- Only a driver that does not recognise the device refuses it. -/
theorem mountUsing_ne_driverRefuses (hanswer : (w.identify driver device).1 = true)
    (name? : Option String) :
    (t.mountUsing w device driver name?).1 ≠ .error .driverRefuses := by
  unfold mountUsing
  split
  next =>
    split
    next he =>
      rw [he] at hanswer
      cases hanswer
    next w₁ _ =>
      split
      next => exact fun h => nomatch h
      next name t' _ =>
        rcases t'.build_cases w₁ device (List.mem_singleton_self driver) name with
          ⟨_, _, _, _, he⟩ | ⟨_, _, _, he⟩
        · rw [he]
          exact fun h => nomatch h
        · rw [he]
          exact fun h => nomatch h
  next => exact fun h => nomatch h

/-- Drivers that do not change their minds do not refuse what they have recognised. -/
theorem mount_ne_driverRefuses {fit : Graph → Prop} {recognises : CellId → NodeId → Bool}
    (hfirm : DriverModel.Firm fit own recognises) (h : w.Ready t.drivers.drivers fit own)
    (device : NodeId) (name? : Option String) :
    (t.mount w device name?).1 ≠ .error .driverRefuses := by
  unfold mount
  split
  next =>
    split
    next => exact fun h => nomatch h
    next driver w₁ hfound =>
      obtain ⟨hready, hrecognises⟩ := h.identifyFirst_firm hfirm (fun _ hmem => hmem) hfound
      have hdriver := World.mem_of_identifyFirst (congrArg Prod.fst hfound)
      have hagain := (hready.identify_firm hfirm hdriver device).2
      exact mountUsing_ne_driverRefuses (hagain.trans hrecognises) name?
  next => exact fun h => nomatch h

end MountTable

/-! ### All calls -/

/-- Between `w` and `w'` the drivers of `ds` were called as listed: that is what they went through,
and that is what the trace shows. -/
structure World.Called [DriverModel σ] (ds : List DriverHandle) (w : World σ) (calls : List Call)
    (w' : World σ) : Prop where
  made : w.Calls ds calls w'
  seen : driverCalls w'.trace = driverCalls w.trace ++ calls.map (Call.event w'.graph)

namespace MountTable

variable [DriverModel σ]

/-- The calls of drivers, whatever they answer, as long as nodes keep their names and kinds.  A
mount of what is no character device makes none.  A mount that chooses its driver asks the drivers
in order up to the first that recognises the device, and that one has to mount it; a mount with a
given driver calls no other.  A driver that has to mount is asked once (more), and is told to mount
if it recognises the device and the name is not too long.  A boot scan makes the calls of a mount
for each line of `/dev` that leads to a character device, in order, and none after the first
success.  Drivers that do not change their minds do not refuse what they have recognised. -/
theorem calls_of_mounts_and_scans {own : CellId → σ → Prop}
    (hown : DriverModel.Keeps Graph.Stable own) (t : MountTable) (w : World σ)
    {ds : List DriverHandle} (hds : ∀ driver ∈ t.drivers.drivers, driver ∈ ds)
    (h : w.Ready ds w.graph.Stable own) :
    (∀ device name?,
      let after := (t.mount w device name?).2.2
      (w.graph.isDevice device = false → w.Called ds [] after) ∧
      (w.graph.isDevice device = true → ∃ calls,
        MountCalls t.drivers.drivers device (t.nameFor name?) calls ∧ w.Called ds calls after)) ∧
    (∀ device, ∀ driver ∈ ds, ∀ name?,
      let after := (t.mountUsing w device driver name?).2.2
      (w.graph.isDevice device = false → w.Called ds [] after) ∧
      (w.graph.isDevice device = true → ∃ answer,
        w.Called ds (attempt driver device answer (t.nameFor name?)) after)) ∧
    (∀ name?, (t.nameFor name?).isSome = true ↔
      ∀ name, name? = some name → Name.size name < maxNameSize) ∧
    (∀ limit, t.system = none →
      let after := t.bootScan w limit
      (∀ cause, Namespace.resolve w.graph t.root devicePath = .error cause →
        w.Called ds [] after.2.2) ∧
      ∀ dev, Namespace.resolve w.graph t.root devicePath = .ok dev → ∃ calls,
        ScanCalls ds t dev w limit after.1 calls ∧ w.Called ds calls after.2.2) ∧
    ∀ fit own' recognises, DriverModel.Firm fit own' recognises →
      w.Ready t.drivers.drivers fit own' → ∀ device name?,
        (t.mount w device name?).1 ≠ .error .driverRefuses := by
  have hcalled : ∀ {calls w'}, w.Calls ds calls w' → w.Called ds calls w' :=
    fun hcalls => ⟨hcalls, (hcalls.seen hown h).2⟩
  refine ⟨fun device name? => ⟨fun hdevice => ?_, fun hdevice => ?_⟩,
    fun device driver hdriver name? => ⟨fun hdevice => ?_, fun hdevice => ?_⟩,
    t.isSome_nameFor, fun limit hsystem => ⟨fun cause hdev => ?_, fun dev hdev => ?_⟩,
    fun fit own' recognises hfirm hready device name? =>
      mount_ne_driverRefuses hfirm hready device name?⟩
  · exact hcalled (t.mount_calls_of_not_isDevice hdevice name?)
  · obtain ⟨calls, hshape, hcalls⟩ := mount_calls hown t h hds hdevice name?
    exact ⟨calls, hshape, hcalled hcalls⟩
  · exact hcalled (t.mountUsing_calls_of_not_isDevice hdevice driver name?)
  · exact ⟨_, hcalled (mountUsing_calls hown t h hdriver hdevice name?)⟩
  · refine hcalled ?_
    rw [bootScan, hsystem]
    dsimp only
    rw [hdev]
    exact .idle .refl (w.idle_notify _)
  · have tour : Tour ds t dev w 0 [] w := .start
    obtain ⟨calls, hshape, hcalls⟩ := scan_calls hown h hds tour limit
    have hscan : t.bootScan w limit = scan dev limit .start t w := by
      rw [bootScan, hsystem]
      dsimp only
      rw [hdev]
    rw [Nat.zero_add] at hshape
    rw [hscan]
    exact ⟨calls, hshape, hcalled hcalls⟩

end MountTable

/-! ### A driver that changes its mind -/

namespace CallExample

/-- A root, a device, a driver that recognises nothing and one that recognises the device once. -/
def world : World ScriptedDriver where
  graph := (Graph.empty.push (.newDirectory "/")).push (.newImage "disk" [])
  drivers := (Store.empty.push { format := "ext", identify := .never, mount := .directory }).push
    { format := "fat", identify := .answers [true, false], mount := .directory }

def ext : DriverHandle := ⟨"ext", ⟨0⟩⟩

def fat : DriverHandle := ⟨"fat", ⟨1⟩⟩

def table : MountTable := .create ⟨0⟩ ⟨[ext, fat]⟩

/-- The second driver is asked again, and never told to mount. -/
theorem second_thoughts_prevent_mount :
    (∃ calls, MountCalls [ext, fat] ⟨1⟩ (some "volume0") calls ∧
      world.Called [ext, fat] calls (table.mount world ⟨1⟩ none).2.2) ∧
    (table.mount world ⟨1⟩ none).1 = .error .driverRefuses ∧
    driverCalls (table.mount world ⟨1⟩ none).2.2.trace =
      [.identify "ext" "disk" false, .identify "fat" "disk" true,
        .identify "fat" "disk" false] := by
  have hhouses : world.Houses [ext, fat] fun _ d => d.Quiet := by
    intro driver hmem state hstate
    rcases List.mem_cons.1 hmem with rfl | hmem
    · obtain rfl := Option.some.inj hstate
      rfl
    · obtain rfl := List.mem_singleton.1 hmem
      obtain rfl := Option.some.inj hstate
      rfl
  have hready : world.Ready [ext, fat] world.graph.Stable fun _ d => d.Quiet :=
    ⟨hhouses, by decide, .refl _⟩
  have hcalls := MountTable.calls_of_mounts_and_scans ScriptedDriver.confined_quiet.keeps_stable
    table world (fun _ hmem => hmem) hready
  exact ⟨(hcalls.1 ⟨1⟩ none).2 rfl, rfl, rfl⟩

end CallExample

end VolumeService
