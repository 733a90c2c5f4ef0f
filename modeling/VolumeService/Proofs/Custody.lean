import VolumeService.Proofs.Places
import VolumeService.Proofs.SystemSlot

/-! # Who holds the handles of a system

Handles to shared volumes are in three places: in the lists of mount tables, in their system slots,
and with callers.  A *custody* follows a system through any number of moves and keeps track of the
handles that callers have.

* **Callers** (`Custody.held`) get handles with replies and share volumes of their own; they clone
  and drop the handles that they have, and no others (`Custody.step`).
* **Balance** (`Custody.Balanced`).  The count of a volume is the number of handles that callers
  have and of those that tables keep.  A move changes one table at most, and what that loses or
  gains, the counts and the callers lose or gain (`Custody.turn_step`).
* **Unmounting** (`Custody.handles_in_three_places`).  So the number of handles that an unmount
  warns of is the number of those that callers have. -/

namespace VolumeService

open VolumeHandle (copies)

variable {σ : Type}

/-! ### Custodies -/

/-- A census with the handles that callers have. -/
structure Custody (σ : Type) where
  census : Census σ := {}
  held : List CellId := []

abbrev Custody.system (c : Custody σ) : System σ := c.census.system

abbrev Custody.world (c : Custody σ) : World σ := c.system.world

variable [DriverModel σ]

/-- The handles that a request to a target gives to the caller. -/
def System.given (s : System σ) (target : Target) (request : Request) : List CellId :=
  match s.request target request with
  | some (.value reply, _) => reply.handles.map VolumeHandle.cell
  | _ => []

theorem System.given_of_value {s s' : System σ} {target : Target} {request : Request}
    {reply : Reply} (h : s.request target request = some (.value reply, s')) :
    s.given target request = reply.handles.map VolumeHandle.cell := by
  rw [given, h]

/-- Without an answer the caller gets nothing. -/
theorem System.given_of_not_value {s : System σ} {target : Target} {request : Request}
    (h : ∀ reply s', s.request target request ≠ some (.value reply, s')) :
    s.given target request = [] := by
  unfold given
  split
  next reply s' he => exact absurd he (h reply s')
  next => rfl

namespace Custody

/-- The custody after one more move.  Callers clone and drop no handles but their own. -/
def step (c : Custody σ) (move : System.Move σ) : Custody σ :=
  let census := c.census.step move
  match move with
  | .deed (.retain v) => if v.cell ∈ c.held then ⟨census, c.held ++ [v.cell]⟩ else c
  | .deed (.release v) => if v.cell ∈ c.held then ⟨census, c.held.erase v.cell⟩ else c
  | .deed .share => ⟨census, c.held ++ [⟨c.world.cells.next⟩]⟩
  | .ask target request => ⟨census, c.held ++ c.system.given target request⟩
  | _ => { c with census }

def run (c : Custody σ) (moves : List (System.Move σ)) : Custody σ := moves.foldl step c

/-- The handles to each volume are those of callers and those that the tables keep. -/
def Balanced (c : Custody σ) : Prop :=
  ∀ v, c.world.handlesOf v = c.held.count v.cell + c.system.keeps v

/-- What one move does to tables and counts. -/
inductive Turn (c c' : Custody σ) : Prop where
  /-- No list and no slot changes, and the counts change along with the handles of callers. -/
  | still (hnext : c.world.cells.next ≤ c'.world.cells.next)
      (hvolumes : c'.system.volumesOf = c.system.volumesOf)
      (hslot : c'.system.slotOf = c.system.slotOf) (hstrays : c'.census.strays = c.census.strays)
      (hcounts : ∀ v, c'.world.handlesOf v + c.held.count v.cell =
        c.world.handlesOf v + c'.held.count v.cell)
  /-- A table answered a request, and callers have what it gave out. -/
  | asked {target : Target} {t t' : MountTable} {entered left : Option VolumeHandle}
      {given : List VolumeHandle} (hchange : Change t c.world t' c'.world entered left)
      (hsystem : t'.system = t.system ∨ t'.system = entered)
      (haccounts : t.Accounts c.world given t' c'.world)
      (ht : c.system.tableOf target = some t) (ht' : c'.system.tableOf target = some t')
      (hother : ∀ other, other ≠ target → c'.system.tableOf other = c.system.tableOf other)
      (hstrays : c'.census.strays = c.census.strays)
      (hheld : c'.held = c.held ++ given.map VolumeHandle.cell)
  /-- A table was closed and dropped what it kept. -/
  | closed {target : Target} {t : MountTable} (hnext : c.world.cells.next ≤ c'.world.cells.next)
      (hcounts : ∀ v, c'.world.handlesOf v + t.keeps v = c.world.handlesOf v)
      (ht : c.system.tableOf target = some t) (ht' : c'.system.tableOf target = none)
      (hother : ∀ other, other ≠ target → c'.system.tableOf other = c.system.tableOf other)
      (hstrays : c'.census.strays = c.census.strays ++ t.volumes) (hheld : c'.held = c.held)

/-- Lists, slots and counts of a custody belong together. -/
structure Sound (c : Custody σ) : Prop where
  census : c.census.Sound
  slots : Slots.Sound c.census
  balanced : c.Balanced

namespace Sound

variable {c : Custody σ}

section places

omit [DriverModel σ]

/-- A table keeps no more handles than there are, and callers have the others or some of them. -/
theorem keeps_le (h : c.Sound) {target : Target} {t : MountTable}
    (ht : c.system.tableOf target = some t) (v : VolumeHandle) :
    c.held.count v.cell + t.keeps v ≤ c.world.handlesOf v := by
  have hle : c.system.keptBy target v ≤ c.system.keeps v :=
    h.slots.keptBy_le_keeps h.census target v
  rw [System.keptBy_of_tableOf ht] at hle
  rw [h.balanced v]
  omega

theorem handlesOf_pos_of_held (h : c.Sound) {v : VolumeHandle} (hv : v.cell ∈ c.held) :
    0 < c.world.handlesOf v := by
  have hcount := List.count_pos_iff.2 hv
  rw [h.balanced v]
  omega

theorem live (h : c.Sound) {target : Target} {t : MountTable}
    (ht : c.system.tableOf target = some t) : t.Live c.world :=
  .of_keeps_le fun v => Nat.le_trans (Nat.le_add_left ..) (h.keeps_le ht v)

end places

end Sound

omit [DriverModel σ] in
/-- If the world stays and callers get nothing, the counts stay. -/
theorem still_of_world {c : Custody σ} {system : System σ} (hworld : system.world = c.world)
    (hvolumes : ∀ target, system.volumesOf target = c.system.volumesOf target)
    (hslot : ∀ target, system.slotOf target = c.system.slotOf target) :
    Turn c { c with census := { c.census with system } } :=
  .still (Nat.le_of_eq (congrArg (fun w => w.cells.next) hworld.symm)) (funext hvolumes)
    (funext hslot) rfl fun v => congrArg (fun w => w.handlesOf v + c.held.count v.cell) hworld

theorem turn_deed {c : Custody σ} (h : c.Sound) (deed : Deed σ) :
    Turn c (c.step (.deed deed)) := by
  have hnext : c.world.cells.next ≤ (deed.apply c.world).cells.next :=
    (Kept.of_deed (.create ⟨0⟩ ⟨[]⟩) c.world deed).cells
  cases deed with
  | retain v =>
      rw [step]
      split
      next hv =>
        refine .still hnext rfl rfl rfl fun u => ?_
        have hcount := World.handlesOf_retain (h.handlesOf_pos_of_held hv) u
        have hheld := VolumeHandle.count_append_cell c.held v u
        show (c.world.retain v).handlesOf u + c.held.count u.cell =
          c.world.handlesOf u + (c.held ++ [v.cell]).count u.cell
        omega
      next => exact .still (Nat.le_refl _) rfl rfl rfl fun _ => rfl
  | release v =>
      rw [step]
      split
      next hv =>
        refine .still hnext rfl rfl rfl fun u => ?_
        have hcount := World.handlesOf_release (h.handlesOf_pos_of_held hv) u
        have hheld := VolumeHandle.count_erase_cell hv u
        show (c.world.release v).handlesOf u + c.held.count u.cell =
          c.world.handlesOf u + (c.held.erase v.cell).count u.cell
        omega
      next => exact .still (Nat.le_refl _) rfl rfl rfl fun _ => rfl
  | share =>
      refine .still hnext rfl rfl rfl fun u => ?_
      -- the handle that the caller gets, whatever the facts of the volume
      let v := c.world.handleFor (.treeless "" "")
      have hcount : (c.world.share none).handlesOf u = _ :=
        c.world.handlesOf_share (.treeless "" "") none u
      have hheld : (c.held ++ [v.cell]).count u.cell = _ :=
        VolumeHandle.count_append_cell c.held v u
      show (c.world.share none).handlesOf u + _ =
        _ + (c.held ++ [v.cell]).count u.cell
      rw [hcount, hheld, Nat.add_right_comm, Nat.add_assoc]
  | setGraph graph => exact .still hnext rfl rfl rfl fun _ => rfl
  | setDrivers drivers => exact .still hnext rfl rfl rfl fun _ => rfl
  | setLog log => exact .still hnext rfl rfl rfl fun _ => rfl
  | report record => exact .still hnext rfl rfl rfl fun _ => rfl

theorem turn_ask {c : Custody σ} (h : c.Sound) (target : Target) (request : Request) :
    Turn c (c.step (.ask target request)) := by
  rw [step, Census.step]
  cases hrequest : c.system.request target request with
  | none =>
      have hgiven : c.system.given target request = [] :=
        System.given_of_not_value fun reply s' he => by
          rw [hrequest] at he
          cases he
      rw [hgiven, List.append_nil]
      exact still_of_world rfl (fun _ => rfl) fun _ => rfl
  | some result =>
      obtain ⟨outcome, system⟩ := result
      rcases System.request_cases hrequest with
        ⟨t, ht, ht', hworld, rfl, hother⟩ | ⟨hworld, hnone, hsame⟩
      · have hchange := Change.of_handle t c.world request
        have haccounts := MountTable.accounts_handle (h.live ht) request
        rw [← hworld] at hchange haccounts
        rw [System.given_of_value hrequest]
        exact .asked hchange (t.system_handle_eq _ request) haccounts ht ht' hother rfl rfl
      · -- without an answer nothing is given, and nothing changes
        have hgiven : c.system.given target request = [] :=
          System.given_of_not_value fun reply s' he => by
            rw [hrequest] at he
            exact hnone reply (congrArg Prod.fst (Option.some.inj he))
        rw [hgiven, List.append_nil]
        exact still_of_world hworld (fun other => System.volumesOf_congr (hsame other))
          fun other => System.slotOf_congr (hsame other)

theorem step_closeTable (c : Custody σ) (id : TableId) :
    c.step (.closeTable id) = { c with census := c.census.step (.closeTable id) } := rfl

theorem turn_close {c : Custody σ} (h : c.Sound) (id : TableId) :
    Turn c (c.step (.closeTable id)) := by
  cases ht : c.system.tableOf (.table id) with
  | none =>
      have hnone : c.system.table? id = none := ht
      have hsystem : c.system.closeTable id = c.system := by
        rw [System.closeTable, hnone]
      have hnothing : c.system.volumesOf (.table id) = [] := by
        rw [System.volumesOf, ht]
        rfl
      rw [step_closeTable, Census.step, hsystem, hnothing, List.append_nil]
      exact .still (Nat.le_refl _) rfl rfl rfl fun _ => rfl
  | some t =>
      have hsome : c.system.table? id = some t := ht
      have htables := c.system.tableOf_closeTable id
      refine .closed (Kept.of_closeTable (.create ⟨0⟩ ⟨[]⟩) c.system id).cells
        (fun v => ?_) ht ((htables _).trans (if_pos rfl))
        (fun other hne => (htables other).trans (if_neg hne)) ?_ rfl
      · have hrelease := MountTable.handlesOf_releaseAll
          (fun u => Nat.le_trans (Nat.le_add_left ..) (h.keeps_le ht u)) v
        rw [step_closeTable, Census.step, System.closeTable, hsome]
        exact hrelease
      · rw [step_closeTable, Census.step, System.volumesOf_eq ht]

/-- One move changes one table at most, and the counts along with what it and callers have. -/
theorem turn_step {c : Custody σ} (h : c.Sound) (move : System.Move σ) : Turn c (c.step move) := by
  cases move with
  | openTable root drivers =>
      have htables := c.system.tableOf_openTable root drivers
      exact still_of_world rfl (fun target => System.volumesOf_of_created (htables target))
        fun target => System.slotOf_of_created (htables target)
  | initService root drivers =>
      have htables := c.system.tableOf_initService root drivers
      exact still_of_world rfl (fun target => System.volumesOf_of_created (htables target))
        fun target => System.slotOf_of_created (htables target)
  | closeTable id => exact turn_close h id
  | ask target request => exact turn_ask h target request
  | deed deed => exact turn_deed h deed

theorem census_step (c : Custody σ) (move : System.Move σ) :
    (c.step move).census = c.census ∨ (c.step move).census = c.census.step move := by
  cases move with
  | deed deed =>
      cases deed with
      | retain v =>
          rw [step]
          split
          · exact .inr rfl
          · exact .inl rfl
      | release v =>
          rw [step]
          split
          · exact .inr rfl
          · exact .inl rfl
      | _ => exact .inr rfl
  | _ => exact .inr rfl

omit [DriverModel σ] in
/-- Slots keep their places along with the lists. -/
theorem Turn.slots {c c' : Custody σ} (hturn : Turn c c') (h : c.Sound) :
    Slots.Sound c'.census := by
  cases hturn with
  | still hnext hvolumes hslot hstrays _ =>
      have hroll : c'.census.roll = c.census.roll := by
        funext i
        cases i with
        | none => exact hstrays
        | some target => exact congrFun hvolumes target
      exact h.slots.shrunk hnext (fun target u hu => hslot ▸ hu) fun i u hu => hroll ▸ hu
  | @asked target t t' entered left given hchange hsystem _ ht ht' hother hstrays _ =>
      have hroll := Census.roll_eq_of_tableOf hother hstrays
      have hslot : ∀ other, ∀ u ∈ c'.system.slotOf other,
          u ∈ c.system.slotOf other ∨ other = target ∧ entered = some u := by
        intro other u hu
        by_cases he : other = target
        · rw [he, System.slotOf_eq ht'] at hu
          rcases hsystem with hsame | hnew
          · rw [hsame, ← System.slotOf_eq ht] at hu
            exact .inl (he ▸ hu)
          · rw [hnew] at hu
            exact .inr ⟨he, Option.mem_toList.1 hu⟩
        · exact .inl (System.slotOf_congr (hother other he) ▸ hu)
      have hold : c.census.roll (some target) = t.volumes := System.volumesOf_eq ht
      have hnew : c'.census.roll (some target) = t'.volumes := System.volumesOf_eq ht'
      cases hchange with
      | kept hkept =>
          refine h.slots.shrunk hkept.cells (fun other u hu => ?_) fun i u hu => ?_
          · exact (hslot other u hu).resolve_right fun hu => by cases hu.2
          · by_cases hi : i = some target
            · rwa [hi, hold, ← hkept.volumes, ← hnew, ← hi]
            · exact hroll i hi ▸ hu
      | @registered v hfresh hcells hvolumes _ _ =>
          refine h.slots.grown h.census target hfresh hcells (fun other u hu => ?_) fun i u hu => ?_
          · exact (hslot other u hu).imp_right fun hu => ⟨hu.1, (Option.some.inj hu.2).symm⟩
          · by_cases hi : i = some target
            · rw [hi, hnew, hvolumes, ← hold] at hu
              exact (List.mem_append.1 hu).imp (hi ▸ ·) fun hv => ⟨hi, List.mem_singleton.1 hv⟩
            · exact .inl (hroll i hi ▸ hu)
      | removed _ hvolumes _ hcells _ =>
          refine h.slots.shrunk hcells (fun other u hu => ?_) fun i u hu => ?_
          · exact (hslot other u hu).resolve_right fun hu => by cases hu.2
          · by_cases hi : i = some target
            · rw [hi, hnew, hvolumes, ← hold] at hu
              exact hi ▸ List.mem_of_mem_erase hu
            · exact hroll i hi ▸ hu
  | @closed target t hnext _ ht ht' hother hstrays _ =>
      have hempty : c'.system.slotOf target = [] := by
        rw [System.slotOf, ht']
        rfl
      refine h.slots.closed hnext hempty
        (fun other he => System.slotOf_congr (hother other he)) fun i u hu => ?_
      cases i with
      | none =>
          rw [Census.roll, hstrays, ← System.volumesOf_eq ht] at hu
          exact List.mem_append.1 hu
      | some other =>
          by_cases he : other = target
          · rw [he, Census.roll, System.volumesOf, ht'] at hu
            cases hu
          · rw [Census.roll, System.volumesOf, hother other he] at hu
            exact .inl hu

omit [DriverModel σ] in
/-- What a table gains or loses, and what callers do, is what the counts do. -/
theorem Turn.balanced {c c' : Custody σ} (hturn : Turn c c') (h : c.Sound)
    (hcensus : c'.census.Sound) (hslots : Slots.Sound c'.census) : c'.Balanced := by
  intro v
  have hbalanced := h.balanced v
  cases hturn with
  | still _ hvolumes hslot _ hcounts =>
      have hkeeps : c'.system.keeps v = c.system.keeps v := by
        rw [System.keeps_eq, System.keeps_eq, hvolumes, hslot]
      have := hcounts v
      omega
  | @asked target t t' _ _ given _ _ haccounts ht ht' hother _ hheld =>
      have hkeeps : c'.system.keeps v + c.system.keptBy target v =
          c.system.keeps v + c'.system.keptBy target v :=
        h.slots.keeps_change h.census hslots hcensus hother v
      rw [System.keptBy_of_tableOf ht, System.keptBy_of_tableOf ht'] at hkeeps
      have hcallers : c'.held.count v.cell = c.held.count v.cell + copies given v := by
        rw [hheld, List.count_append]
        rfl
      have := haccounts v
      omega
  | @closed target t _ hcounts ht ht' hother _ hheld =>
      have hkeeps : c'.system.keeps v + c.system.keptBy target v =
          c.system.keeps v + c'.system.keptBy target v :=
        h.slots.keeps_change h.census hslots hcensus hother v
      rw [System.keptBy_of_tableOf ht, System.keptBy_of_tableOf_eq_none ht'] at hkeeps
      have := hcounts v
      rw [hheld]
      omega

/-- A sound custody stays sound with every move. -/
theorem Sound.step {c : Custody σ} (h : c.Sound) (move : System.Move σ) : (c.step move).Sound := by
  have hturn := turn_step h move
  have hcensus : (c.step move).census.Sound := by
    rcases c.census_step move with he | he
    · exact he ▸ h.census
    · exact he ▸ h.census.step move
  have hslots := hturn.slots h
  exact ⟨hcensus, hslots, hturn.balanced h hcensus hslots⟩

theorem sound_run {c : Custody σ} (h : c.Sound) (moves : List (System.Move σ)) :
    (c.run moves).Sound := by
  induction moves generalizing c with
  | nil => exact h
  | cons move rest ih => exact ih (h.step move)

omit [DriverModel σ] in
/-- In the beginning there are no tables and no shared volumes. -/
theorem sound_empty : ({} : Custody σ).Sound := by
  have hnone : ∀ target, ({} : Custody σ).census.system.tableOf target = none := by
    intro target
    cases target with
    | service => rfl
    | table id => exact Store.get?_empty id.index
  have hslot : ∀ target, ({} : Custody σ).census.system.slotOf target = [] := by
    intro target
    rw [System.slotOf, hnone]
    rfl
  refine ⟨Census.sound_empty, ⟨?_, ?_, ?_⟩, fun v => ?_⟩
  · intro target v hv
    rw [hslot] at hv
    cases hv
  · intro target target' u v hu
    rw [hslot] at hu
    cases hu
  · intro target i u v hu
    rw [hslot] at hu
    cases hu
  · have hlists : ¬ ({} : Custody σ).census.system.Lists v := by
      rintro ⟨target, t, ht, _⟩
      rw [hnone] at ht
      cases ht
    have hslots : ¬ ({} : Custody σ).census.system.Slots v := by
      rintro ⟨target, t, ht, _⟩
      rw [hnone] at ht
      cases ht
    rw [System.keeps, if_neg hlists, if_neg hslots]
    exact World.handlesOf_of_next_le (Nat.zero_le _)

omit [DriverModel σ] in
/-- A listed volume has its list's handle, that of the slot of its table if it is in there, and
those of callers. -/
theorem Sound.handlesOf_listed {c : Custody σ} (h : c.Sound) {target : Target} {t : MountTable}
    (ht : c.system.tableOf target = some t) {v : VolumeHandle} (hv : v ∈ t.volumes) :
    c.world.handlesOf v =
      c.held.count v.cell + 1 + if t.isSystem v then 1 else 0 := by
  classical
  have hlists : c.system.Lists v := ⟨target, t, ht, v, hv, rfl⟩
  have hroll : v ∈ c.census.roll (some target) := by
    rw [Census.roll, System.volumesOf_eq ht]
    exact hv
  -- no other slot has the volume, since its slot is where it is listed
  have hslot : c.system.Slots v ↔ t.isSystem v = true := by
    rw [System.slots_iff]
    constructor
    · rintro ⟨other, u, hu, hsame⟩
      obtain rfl := Option.some.inj (h.slots.home other _ u v hu hroll hsame)
      rw [System.slotOf_eq ht] at hu
      rw [MountTable.isSystem, Option.mem_toList.1 hu]
      exact decide_eq_true hsame
    · intro hsystem
      unfold MountTable.isSystem at hsystem
      split at hsystem
      next u hu =>
        refine ⟨target, u, ?_, of_decide_eq_true hsystem⟩
        rw [System.slotOf_eq ht, hu]
        exact List.mem_singleton_self u
      next => cases hsystem
  rw [h.balanced v, System.keeps, if_pos hlists, if_congr hslot rfl rfl, Nat.add_assoc]

open Classical in
/-- In any history of a system whose callers clone and drop the handles that they have, the count
of a volume is the number of handles of callers, and one if a table lists it, and one if it is in
the slot of a table.

So an unmount that succeeds warns if callers have handles to the volume, and of as many as they
have; with the handle of the list and that of the slot these are all that there are.  The handle
that it answers is that of the list: no count changes, and with no other handle the count is
one. -/
theorem handles_in_three_places (moves : List (System.Move σ)) :
    let c := ({} : Custody σ).run moves
    let s := c.system
    (∀ v, s.world.handlesOf v =
      c.held.count v.cell + (if s.Lists v then 1 else 0) + if s.Slots v then 1 else 0) ∧
    ∀ target t name v s', s.tableOf target = some t →
      s.request target (.unmount name) = some (.value (.volume (.ok v)), s') →
      let others := c.held.count v.cell
      v ∈ t.volumes ∧ v.name = name ∧ s'.volumesOf target = t.volumes.erase v ∧
      (∀ u, s'.world.handlesOf u = s.world.handlesOf u) ∧
      s'.world.trace = s.world.trace ++
        (if 0 < others then [s.world.entry (.handlesOpen name others)] else []) ++
        [s.world.entry (.unmounted name)] ∧
      s.world.handlesOf v = (1 + if t.isSystem v then 1 else 0) + others ∧
      (others = 0 → t.isSystem v = false → s'.world.handlesOf v = 1) := by
  intro c s
  have hsound : c.Sound := sound_run sound_empty moves
  refine ⟨fun v => (hsound.balanced v).trans (Nat.add_assoc ..).symm,
    fun target t name v s' ht hrequest => ?_⟩
  intro others
  rcases System.request_cases hrequest with ⟨t₀, ht₀, ht', hworld, hreply, _⟩ | ⟨_, hnone, _⟩
  · obtain rfl := Option.some.inj (ht.symm.trans ht₀)
    have hok : (t.unmount s.world name).1 = .ok v := by
      injection hreply with hreply
      injection hreply with hreply
      exact hreply.symm
    obtain ⟨hmem, hname, hvolumes, hcounts, htrace⟩ := MountTable.unmount_report hok
    have hlisted : s.world.handlesOf v = others + 1 + if t.isSystem v then 1 else 0 :=
      hsound.handlesOf_listed ht hmem
    have hothers : t.otherHandles s.world v = others := by
      rw [MountTable.otherHandles, hlisted]
      omega
    rw [hothers] at htrace
    have hcount : s.world.handlesOf v = (1 + if t.isSystem v then 1 else 0) + others := by
      omega
    refine ⟨hmem, hname, ?_, fun u => ?_, ?_, hcount, fun hzero hsystem => ?_⟩
    · rw [System.volumesOf_eq ht']
      exact hvolumes
    · rw [hworld]
      exact hcounts u
    · rw [hworld]
      exact htrace
    · rw [hworld]
      refine (hcounts v).trans ?_
      rw [hcount, hsystem, hzero]
      rfl
  · exact absurd rfl (hnone _)

end Custody

/-! ### A volume that is unmounted while a caller has two handles -/

namespace CustodyExample

def volume : VolumeHandle := ⟨.treeless "fat" "data", ⟨0⟩⟩

/-- A caller has a volume registered and clones the handle that it gets. -/
def moves : List (System.Move ScriptedDriver) :=
  [.openTable ⟨0⟩ ⟨[]⟩, .ask (.table ⟨0⟩) (.register (.treeless "fat" "data")),
    .deed (.retain volume)]

def table : MountTable :=
  { MountTable.create ⟨0⟩ ⟨[]⟩ with volumes := [volume], nextId := VolumeId.first.next }

/-- What the system is after the unmount. -/
def unmounted : System ScriptedDriver :=
  let s := (({} : Custody ScriptedDriver).run moves).system
  ((s.request (.table ⟨0⟩) (.unmount "data")).map Prod.snd).getD s

/-- The unmount warns of two handles, and three are left with the one that it answers. -/
theorem unmount_warns_of_two :
    let s := (({} : Custody ScriptedDriver).run moves).system
    s.tableOf (.table ⟨0⟩) = some table ∧
    s.request (.table ⟨0⟩) (.unmount "data") = some (.value (.volume (.ok volume)), unmounted) ∧
    unmounted.world.trace = s.world.trace ++ [s.world.entry (.handlesOpen "data" 2)] ++
      [s.world.entry (.unmounted "data")] ∧
    s.world.handlesOf volume = 3 := by
  intro s
  have htable : s.tableOf (.table ⟨0⟩) = some table := rfl
  have hrequest : s.request (.table ⟨0⟩) (.unmount "data") =
      some (.value (.volume (.ok volume)), unmounted) := rfl
  obtain ⟨_, hunmount⟩ := Custody.handles_in_three_places moves
  obtain ⟨_, _, _, _, htrace, hcount, _⟩ := hunmount _ _ _ _ _ htable hrequest
  exact ⟨htable, hrequest, htrace, hcount⟩

end CustodyExample

end VolumeService
