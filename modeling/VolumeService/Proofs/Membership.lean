import VolumeService.Driver.Scripted
import VolumeService.Proofs.Rolls
import VolumeService.System

/-! # Ids and membership over whole histories of a system

A system has any number of mount tables on one shared world, and tables come and go.  A *census*
follows a system through any number of moves.

* **Moves** (`System.Move`).  Tables are opened and closed, the shared service is made, a table or
  the service answers a request, or something else happens to the world (`Deed`).
* **Strays** (`Census.strays`) are the volumes that were listed in a table when it was closed.
* **Rolls** (`Census.roll`).  Each table has a roll, its list of volumes, and so have the strays.
  A move changes one roll by one volume, along with the id of that volume, or hands the roll of a
  closed table over to the strays (`Census.turn_step`).  So the rolls stay sound
  (`Census.sound_run`).
* So a volume carries an id exactly if a table that is still there lists it, once, or if it is a
  stray (`Census.id_iff_listed`); strays keep their ids for ever. -/

namespace VolumeService

variable {σ : Type}

/-! ### Moves of a system -/

/-- What can happen next in the history of a system. -/
inductive System.Move (σ : Type) where
  | openTable (root : NodeId) (drivers : Registry)
  | closeTable (id : TableId)
  | initService (root : NodeId) (drivers : Registry)
  | ask (target : Target) (request : Request)
  | deed (deed : Deed σ)

/-- A system with the volumes that were listed in tables when these were closed. -/
structure Census (σ : Type) where
  system : System σ := {}
  strays : List VolumeHandle := []

namespace System

def volumesOf (s : System σ) (target : Target) : List VolumeHandle :=
  ((s.tableOf target).map MountTable.volumes).getD []

/-- Some table that is still there lists the volume. -/
def Lists (s : System σ) (v : VolumeHandle) : Prop :=
  ∃ target t, s.tableOf target = some t ∧ ∃ u ∈ t.volumes, u.Same v

theorem volumesOf_eq {s : System σ} {target : Target} {t : MountTable}
    (h : s.tableOf target = some t) : s.volumesOf target = t.volumes := by
  rw [volumesOf, h]
  rfl

theorem volumesOf_congr {s s' : System σ} {target : Target}
    (h : s'.tableOf target = s.tableOf target) : s'.volumesOf target = s.volumesOf target := by
  rw [volumesOf, h, volumesOf]

theorem exists_table_of_mem {s : System σ} {target : Target} {v : VolumeHandle}
    (h : v ∈ s.volumesOf target) : ∃ t, s.tableOf target = some t ∧ v ∈ t.volumes := by
  unfold volumesOf at h
  cases ht : s.tableOf target with
  | none =>
      rw [ht] at h
      cases h
  | some t =>
      rw [ht] at h
      exact ⟨t, rfl, h⟩

theorem lists_iff {s : System σ} {v : VolumeHandle} :
    s.Lists v ↔ ∃ target, ∃ u ∈ s.volumesOf target, u.Same v := by
  constructor
  · rintro ⟨target, t, ht, u, hu, hsame⟩
    exact ⟨target, u, by rwa [volumesOf_eq ht], hsame⟩
  · rintro ⟨target, u, hu, hsame⟩
    obtain ⟨t, ht, hu⟩ := exists_table_of_mem hu
    exact ⟨target, t, ht, u, hu, hsame⟩

/-- Where a table is opened there was none, and elsewhere there is what there was. -/
theorem tableOf_openTable (s : System σ) (root : NodeId) (drivers : Registry) (target : Target) :
    (s.openTable root drivers).tableOf target = s.tableOf target ∨
      s.tableOf target = none ∧
        (s.openTable root drivers).tableOf target = some (.create root drivers) := by
  cases target with
  | service => exact .inl rfl
  | table id =>
      show (s.tables.push _).get? id.index = s.tables.get? id.index ∨
        s.tables.get? id.index = none ∧ (s.tables.push _).get? id.index = _
      rw [Store.get?_push]
      split
      next hid =>
        exact .inr ⟨Store.get?_eq_none_of_next_le (Nat.le_of_eq hid.symm), rfl⟩
      next => exact .inl rfl

theorem tableOf_initService (s : System σ) (root : NodeId) (drivers : Registry)
    (target : Target) :
    (s.initService root drivers).2.tableOf target = s.tableOf target ∨
      s.tableOf target = none ∧
        (s.initService root drivers).2.tableOf target = some (.create root drivers) := by
  cases target with
  | table id => exact .inl rfl
  | service => exact s.service.table?_init root drivers

theorem tableOf_closeTable (s : System σ) (id : TableId) (target : Target) :
    (s.closeTable id).tableOf target =
      if target = .table id then none else s.tableOf target := by
  unfold closeTable
  split
  next hnone =>
    split
    next he => exact he ▸ hnone
    next => rfl
  next t _ =>
    cases target with
    | service => rfl
    | table other =>
        show (s.tables.free id.index).get? other.index = _
        rw [Store.get?_free]
        by_cases he : other = id
        · rw [if_pos (congrArg TableId.index he.symm), if_pos (congrArg Target.table he)]
        · have hne : id.index ≠ other.index := fun hi => he (congrArg TableId.mk hi.symm)
          rw [if_neg hne, if_neg fun h => he (Target.table.inj h)]
          rfl

/-- A table that has just been created lists nothing. -/
theorem volumesOf_of_created {s s' : System σ} {root : NodeId} {drivers : Registry}
    {target : Target}
    (h : s'.tableOf target = s.tableOf target ∨
      s.tableOf target = none ∧ s'.tableOf target = some (.create root drivers)) :
    s'.volumesOf target = s.volumesOf target := by
  rcases h with hsame | ⟨hnone, hsome⟩
  · exact volumesOf_congr hsame
  · rw [volumesOf_eq hsome, volumesOf, hnone]
    rfl

theorem volumesOf_closeTable (s : System σ) (id : TableId) (target : Target) :
    (s.closeTable id).volumesOf target =
      if target = .table id then [] else s.volumesOf target := by
  rw [volumesOf, tableOf_closeTable]
  split <;> rfl

variable [DriverModel σ]

/-- Either the table of the target answered a request, in the shared world, and no other table was
touched, or no table was, and there is no answer. -/
theorem request_cases {s s' : System σ} {target : Target} {r : Request}
    {outcome : Outcome Reply} (h : s.request target r = some (outcome, s')) :
    (∃ t, s.tableOf target = some t ∧ s'.tableOf target = some (t.handle s.world r).2.1 ∧
      s'.world = (t.handle s.world r).2.2 ∧ outcome = .value (t.handle s.world r).1 ∧
      ∀ other, other ≠ target → s'.tableOf other = s.tableOf other) ∨
    s'.world = s.world ∧ (∀ reply, outcome ≠ .value reply) ∧
      ∀ other, s'.tableOf other = s.tableOf other := by
  cases target with
  | service =>
      obtain ⟨rfl, rfl⟩ := Prod.mk.inj (Option.some.inj h)
      cases hlocked : s.service.volumes.locked with
      | true =>
          -- a held lock makes the call wait, and so nothing happens
          right
          rw [Service.call_of_held hlocked]
          exact ⟨rfl, fun _ he => (by cases he), fun _ => rfl⟩
      | false =>
          rw [Service.call_of_free hlocked]
          cases ht : s.service.table? with
          | none => exact .inr ⟨rfl, fun _ he => (by cases he), fun _ => rfl⟩
          | some t =>
              refine .inl ⟨t, ht, rfl, rfl, rfl, fun other hne => ?_⟩
              cases other with
              | service => exact absurd rfl hne
              | table _ => rfl
  | table id =>
      obtain ⟨t, ht, he⟩ := Option.map_eq_some_iff.1 h
      obtain ⟨rfl, rfl⟩ := Prod.mk.inj he
      refine .inl ⟨t, ht, ?_, rfl, rfl, fun other hne => ?_⟩
      · exact (Store.get?_modify_self ..).trans (congrArg (Option.map _) ht)
      · cases other with
        | service => rfl
        | table other =>
            refine Store.get?_modify_of_ne _ _ fun hi => hne ?_
            exact congrArg (fun i => Target.table ⟨i⟩) hi.symm

end System

/-! ### Censuses -/

theorem Kept.of_foldl_release (t : MountTable) (w : World σ) (list : List VolumeHandle) :
    Kept t w t (list.foldl World.release w) := by
  induction list generalizing w with
  | nil => exact .of_cells t rfl
  | cons v rest ih => exact (of_release t w v).trans (ih (w.release v))

theorem Kept.of_closeTable (t : MountTable) (s : System σ) (id : TableId) :
    Kept t s.world t (s.closeTable id).world := by
  unfold System.closeTable
  split
  next => exact .of_cells t rfl
  next closed _ =>
    exact (of_foldl_release t s.world closed.volumes).trans
      (of_foldl_release t _ closed.system.toList)

namespace Census

/-- The rolls: what each target lists, and the strays. -/
def roll (c : Census σ) : Option Target → List VolumeHandle
  | none => c.strays
  | some target => c.system.volumesOf target

/-- A change of one table leaves the other rolls. -/
theorem roll_eq_of_tableOf {c c' : Census σ} {target : Target}
    (hother : ∀ other, other ≠ target → c'.system.tableOf other = c.system.tableOf other)
    (hstrays : c'.strays = c.strays) (i : Option Target) (hi : i ≠ some target) :
    c'.roll i = c.roll i := by
  cases i with
  | none => exact hstrays
  | some other => exact System.volumesOf_congr (hother other fun he => hi (congrArg some he))

variable [DriverModel σ]

/-- The census after one more move. -/
def step (c : Census σ) : System.Move σ → Census σ
  | .openTable root drivers => { c with system := c.system.openTable root drivers }
  | .closeTable id =>
    { system := c.system.closeTable id, strays := c.strays ++ c.system.volumesOf (.table id) }
  | .initService root drivers => { c with system := (c.system.initService root drivers).2 }
  | .ask target request =>
    match c.system.request target request with
    | some (_, system) => { c with system }
    | none => c
  | .deed deed => { c with system := c.system.modifyWorld deed.apply }

def run (c : Census σ) (moves : List (System.Move σ)) : Census σ := moves.foldl step c

/-- What one move does to the rolls and the ids. -/
inductive Turn (c c' : Census σ) : Prop where
  /-- Rolls and ids stay. -/
  | kept (hkept : ∀ t, Kept t c.system.world t c'.system.world) (hroll : c'.roll = c.roll)
  /-- The table of a target answered a request. -/
  | asked {target : Target} {t t' : MountTable} {entered left : Option VolumeHandle}
      (hchange : Change t c.system.world t' c'.system.world entered left)
      (hold : c.roll (some target) = t.volumes) (hnew : c'.roll (some target) = t'.volumes)
      (hother : ∀ i, i ≠ some target → c'.roll i = c.roll i)
  /-- A table was closed, and what it listed went astray. -/
  | closed {target : Target} (hkept : ∀ t, Kept t c.system.world t c'.system.world)
      (hempty : c'.roll (some target) = [])
      (hstrays : c'.strays = c.strays ++ c.roll (some target))
      (hother : ∀ i, i ≠ some target → i ≠ none → c'.roll i = c.roll i)

theorem turn_step (c : Census σ) (move : System.Move σ) : Turn c (c.step move) := by
  cases move with
  | openTable root drivers =>
      refine .kept (fun t => .of_cells t rfl) (funext fun i => ?_)
      cases i with
      | none => rfl
      | some target =>
          exact System.volumesOf_of_created (c.system.tableOf_openTable root drivers target)
  | closeTable id =>
      have hempty : (c.step (.closeTable id)).roll (some (.table id)) = [] :=
        (c.system.volumesOf_closeTable id _).trans (if_pos rfl)
      refine .closed (fun t => .of_closeTable t c.system id) hempty rfl fun i hi hnone => ?_
      cases i with
      | none => exact absurd rfl hnone
      | some target =>
          exact (c.system.volumesOf_closeTable id target).trans
            (if_neg fun he => hi (congrArg some he))
  | initService root drivers =>
      refine .kept (fun t => .of_cells t rfl) (funext fun i => ?_)
      cases i with
      | none => rfl
      | some target =>
          exact System.volumesOf_of_created (c.system.tableOf_initService root drivers target)
  | deed deed => exact .kept (fun t => .of_deed t c.system.world deed) rfl
  | ask target request =>
      rw [step]
      split
      next outcome system h =>
        rcases System.request_cases h with
          ⟨t, ht, ht', hworld, _, hother⟩ | ⟨hworld, _, hsame⟩
        · -- one table and the world change together; all other rolls stay
          have hchange := Change.of_handle t c.system.world request
          rw [← hworld] at hchange
          exact .asked hchange (System.volumesOf_eq ht) (System.volumesOf_eq ht')
            (roll_eq_of_tableOf hother rfl)
        · refine .kept (fun t => .of_cells t (congrArg World.cells hworld)) (funext fun i => ?_)
          cases i with
          | none => rfl
          | some other => exact System.volumesOf_congr (hsame other)
      next => exact .kept (fun t => .of_cells t rfl) rfl

/-- The rolls of a census and its ids belong together. -/
def Sound (c : Census σ) : Prop := Rolls.Sound c.roll c.system.world

omit [DriverModel σ] in
/-- With no table and no shared volume, all rolls are empty and there are no ids. -/
theorem sound_empty : ({} : Census σ).Sound := by
  have hroll : ∀ i, ({} : Census σ).roll i = [] := by
    intro i
    rcases i with _ | _ | id
    · rfl
    · rfl
    · show (((Store.empty : Store MountTable).get? id.index).map MountTable.volumes).getD [] = []
      rw [Store.get?_empty]
      rfl
  have hnone : ∀ i, ∀ v : VolumeHandle, v ∉ ({} : Census σ).roll i := by
    intro i v
    rw [hroll]
    exact List.not_mem_nil
  refine ⟨?_, ?_, ?_, ?_⟩
  · exact fun i v hv => absurd hv (hnone i v)
  · exact fun i _ u _ hu => absurd hu (hnone i u)
  · intro i
    rw [hroll]
    exact .nil
  · intro v
    have hid : ({} : Census σ).system.world.idOf v = none := by
      show ((Store.empty : Store VolumeCell).get? v.cell.index).bind _ = none
      rw [Store.get?_empty]
      rfl
    rw [hid]
    exact ⟨fun h => (by cases h), fun ⟨i, u, hu, _⟩ => absurd hu (hnone i u)⟩

theorem Sound.step {c : Census σ} (h : c.Sound) (move : System.Move σ) : (c.step move).Sound := by
  cases c.turn_step move with
  | kept hkept hroll =>
      -- what is kept is kept for any table
      rw [Sound, hroll]
      exact Rolls.Sound.kept h (hkept (.create ⟨0⟩ ⟨[]⟩))
  | asked hchange hold hnew hother => exact Rolls.Sound.changed h hchange hold hnew hother
  | closed hkept hempty hstrays hother =>
      exact (Rolls.Sound.handedOver h (Option.some_ne_none _) hempty hstrays hother).kept
        (hkept (.create ⟨0⟩ ⟨[]⟩))

/-- A sound census stays sound, whatever moves follow. -/
theorem sound_run {c : Census σ} (h : c.Sound) (moves : List (System.Move σ)) :
    (c.run moves).Sound := by
  induction moves generalizing c with
  | nil => exact h
  | cons move rest ih => exact ih (h.step move)

omit [DriverModel σ] in
theorem Turn.stray {c c' : Census σ} (hturn : Turn c c') (h : c.Sound) {v : VolumeHandle}
    (hv : v ∈ c.strays) : v ∈ c'.strays ∧ c'.system.world.idOf v = c.system.world.idOf v := by
  cases hturn with
  | kept hkept hroll =>
      have hstrays : c'.strays = c.strays := congrFun hroll none
      exact ⟨hstrays ▸ hv, (hkept (.create ⟨0⟩ ⟨[]⟩)).ids v⟩
  | asked hchange hold _ hother =>
      have hstrays : c'.strays = c.strays := hother none (by simp)
      exact ⟨hstrays ▸ hv, Rolls.Sound.idOf_of_changed (j := none) h hchange hold hv (by simp)⟩
  | closed hkept _ hstrays _ =>
      exact ⟨hstrays ▸ List.mem_append_left _ hv, (hkept (.create ⟨0⟩ ⟨[]⟩)).ids v⟩

/-- Strays stay strays and keep their ids, whatever moves follow. -/
theorem strays_run {c : Census σ} (h : c.Sound) {v : VolumeHandle} (hv : v ∈ c.strays)
    (moves : List (System.Move σ)) :
    v ∈ (c.run moves).strays ∧
      (c.run moves).system.world.idOf v = c.system.world.idOf v := by
  induction moves generalizing c with
  | nil => exact ⟨hv, rfl⟩
  | cons move rest ih =>
      obtain ⟨hstep, hid⟩ := (c.turn_step move).stray h hv
      obtain ⟨hrest, hids⟩ := ih (h.step move) hstep
      exact ⟨hrest, hids.trans hid⟩

section sound

omit [DriverModel σ]

variable {c : Census σ}

/-- Who carries an id is listed or astray. -/
theorem Sound.isSome_idOf (h : c.Sound) (v : VolumeHandle) :
    (c.system.world.idOf v).isSome ↔ c.system.Lists v ∨ ∃ u ∈ c.strays, u.Same v := by
  rw [h.carried, System.lists_iff]
  constructor
  · rintro ⟨_ | target, u, hu, hsame⟩
    · exact .inr ⟨u, hu, hsame⟩
    · exact .inl ⟨target, u, hu, hsame⟩
  · rintro (⟨target, u, hu, hsame⟩ | ⟨u, hu, hsame⟩)
    · exact ⟨some target, u, hu, hsame⟩
    · exact ⟨none, u, hu, hsame⟩

theorem Sound.not_lists_of_stray (h : c.Sound) {u v : VolumeHandle} (hu : u ∈ c.strays)
    (hsame : u.Same v) : ¬ c.system.Lists v := by
  rw [System.lists_iff]
  rintro ⟨target, x, hx, hxv⟩
  exact Option.some_ne_none _ (h.apart (some target) none x u hx hu (hxv.trans hsame.symm))

/-- A volume is listed in one place at most. -/
theorem Sound.listed_once (h : c.Sound) {target target' : Target} {t t' : MountTable}
    (ht : c.system.tableOf target = some t) (ht' : c.system.tableOf target' = some t')
    {i j : Nat} {u v : VolumeHandle} (hu : t.volumes[i]? = some u) (hv : t'.volumes[j]? = some v)
    (hsame : u.Same v) : target = target' ∧ i = j := by
  have hroll : c.roll (some target) = t.volumes := System.volumesOf_eq ht
  have hroll' : c.roll (some target') = t'.volumes := System.volumesOf_eq ht'
  have hmem : u ∈ c.roll (some target) := hroll ▸ List.mem_of_getElem? hu
  have hmem' : v ∈ c.roll (some target') := hroll' ▸ List.mem_of_getElem? hv
  obtain rfl := Option.some.inj (h.apart _ _ u v hmem hmem' hsame)
  obtain rfl := Option.some.inj (ht.symm.trans ht')
  have hnodup := h.nodup (some target)
  rw [hroll] at hnodup
  have hcells : (t.volumes.map VolumeHandle.cell)[i]? =
      (t.volumes.map VolumeHandle.cell)[j]? := by
    rw [List.getElem?_map, List.getElem?_map, hu, hv]
    exact congrArg some hsame
  have hi : i < (t.volumes.map VolumeHandle.cell).length := by
    rw [List.length_map]
    exact (List.getElem?_eq_some_iff.1 hu).1
  exact ⟨rfl, (List.getElem?_inj hi hnodup).1 hcells⟩

end sound

/-- In any history of a system, a volume carries an id exactly if a table that is still there lists
it, unless it is a stray; tables list it in one place at most.  Strays carry ids and are listed
nowhere, from then on. -/
theorem id_iff_listed (moves : List (System.Move σ)) :
    let c := ({} : Census σ).run moves
    (∀ v, ((c.system.world.idOf v).isSome ↔ c.system.Lists v) ↔ ∀ u ∈ c.strays, ¬ u.Same v) ∧
    (∀ target target' t t' (i j : Nat) (u v : VolumeHandle),
      c.system.tableOf target = some t → c.system.tableOf target' = some t' →
      t.volumes[i]? = some u → t'.volumes[j]? = some v → u.Same v → target = target' ∧ i = j) ∧
    ∀ v ∈ c.strays, ∃ id, ∀ later,
      let d := c.run later
      v ∈ d.strays ∧ d.system.world.idOf v = some id ∧ ¬ d.system.Lists v := by
  intro c
  have hsound : c.Sound := sound_run sound_empty moves
  refine ⟨fun v => ?_, ?_, ?_⟩
  · rw [hsound.isSome_idOf]
    constructor
    · intro hiff u hu hsame
      exact hsound.not_lists_of_stray hu hsame (hiff.1 (.inr ⟨u, hu, hsame⟩))
    · intro hstray
      constructor
      · rintro (hlists | ⟨u, hu, hsame⟩)
        · exact hlists
        · exact absurd hsame (hstray u hu)
      · exact .inl
  · intro target target' t t' i j u v ht ht' hu hv hsame
    exact hsound.listed_once ht ht' hu hv hsame
  · intro v hv
    obtain ⟨id, hid⟩ := Option.isSome_iff_exists.1 ((hsound.isSome_idOf v).2 (.inr ⟨v, hv, rfl⟩))
    refine ⟨id, fun later => ?_⟩
    intro d
    obtain ⟨hstray, hids⟩ := strays_run hsound hv later
    exact ⟨hstray, hids.trans hid, (sound_run hsound later).not_lists_of_stray hstray rfl⟩

end Census

/-! ### A volume that outlives its table -/

namespace StrayExample

/-- A table is opened, a volume is registered with it, and the table is closed. -/
def moves : List (System.Move ScriptedDriver) :=
  [.openTable ⟨0⟩ ⟨[]⟩, .ask (.table ⟨0⟩) (.register (.treeless "fat" "data")), .closeTable ⟨0⟩]

/-- The volume still carries its id, and no table is there to list it. -/
theorem stray_carries_id :
    let c := ({} : Census ScriptedDriver).run moves
    let v : VolumeHandle := ⟨.treeless "fat" "data", ⟨0⟩⟩
    c.system.world.idOf v = some .first ∧ ¬ c.system.Lists v := by
  intro c v
  refine ⟨rfl, ?_⟩
  rintro ⟨target, t, ht, _⟩
  cases target with
  | service => cases ht
  | table id =>
      rcases id with ⟨_ | i⟩
      · cases ht
      · have hnone : c.system.tables.get? (i + 1) = none :=
          Store.get?_eq_none_of_next_le (Nat.le_add_left 1 i)
        rw [show c.system.tables.get? (i + 1) = some t from ht] at hnone
        cases hnone

end StrayExample

end VolumeService
