import VolumeService.Proofs.Chronicle

/-! # Counting handles

Every shared volume counts the handles to it.  A mount table keeps one in its list for each listed
volume and one in its system slot, and hands others out with its replies.

* **Copies** (`VolumeHandle.copies`).  How many handles of a list are to one volume.
* **Accounts** (`MountTable.Accounts`).  Between two states of a table and its world, the count of
  each volume grows by as many handles as the table keeps more than before and has given out.
* **Requests** (`MountTable.accounts_handle`).  Whatever a table is asked, the accounts balance, as
  long as every volume that it lists or has in its slot is alive (`MountTable.Live`): then each
  handle that it clones is to a volume that is there. -/

namespace VolumeService

/-! ### Copies -/

namespace VolumeHandle

/-- How many handles of a list are to the same volume as a given one. -/
def copies (l : List VolumeHandle) (v : VolumeHandle) : Nat :=
  (l.map VolumeHandle.cell).count v.cell

@[simp] theorem copies_nil (v : VolumeHandle) : copies [] v = 0 := rfl

theorem copies_cons (u : VolumeHandle) (l : List VolumeHandle) (v : VolumeHandle) :
    copies (u :: l) v = copies l v + if u.Same v then 1 else 0 := by
  unfold copies
  rw [List.map_cons, List.count_cons]
  by_cases h : u.cell = v.cell <;> simp [VolumeHandle.Same, h]

@[simp] theorem copies_singleton (u v : VolumeHandle) :
    copies [u] v = if u.Same v then 1 else 0 := by
  rw [copies_cons, copies_nil, Nat.zero_add]

@[simp] theorem copies_append (l l' : List VolumeHandle) (v : VolumeHandle) :
    copies (l ++ l') v = copies l v + copies l' v := by
  unfold copies
  rw [List.map_append, List.count_append]

theorem copies_pos_iff {l : List VolumeHandle} {v : VolumeHandle} :
    0 < copies l v ↔ ∃ u ∈ l, u.Same v := by
  rw [copies, List.count_pos_iff, List.mem_map]
  rfl

theorem copies_pos_of_mem {l : List VolumeHandle} {v : VolumeHandle} (h : v ∈ l) :
    0 < copies l v := copies_pos_iff.2 ⟨v, h, rfl⟩

/-- A list of cells with one more at its end. -/
theorem count_append_cell (held : List CellId) (v u : VolumeHandle) :
    (held ++ [v.cell]).count u.cell = held.count u.cell + if v.Same u then 1 else 0 := by
  rw [List.count_append]
  exact congrArg _ (copies_singleton v u)

theorem count_erase_cell {held : List CellId} {v : VolumeHandle} (h : v.cell ∈ held)
    (u : VolumeHandle) :
    ((held.erase v.cell).count u.cell + if v.Same u then 1 else 0) = held.count u.cell := by
  rw [(List.perm_cons_erase h).count_eq u.cell, List.count_cons]
  by_cases hsame : v.cell = u.cell <;> simp [VolumeHandle.Same, hsame]

end VolumeHandle

open VolumeHandle (copies)

variable {σ : Type}

/-! ### Counts -/

namespace World

variable {w w' : World σ}

theorem handlesOf_congr (h : w'.cells = w.cells) (v : VolumeHandle) :
    w'.handlesOf v = w.handlesOf v := by
  rw [handlesOf, cell?, h, handlesOf, cell?]

theorem handlesOf_of_same (w : World σ) {u v : VolumeHandle} (h : u.Same v) :
    w.handlesOf u = w.handlesOf v := by
  rw [handlesOf, cell?, show u.cell = v.cell from h, handlesOf, cell?]

theorem handlesOf_of_next_le {v : VolumeHandle} (h : w.cells.next ≤ v.cell.index) :
    w.handlesOf v = 0 := by
  rw [handlesOf, cell?, Store.get?_eq_none_of_next_le h]
  rfl

/-- A new cell has one handle, and no other count changes. -/
theorem handlesOf_share (w : World σ) (volume : Volume) (id : Option VolumeId)
    (u : VolumeHandle) :
    (w.share id).handlesOf u = w.handlesOf u + if (w.handleFor volume).Same u then 1 else 0 := by
  split
  next hsame =>
    have hnone : w.handlesOf u = 0 := by
      rw [← handlesOf_of_same w hsame]
      exact handlesOf_of_next_le (Nat.le_refl _)
    rw [← handlesOf_of_same _ hsame, handlesOf, cell?_share_handleFor, hnone]
    rfl
  next hne => rw [handlesOf, cell?_share_of_ne hne, handlesOf, Nat.add_zero]

theorem handlesOf_retain {v : VolumeHandle} (h : 0 < w.handlesOf v) (u : VolumeHandle) :
    (w.retain v).handlesOf u = w.handlesOf u + if v.Same u then 1 else 0 := by
  unfold retain
  rw [handlesOf, cell?_modifyCell]
  split
  next hsame =>
    rw [handlesOf_of_same w hsame] at h
    unfold handlesOf at h ⊢
    cases hcell : w.cell? u with
    | none => simp [hcell] at h
    | some cell => rfl
  next => rfl

theorem handlesOf_release {v : VolumeHandle} (h : 0 < w.handlesOf v) (u : VolumeHandle) :
    ((w.release v).handlesOf u + if v.Same u then 1 else 0) = w.handlesOf u := by
  unfold release
  rw [handlesOf, cell?_modifyCell]
  split
  next hsame =>
    rw [handlesOf_of_same w hsame] at h
    unfold handlesOf at h ⊢
    cases hcell : w.cell? u with
    | none => simp [hcell] at h
    | some cell =>
        simp only [hcell, Option.map_some, Option.getD_some] at h ⊢
        omega
  next => rfl

@[simp] theorem handlesOf_clearId (w : World σ) (v u : VolumeHandle) :
    (w.clearId v).handlesOf u = w.handlesOf u := by
  unfold handlesOf clearId
  rw [cell?_modifyCell]
  split
  · cases w.cell? u <;> rfl
  · rfl

/-- Cloning each handle of a list adds as many as the list has. -/
theorem handlesOf_foldl_retain {l : List VolumeHandle} (h : ∀ u ∈ l, 0 < w.handlesOf u)
    (v : VolumeHandle) : (l.foldl retain w).handlesOf v = w.handlesOf v + copies l v := by
  induction l generalizing w with
  | nil => rfl
  | cons u rest ih =>
      have hu : 0 < w.handlesOf u := h u List.mem_cons_self
      rw [List.foldl_cons, ih, handlesOf_retain hu, VolumeHandle.copies_cons]
      · omega
      · intro x hx
        have := h x (List.mem_cons_of_mem _ hx)
        rw [handlesOf_retain hu]
        omega

/-- Dropping each handle of a list takes away as many as the list has, if there are so many. -/
theorem handlesOf_foldl_release {l : List VolumeHandle}
    (h : ∀ v, copies l v ≤ w.handlesOf v) (v : VolumeHandle) :
    (l.foldl release w).handlesOf v + copies l v = w.handlesOf v := by
  induction l generalizing w with
  | nil => rfl
  | cons u rest ih =>
      have hu : 0 < w.handlesOf u :=
        Nat.lt_of_lt_of_le (VolumeHandle.copies_pos_of_mem List.mem_cons_self) (h u)
      have hfirst := handlesOf_release hu
      have henough : ∀ x, copies rest x ≤ (w.release u).handlesOf x := by
        intro x
        have hx := h x
        rw [VolumeHandle.copies_cons, ← hfirst x] at hx
        omega
      rw [List.foldl_cons, VolumeHandle.copies_cons, ← hfirst v, ← ih henough]
      omega

end World

/-- How a notice that is reported now stands in the trace. -/
def World.entry (w : World σ) (notice : Notice) : Event :=
  .record notice.record (w.log.recipient notice.record.level)

/-! ### Accounts of a table -/

/-- The handles that now belong to the caller. -/
def Reply.handles : Reply → List VolumeHandle
  | .volume result => result.toOption.toList
  | .found result => result.toList
  | .volumes list => list
  | _ => []

namespace MountTable

/-- How many handles to a volume the table keeps, in its list and in its system slot. -/
def keeps (t : MountTable) (v : VolumeHandle) : Nat :=
  copies t.volumes v + copies t.system.toList v

/-- Every volume that the table lists or has in its slot has a handle. -/
structure Live (t : MountTable) (w : World σ) : Prop where
  volumes : ∀ v ∈ t.volumes, 0 < w.handlesOf v
  system : ∀ v, t.system = some v → 0 < w.handlesOf v

theorem Live.of_keeps_le {t : MountTable} {w : World σ} (h : ∀ v, t.keeps v ≤ w.handlesOf v) :
    t.Live w where
  volumes v hv := by
    have hcopies := VolumeHandle.copies_pos_of_mem hv
    have hle := h v
    rw [keeps] at hle
    omega
  system v hv := by
    have hcopies : 0 < copies t.system.toList v :=
      VolumeHandle.copies_pos_of_mem (Option.mem_toList.2 hv)
    have hle := h v
    rw [keeps] at hle
    omega

/-- A table that is given up drops all that it keeps. -/
theorem handlesOf_releaseAll {t : MountTable} {w : World σ} (h : ∀ v, t.keeps v ≤ w.handlesOf v)
    (v : VolumeHandle) : (t.releaseAll w).handlesOf v + t.keeps v = w.handlesOf v := by
  have hlist : ∀ u, (t.volumes.foldl World.release w).handlesOf u + copies t.volumes u =
      w.handlesOf u :=
    World.handlesOf_foldl_release fun u => Nat.le_trans (Nat.le_add_right ..) (h u)
  have henough : ∀ u, copies t.system.toList u ≤
      (t.volumes.foldl World.release w).handlesOf u := by
    intro u
    have hle := h u
    rw [keeps, ← hlist u] at hle
    omega
  rw [releaseAll, keeps, ← hlist v, ← World.handlesOf_foldl_release henough v]
  omega

/-- The count of each volume changes by what the table keeps more or less than before and by what
it has given out. -/
def Accounts (t : MountTable) (w : World σ) (given : List VolumeHandle) (t' : MountTable)
    (w' : World σ) : Prop :=
  ∀ v, w'.handlesOf v + t.keeps v = w.handlesOf v + t'.keeps v + copies given v

/-- Two handles are to a registered volume, and no other count changes. -/
theorem handlesOf_register (t : MountTable) (w : World σ) (volume : Volume) (u : VolumeHandle) :
    (t.register w volume).2.2.handlesOf u =
      w.handlesOf u + if (w.handleFor volume).Same u then 2 else 0 := by
  have hlinked : ∀ x, ((w.share (some t.nextId)).linkMountPoint volume t.root).handlesOf x =
      w.handlesOf x + if (w.handleFor volume).Same x then 1 else 0 := by
    intro x
    rw [World.handlesOf_congr (World.cells_linkMountPoint ..), w.handlesOf_share volume]
  have hfirst : 0 < ((w.share (some t.nextId)).linkMountPoint volume t.root).handlesOf
      (w.handleFor volume) := by
    rw [hlinked, if_pos (show VolumeHandle.Same _ _ from rfl)]
    exact Nat.succ_pos _
  unfold register
  dsimp only
  rw [World.handlesOf_retain hfirst, hlinked]
  split <;> omega

namespace Accounts

variable {t t₁ t₂ : MountTable} {w w₁ w₂ : World σ} {given given' : List VolumeHandle}

/-- If no cell changes and the table keeps what it has, nothing is given out. -/
theorem of_cells (hvolumes : t₁.volumes = t.volumes) (hsystem : t₁.system = t.system)
    (hcells : w₁.cells = w.cells) : Accounts t w [] t₁ w₁ := by
  intro v
  rw [World.handlesOf_congr hcells, keeps, keeps, hvolumes, hsystem]
  rfl

theorem trans (h₁ : Accounts t w given t₁ w₁) (h₂ : Accounts t₁ w₁ given' t₂ w₂) :
    Accounts t w (given ++ given') t₂ w₂ := by
  intro v
  have := h₁ v
  have := h₂ v
  rw [VolumeHandle.copies_append]
  omega

theorem of_claimName {name? : Option String} {name : String}
    (hname : t.claimName name? = some (name, t₁)) (hcells : w₁.cells = w.cells) :
    Accounts t w [] t₁ w₁ := by
  obtain rfl := table_of_claimName hname
  exact of_cells rfl rfl hcells

/-- A clone of a live handle is given out. -/
theorem of_retain (t : MountTable) {w : World σ} {v : VolumeHandle} (h : 0 < w.handlesOf v) :
    Accounts t w [v] t (w.retain v) := by
  intro u
  rw [World.handlesOf_retain h, VolumeHandle.copies_singleton]
  omega

theorem of_handOut (t : MountTable) {w : World σ} {found : Option VolumeHandle}
    (h : ∀ v, found = some v → 0 < w.handlesOf v) :
    Accounts t w found.toList t (handOut found w).2 := by
  cases found with
  | none => exact of_cells rfl rfl rfl
  | some v => exact of_retain t (h v rfl)

/-- A registered volume has two handles, one in the list and one that is given out. -/
theorem of_register (t : MountTable) (w : World σ) (volume : Volume) :
    Accounts t w [(t.register w volume).1] (t.register w volume).2.1
      (t.register w volume).2.2 := by
  intro v
  rw [handlesOf_register, keeps, keeps, volumes_register, VolumeHandle.copies_append,
    VolumeHandle.copies_singleton, VolumeHandle.copies_singleton]
  unfold register
  dsimp only
  split <;> omega

theorem of_afterMount (t : MountTable) (w : World σ) (device : NodeId) (volume : Volume) :
    Accounts t w [w.handleFor volume] (t.afterMount w device volume).1
      (t.afterMount w device volume).2 := of_register t w volume

/-- A removed volume is given out with the handle that the list had. -/
theorem of_removeFirst? {p : VolumeHandle → Bool} {v : VolumeHandle}
    (h : t.removeFirst? w p = some (v, t₁, w₁)) : Accounts t w [v] t₁ w₁ := by
  intro u
  obtain ⟨before, after, hsplit, _, _, rfl, rfl⟩ := split_of_removeFirst? h
  rw [World.handlesOf_clearId, keeps, keeps, hsplit]
  simp only [VolumeHandle.copies_append, VolumeHandle.copies_cons, VolumeHandle.copies_nil]
  omega

theorem of_unregister (t : MountTable) (w : World σ) (v : VolumeHandle) :
    Accounts t w (t.unregister w v).1.toOption.toList (t.unregister w v).2.1
      (t.unregister w v).2.2 := by
  unfold unregister
  split
  next => exact of_cells rfl rfl rfl
  next h => exact of_removeFirst? h

theorem of_unmount (t : MountTable) (w : World σ) (name : String) :
    Accounts t w (t.unmount w name).1.toOption.toList (t.unmount w name).2.1
      (t.unmount w name).2.2 := by
  unfold unmount
  split
  next => exact of_cells rfl rfl rfl
  next v t₁ w₁ h =>
    refine (of_removeFirst? h).trans (of_cells rfl rfl ?_)
    dsimp only
    split <;> rfl

/-- Filling the empty slot keeps one more handle. -/
theorem of_setSystem {t : MountTable} {w : World σ} {v : VolumeHandle} (hsystem : t.system = none)
    (h : 0 < w.handlesOf v) (line : String) :
    Accounts t w [] (t.setSystem w line v).1 (t.setSystem w line v).2 := by
  intro u
  have hnotified : 0 < (w.notify (.systemMounted line)).handlesOf v := h
  unfold setSystem
  dsimp only
  rw [World.handlesOf_retain hnotified, keeps, keeps, hsystem]
  simp only [Option.toList_none, Option.toList_some, VolumeHandle.copies_singleton,
    VolumeHandle.copies_nil]
  exact (Nat.add_right_comm ..).trans (Nat.add_assoc ..)

variable [DriverModel σ]

theorem of_mountOutcome {ds : List DriverHandle} {device : NodeId} {name? : Option String}
    {result : Except ServiceError VolumeHandle × MountTable × World σ}
    (h : MountOutcome ds t w device name? result) :
    Accounts t w result.1.toOption.toList result.2.1 result.2.2 := by
  cases h with
  | refused _ hw => exact of_cells rfl rfl hw.consults.cells
  | failed hname hw => exact of_claimName hname hw.consults.cells
  | @registered _ t' _ w' volume hname hw hbuilt _ =>
      exact (of_claimName hname (hbuilt.probes hw).consults.cells).trans
        (of_afterMount t' w' device volume)

theorem of_bootScan (hlive : t.Live w) (limit : Nat) :
    Accounts t w ((t.bootScan w limit).1.bind Except.toOption).toList (t.bootScan w limit).2.1
      (t.bootScan w limit).2.2 := by
  have h := t.bootScan_outcome w limit
  generalize t.bootScan w limit = result at h
  cases h with
  | @already v hsystem =>
      exact of_retain t (hlive.system v hsystem)
  | unfinished _ hw => exact of_cells rfl rfl hw.consults.cells
  | failed _ _ hw => exact of_cells rfl rfl hw.consults.cells
  | @mounted w₁ w₂ w' device line volume hsystem hw hdevice hprobes hbuilt _ =>
      have hsurvey := hw.probe hdevice (hbuilt.probes hprobes)
      have hmount := of_afterMount t w' device volume
      have hfresh : 0 < (t.afterMount w' device volume).2.handlesOf (w'.handleFor volume) := by
        have hcount := t.handlesOf_register w' volume (w'.handleFor volume)
        rw [if_pos (show VolumeHandle.Same _ _ from rfl)] at hcount
        exact Nat.lt_of_lt_of_eq (Nat.succ_pos _) hcount.symm
      have hslot : (t.afterMount w' device volume).1.system = none := hsystem
      exact ((of_cells rfl rfl hsurvey.consults.cells).trans hmount).trans
        (of_setSystem hslot hfresh line)

end Accounts

/-- What an unmount that succeeds reports: the other handles, if the count says that there are any,
and the success.  It changes no count. -/
theorem unmount_report {t : MountTable} {w : World σ} {name : String}
    {v : VolumeHandle} (h : (t.unmount w name).1 = .ok v) :
    v ∈ t.volumes ∧ v.name = name ∧ (t.unmount w name).2.1.volumes = t.volumes.erase v ∧
      (∀ u, (t.unmount w name).2.2.handlesOf u = w.handlesOf u) ∧
      (t.unmount w name).2.2.trace = w.trace ++
        (if 0 < t.otherHandles w v then [w.entry (.handlesOpen name (t.otherHandles w v))]
          else []) ++ [w.entry (.unmounted name)] := by
  unfold unmount at h ⊢
  cases hremoved : t.removeFirst? w fun u => decide (u.name = name) with
  | none =>
      rw [hremoved] at h
      cases h
  | some removed =>
      obtain ⟨u, t', w'⟩ := removed
      rw [hremoved] at h
      obtain rfl := Except.ok.inj h
      obtain ⟨hmem, hname, rfl, rfl⟩ := erase_of_removeFirst? hremoved
      have hothers : otherHandles { t with volumes := t.volumes.erase u } (w.clearId u) u =
          t.otherHandles w u := by
        rw [otherHandles, World.handlesOf_clearId]
        rfl
      dsimp only
      rw [hothers]
      refine ⟨hmem, of_decide_eq_true hname, rfl, fun x => ?_, ?_⟩
      · split <;> exact World.handlesOf_clearId ..
      · split
        · rfl
        · rw [List.append_nil]
          rfl

variable [DriverModel σ]

/-- Whatever a table is asked, the accounts of handles balance. -/
theorem accounts_handle {t : MountTable} {w : World σ} (hlive : t.Live w) (request : Request) :
    Accounts t w (t.handle w request).1.handles (t.handle w request).2.1
      (t.handle w request).2.2 := by
  cases request with
  | mount device name? => exact .of_mountOutcome (t.mount_outcome w device name?)
  | mountUsing device driver name? =>
      exact .of_mountOutcome
        (t.mountUsing_outcome w device (List.mem_singleton_self driver) name?)
  | unmount name => exact .of_unmount t w name
  | register volume => exact .of_register t w volume
  | unregister v => exact .of_unregister t w v
  | addDriver driver =>
      rw [handle, addDriver, Registry.register]
      split <;> exact .of_cells rfl rfl rfl
  | bootScan limit =>
      have h := Accounts.of_bootScan hlive limit
      rw [handle]
      generalize t.bootScan w limit = result at h ⊢
      obtain ⟨answer, t', w'⟩ := result
      cases answer <;> exact h
  | systemVolume => exact .of_handOut t hlive.system
  | find name => exact .of_handOut t fun v hv => hlive.volumes v (mem_volumes_of_named? hv)
  | findId id => exact .of_handOut t fun v hv => hlive.volumes v (mem_volumes_of_withId? hv)
  | volumes =>
      intro v
      exact (congrArg (· + t.keeps v) (World.handlesOf_foldl_retain hlive.volumes v)).trans
        (Nat.add_right_comm ..)
  | identify device =>
      exact .of_cells rfl rfl (w.consults_identifyFirst device t.drivers.drivers).cells
  | resolve path => exact .of_cells rfl rfl rfl
  | root => exact .of_cells rfl rfl rfl
  | findDriver name => exact .of_cells rfl rfl rfl
  | drivers => exact .of_cells rfl rfl rfl

end MountTable

end VolumeService
