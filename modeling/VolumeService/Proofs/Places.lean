import VolumeService.Proofs.HandleCounts
import VolumeService.Proofs.Membership

/-! # Where the tables of a system keep handles

A mount table keeps a handle in its list for each volume that it lists, and one in its system slot.

* **Lists and slots.**  A volume is listed in one place at most (`Census.Sound.lists_apart`), and in
  one slot at most, which is that of the table that lists it, if any does (`Slots.Sound`).
* **Present or not** (`Rolls.Apart`).  With one place at most, being somewhere is being in a given
  place or elsewhere, as an equation between numbers (`Rolls.Apart.present_eq`).
* **Together** (`System.keeps`) the tables keep one handle to a volume if it is listed and one if it
  is in a slot.  When one table changes, that changes by what this table keeps
  (`Slots.Sound.keeps_change`). -/

namespace VolumeService

open VolumeHandle (copies)

variable {σ : Type}

/-! ### Slots -/

namespace System

/-- The volume in the system slot of a target, if there is one. -/
def slotOf (s : System σ) (target : Target) : List VolumeHandle :=
  ((s.tableOf target).bind MountTable.system).toList

/-- Some table that is still there has the volume in its system slot. -/
def Slots (s : System σ) (v : VolumeHandle) : Prop :=
  ∃ target t, s.tableOf target = some t ∧ ∃ u, t.system = some u ∧ u.Same v

theorem slotOf_eq {s : System σ} {target : Target} {t : MountTable}
    (h : s.tableOf target = some t) : s.slotOf target = t.system.toList := by
  rw [slotOf, h, Option.bind_some]

theorem slots_iff {s : System σ} {v : VolumeHandle} :
    s.Slots v ↔ ∃ target, ∃ u ∈ s.slotOf target, u.Same v := by
  constructor
  · rintro ⟨target, t, ht, u, hu, hsame⟩
    refine ⟨target, u, ?_, hsame⟩
    rw [slotOf_eq ht]
    exact Option.mem_toList.2 hu
  · rintro ⟨target, u, hu, hsame⟩
    obtain ⟨t, ht, hu⟩ := Option.bind_eq_some_iff.1 (Option.mem_toList.1 hu)
    exact ⟨target, t, ht, u, hu, hsame⟩

theorem slotOf_congr {s s' : System σ} {target : Target}
    (h : s'.tableOf target = s.tableOf target) : s'.slotOf target = s.slotOf target := by
  rw [slotOf, h, slotOf]

/-- The slot of a table that has just been created is empty. -/
theorem slotOf_of_created {s s' : System σ} {root : NodeId} {drivers : Registry} {target : Target}
    (h : s'.tableOf target = s.tableOf target ∨
      s.tableOf target = none ∧ s'.tableOf target = some (.create root drivers)) :
    s'.slotOf target = s.slotOf target := by
  rcases h with hsame | ⟨hnone, hsome⟩
  · exact slotOf_congr hsame
  · rw [slotOf_eq hsome, slotOf, hnone]
    rfl

end System

/-! ### One place at most -/

/-- No volume is on two rolls or twice on one. -/
structure Rolls.Apart {ι : Type} (roll : ι → List VolumeHandle) : Prop where
  one : ∀ i j u v, u ∈ roll i → v ∈ roll j → u.Same v → i = j
  nodup : ∀ i, ((roll i).map VolumeHandle.cell).Nodup

namespace Rolls.Apart

open Classical

variable {ι : Type} {roll roll' : ι → List VolumeHandle}

theorem copies_eq (h : Apart roll) (i : ι) (v : VolumeHandle) :
    copies (roll i) v = if ∃ u ∈ roll i, u.Same v then 1 else 0 := by
  rw [copies, (h.nodup i).count]
  simp only [List.mem_map]
  rfl

/-- A volume is on a given roll or elsewhere. -/
theorem present_eq (h : Apart roll) (i : ι) (v : VolumeHandle) :
    (if ∃ j, ∃ u ∈ roll j, u.Same v then 1 else 0) =
      copies (roll i) v + if ∃ j, j ≠ i ∧ ∃ u ∈ roll j, u.Same v then 1 else 0 := by
  rw [h.copies_eq]
  by_cases hhere : ∃ u ∈ roll i, u.Same v
  · have helsewhere : ¬ ∃ j, j ≠ i ∧ ∃ u ∈ roll j, u.Same v := by
      rintro ⟨j, hj, x, hx, hxv⟩
      obtain ⟨u, hu, huv⟩ := hhere
      exact hj (h.one j i x u hx hu (hxv.trans huv.symm))
    rw [if_pos hhere, if_pos ⟨i, hhere⟩, if_neg helsewhere]
  · have hiff : (∃ j, ∃ u ∈ roll j, u.Same v) ↔ ∃ j, j ≠ i ∧ ∃ u ∈ roll j, u.Same v := by
      constructor
      · rintro ⟨j, hv⟩
        exact ⟨j, fun hj => hhere (hj ▸ hv), hv⟩
      · rintro ⟨j, _, hv⟩
        exact ⟨j, hv⟩
    rw [if_neg hhere, Nat.zero_add, if_congr hiff rfl rfl]

/-- If one roll changes, being on some roll changes by what being on that one does. -/
theorem present_change (h : Apart roll) (h' : Apart roll') {i : ι}
    (hother : ∀ j, j ≠ i → roll' j = roll j) (v : VolumeHandle) :
    (if ∃ j, ∃ u ∈ roll' j, u.Same v then 1 else 0) + copies (roll i) v =
      (if ∃ j, ∃ u ∈ roll j, u.Same v then 1 else 0) + copies (roll' i) v := by
  have helsewhere : (∃ j, j ≠ i ∧ ∃ u ∈ roll' j, u.Same v) ↔
      ∃ j, j ≠ i ∧ ∃ u ∈ roll j, u.Same v := by
    refine exists_congr fun j => and_congr_right fun hj => ?_
    rw [hother j hj]
  rw [h.present_eq i, h'.present_eq i, if_congr helsewhere rfl rfl]
  omega

end Rolls.Apart

/-- How the slots of a census and its rolls belong together. -/
structure Slots.Sound (c : Census σ) : Prop where
  known : ∀ target, ∀ v ∈ c.system.slotOf target, v.cell.index < c.system.world.cells.next
  /-- A volume is in one slot at most. -/
  apart : ∀ target target' u v, u ∈ c.system.slotOf target → v ∈ c.system.slotOf target' →
    u.Same v → target = target'
  /-- A volume in a slot is listed nowhere but in the table of that slot. -/
  home : ∀ target i u v, u ∈ c.system.slotOf target → v ∈ c.roll i → u.Same v → i = some target

/-- The tables list no volume twice. -/
theorem Census.Sound.lists_apart {c : Census σ} (h : c.Sound) :
    Rolls.Apart c.system.volumesOf where
  one target target' u v hu hv hsame :=
    Option.some.inj (h.apart (some target) (some target') u v hu hv hsame)
  nodup target := h.nodup (some target)

namespace Slots.Sound

variable {c c' : Census σ}

theorem slots_apart (h : Sound c) : Rolls.Apart c.system.slotOf where
  one := h.apart
  nodup target := by
    unfold System.slotOf
    cases (c.system.tableOf target).bind MountTable.system with
    | none => exact .nil
    | some v => exact List.nodup_singleton _

/-- Nothing is new in slots and on rolls. -/
theorem shrunk (h : Sound c) (hnext : c.system.world.cells.next ≤ c'.system.world.cells.next)
    (hslot : ∀ target, ∀ u ∈ c'.system.slotOf target, u ∈ c.system.slotOf target)
    (hroll : ∀ i, ∀ u ∈ c'.roll i, u ∈ c.roll i) : Sound c' where
  known target v hv := Nat.lt_of_lt_of_le (h.known target v (hslot target v hv)) hnext
  apart target target' u v hu hv hsame :=
    h.apart target target' u v (hslot _ u hu) (hslot _ v hv) hsame
  home target i u v hu hv hsame := h.home target i u v (hslot _ u hu) (hroll i v hv) hsame

/-- One volume is new, and all that it is in are one slot and the list of the same table. -/
theorem grown (h : Sound c) (hsound : c.Sound) (target : Target) {new : VolumeHandle}
    (hfresh : c.system.world.cells.next ≤ new.cell.index)
    (hcells : new.cell.index < c'.system.world.cells.next)
    (hslot : ∀ other, ∀ u ∈ c'.system.slotOf other,
      u ∈ c.system.slotOf other ∨ other = target ∧ u = new)
    (hroll : ∀ i, ∀ u ∈ c'.roll i, u ∈ c.roll i ∨ i = some target ∧ u = new) : Sound c' := by
  -- what was in a slot or on a roll before is not the new volume
  have hnew : ∀ u : VolumeHandle, u.cell.index < c.system.world.cells.next → ¬ new.Same u :=
    fun u hu => VolumeHandle.not_same_of_lt hfresh hu
  refine ⟨?_, ?_, ?_⟩
  · intro other u hu
    rcases hslot other u hu with hold | ⟨_, rfl⟩
    · have := h.known other u hold
      omega
    · exact hcells
  · intro a b u v hu hv hsame
    rcases hslot a u hu with hu | ⟨rfl, rfl⟩ <;> rcases hslot b v hv with hv | ⟨rfl, rfl⟩
    · exact h.apart a b u v hu hv hsame
    · exact absurd hsame.symm (hnew u (h.known a u hu))
    · exact absurd hsame (hnew v (h.known b v hv))
    · rfl
  · intro a i u v hu hv hsame
    rcases hslot a u hu with hu | ⟨rfl, rfl⟩ <;> rcases hroll i v hv with hv | ⟨rfl, rfl⟩
    · exact h.home a i u v hu hv hsame
    · exact absurd hsame.symm (hnew u (h.known a u hu))
    · exact absurd hsame (hnew v (hsound.known i v hv))
    · rfl

/-- The slot of a table is gone, and what the table listed went astray. -/
theorem closed (h : Sound c) (hnext : c.system.world.cells.next ≤ c'.system.world.cells.next)
    {target : Target} (hempty : c'.system.slotOf target = [])
    (hslot : ∀ other, other ≠ target → c'.system.slotOf other = c.system.slotOf other)
    (hroll : ∀ i, ∀ u ∈ c'.roll i, u ∈ c.roll i ∨ u ∈ c.roll (some target)) : Sound c' := by
  have hold : ∀ other, ∀ u ∈ c'.system.slotOf other,
      other ≠ target ∧ u ∈ c.system.slotOf other := by
    intro other u hu
    by_cases he : other = target
    · rw [he, hempty] at hu
      cases hu
    · exact ⟨he, hslot other he ▸ hu⟩
  refine ⟨?_, ?_, ?_⟩
  · intro other u hu
    exact Nat.lt_of_lt_of_le (h.known other u (hold other u hu).2) hnext
  · intro a b u v hu hv hsame
    exact h.apart a b u v (hold a u hu).2 (hold b v hv).2 hsame
  · intro a i u v hu hv hsame
    obtain ⟨hne, hu⟩ := hold a u hu
    rcases hroll i v hv with hv | hv
    · exact h.home a i u v hu hv hsame
    · exact absurd (Option.some.inj (h.home a _ u v hu hv hsame)).symm hne

end Slots.Sound

/-! ### All tables together -/

namespace System

open Classical in
/-- How many handles to a volume the tables of a system keep. -/
noncomputable def keeps (s : System σ) (v : VolumeHandle) : Nat :=
  (if s.Lists v then 1 else 0) + if s.Slots v then 1 else 0

/-- How many handles to a volume the table of a target keeps. -/
def keptBy (s : System σ) (target : Target) (v : VolumeHandle) : Nat :=
  copies (s.volumesOf target) v + copies (s.slotOf target) v

open Classical in
theorem keeps_eq (s : System σ) (v : VolumeHandle) :
    s.keeps v = (if ∃ target, ∃ u ∈ s.volumesOf target, u.Same v then 1 else 0) +
      if ∃ target, ∃ u ∈ s.slotOf target, u.Same v then 1 else 0 := by
  rw [keeps, if_congr lists_iff rfl rfl, if_congr slots_iff rfl rfl]

theorem keptBy_of_tableOf {s : System σ} {target : Target} {t : MountTable}
    (h : s.tableOf target = some t) (v : VolumeHandle) : s.keptBy target v = t.keeps v := by
  rw [keptBy, volumesOf_eq h, slotOf_eq h, MountTable.keeps]

theorem keptBy_of_tableOf_eq_none {s : System σ} {target : Target} (h : s.tableOf target = none)
    (v : VolumeHandle) : s.keptBy target v = 0 := by
  rw [keptBy, volumesOf, slotOf, h]
  rfl

end System

namespace Slots.Sound

variable {c c' : Census σ}

/-- The table of one target keeps no more than all tables do. -/
theorem keptBy_le_keeps (h : Sound c) (hlists : c.Sound) (target : Target) (v : VolumeHandle) :
    c.system.keptBy target v ≤ c.system.keeps v := by
  classical
  rw [System.keeps_eq, hlists.lists_apart.present_eq target, h.slots_apart.present_eq target,
    System.keptBy]
  omega

/-- When one table changes, what all tables keep changes by what that one keeps. -/
theorem keeps_change (h : Sound c) (hlists : c.Sound) (h' : Sound c') (hlists' : c'.Sound)
    {target : Target}
    (hother : ∀ other, other ≠ target → c'.system.tableOf other = c.system.tableOf other)
    (v : VolumeHandle) :
    c'.system.keeps v + c.system.keptBy target v =
      c.system.keeps v + c'.system.keptBy target v := by
  have hlisted := hlists.lists_apart.present_change hlists'.lists_apart
    (fun other he => System.volumesOf_congr (hother other he)) v
  have hslotted := h.slots_apart.present_change h'.slots_apart
    (fun other he => System.slotOf_congr (hother other he)) v
  rw [System.keeps_eq, System.keeps_eq, System.keptBy, System.keptBy]
  omega

end Slots.Sound

end VolumeService
