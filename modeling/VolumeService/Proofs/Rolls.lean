import VolumeService.Proofs.Chronicle

/-! # Rolls of volumes and their ids

Volumes are listed in several places at once: each mount table has its list, and there may be
others.  A family of such lists is a family of *rolls*.

* **The invariant** (`Rolls.Sound`).  No volume is on two rolls or twice on one, and the volumes
  that carry an id are those on some roll.
* **Changes.**  A volume goes on a roll with an id (`registered`), goes off its roll and loses the
  id (`removed`), or a whole roll is handed over to another (`handedOver`).  A request to a table
  changes its roll in one of the first two ways or not at all (`changed`), and no id of a volume on
  another roll (`idOf_of_changed`). -/

namespace VolumeService

variable {σ : Type}

/-- How a family of lists of volumes and the ids of all volumes belong together. -/
structure Rolls.Sound {ι : Type} (roll : ι → List VolumeHandle) (w : World σ) : Prop where
  known : ∀ i, ∀ v ∈ roll i, v.cell.index < w.cells.next
  /-- A volume is on one roll at most. -/
  apart : ∀ i j u v, u ∈ roll i → v ∈ roll j → u.Same v → i = j
  /-- A volume is on a roll once at most. -/
  nodup : ∀ i, ((roll i).map VolumeHandle.cell).Nodup
  /-- The volumes that carry an id are those on some roll. -/
  carried : ∀ v, (w.idOf v).isSome ↔ ∃ i, ∃ u ∈ roll i, u.Same v

namespace Rolls.Sound

variable {ι : Type} {roll roll' : ι → List VolumeHandle} {w w' : World σ}

theorem kept (h : Sound roll w) {t t' : MountTable} (hkept : Kept t w t' w') : Sound roll w' where
  known i v hv := Nat.lt_of_lt_of_le (h.known i v hv) hkept.cells
  apart := h.apart
  nodup := h.nodup
  carried v := by
    rw [hkept.ids]
    exact h.carried v

theorem mem_of_append {i : ι} {v : VolumeHandle} (hi : roll' i = roll i ++ [v])
    (hother : ∀ j, j ≠ i → roll' j = roll j) (j : ι) (u : VolumeHandle) :
    u ∈ roll' j ↔ u ∈ roll j ∨ j = i ∧ u = v := by
  by_cases hj : j = i
  · subst hj
    simp [hi]
  · simp [hother j hj, hj]

/-- A new volume with an id goes on one roll. -/
theorem registered (h : Sound roll w) {i : ι} {v : VolumeHandle} {id : VolumeId}
    (hnew : w.cells.next ≤ v.cell.index) (hcells : v.cell.index < w'.cells.next)
    (hi : roll' i = roll i ++ [v]) (hother : ∀ j, j ≠ i → roll' j = roll j)
    (hids : ∀ u, w'.idOf u = if v.Same u then some id else w.idOf u) : Sound roll' w' := by
  have hmem := mem_of_append hi hother
  -- no roll has the new volume, since its cell lies beyond all that are known
  have hfresh : ∀ j, ∀ u ∈ roll j, ¬ v.Same u := fun j u hu =>
    VolumeHandle.not_same_of_lt hnew (h.known j u hu)
  refine ⟨?_, ?_, ?_, ?_⟩
  · intro j u hu
    rcases (hmem j u).1 hu with hold | ⟨_, rfl⟩
    · have := h.known j u hold
      omega
    · exact hcells
  · intro j k u u' hu hu' hsame
    rcases (hmem j u).1 hu with hold | ⟨rfl, rfl⟩ <;>
      rcases (hmem k u').1 hu' with hold' | ⟨rfl, rfl⟩
    · exact h.apart j k u u' hold hold' hsame
    · exact absurd hsame.symm (hfresh j u hold)
    · exact absurd hsame (hfresh k u' hold')
    · rfl
  · intro j
    by_cases hj : j = i
    · subst hj
      rw [hi, List.map_append, List.nodup_append]
      refine ⟨h.nodup j, List.nodup_singleton _, ?_⟩
      intro cell hcell last hlast heq
      obtain ⟨u, hu, rfl⟩ := List.mem_map.1 hcell
      exact hfresh j u hu (heq.trans (List.mem_singleton.1 hlast)).symm
    · rw [hother j hj]
      exact h.nodup j
  · intro u
    rw [hids]
    split
    next hsame => exact ⟨fun _ => ⟨i, v, (hmem i v).2 (.inr ⟨rfl, rfl⟩), hsame⟩, fun _ => rfl⟩
    next hne =>
      rw [h.carried]
      constructor
      · rintro ⟨j, x, hx, hsame⟩
        exact ⟨j, x, (hmem j x).2 (.inl hx), hsame⟩
      · rintro ⟨j, x, hx, hsame⟩
        rcases (hmem j x).1 hx with hold | ⟨_, rfl⟩
        · exact ⟨j, x, hold, hsame⟩
        · exact absurd hsame hne

theorem mem_of_erase (h : Sound roll w) {i : ι} {v : VolumeHandle} (hv : v ∈ roll i)
    (hi : roll' i = (roll i).erase v) (hother : ∀ j, j ≠ i → roll' j = roll j) (j : ι)
    (u : VolumeHandle) : u ∈ roll' j ↔ u ∈ roll j ∧ ¬ v.Same u := by
  by_cases hj : j = i
  · subst hj
    rw [hi, (List.Nodup.of_map _ (h.nodup j)).mem_erase_iff]
    constructor
    · rintro ⟨hne, hu⟩
      exact ⟨hu, fun hsame => hne (List.inj_on_of_nodup_map (h.nodup j) hv hu hsame).symm⟩
    · rintro ⟨hu, hne⟩
      exact ⟨fun he => hne (he ▸ rfl), hu⟩
  · rw [hother j hj]
    exact ⟨fun hu => ⟨hu, fun hsame => hj (h.apart i j v u hv hu hsame).symm⟩, And.left⟩

/-- A volume goes off its roll and loses its id. -/
theorem removed (h : Sound roll w) {i : ι} {v : VolumeHandle} (hv : v ∈ roll i)
    (hcells : w.cells.next ≤ w'.cells.next) (hi : roll' i = (roll i).erase v)
    (hother : ∀ j, j ≠ i → roll' j = roll j)
    (hids : ∀ u, w'.idOf u = if v.Same u then none else w.idOf u) : Sound roll' w' := by
  have hmem := h.mem_of_erase hv hi hother
  refine ⟨?_, ?_, ?_, ?_⟩
  · intro j u hu
    exact Nat.lt_of_lt_of_le (h.known j u ((hmem j u).1 hu).1) hcells
  · intro j k u u' hu hu' hsame
    exact h.apart j k u u' ((hmem j u).1 hu).1 ((hmem k u').1 hu').1 hsame
  · intro j
    by_cases hj : j = i
    · subst hj
      rw [hi]
      exact (h.nodup j).sublist (List.erase_sublist.map _)
    · rw [hother j hj]
      exact h.nodup j
  · intro u
    rw [hids]
    split
    next hsame =>
      refine ⟨fun hnone => absurd hnone (by simp), ?_⟩
      rintro ⟨j, x, hx, hxu⟩
      exact absurd (hsame.trans hxu.symm) ((hmem j x).1 hx).2
    next hne =>
      rw [h.carried]
      constructor
      · rintro ⟨j, x, hx, hsame⟩
        exact ⟨j, x, (hmem j x).2 ⟨hx, fun hvx => hne (hvx.trans hsame)⟩, hsame⟩
      · rintro ⟨j, x, hx, hsame⟩
        exact ⟨j, x, ((hmem j x).1 hx).1, hsame⟩

theorem mem_of_handOver {i j : ι} (hij : i ≠ j) (hi : roll' i = [])
    (hj : roll' j = roll j ++ roll i) (hother : ∀ k, k ≠ i → k ≠ j → roll' k = roll k) (k : ι)
    (u : VolumeHandle) : u ∈ roll' k ↔ k = j ∧ u ∈ roll i ∨ k ≠ i ∧ u ∈ roll k := by
  by_cases hki : k = i
  · subst hki
    simp [hi, hij]
  · by_cases hkj : k = j
    · subst hkj
      simp [hj, hki, or_comm]
    · simp [hother k hki hkj, hki, hkj]

/-- One roll is handed over to another. -/
theorem handedOver (h : Sound roll w) {i j : ι} (hij : i ≠ j) (hi : roll' i = [])
    (hj : roll' j = roll j ++ roll i) (hother : ∀ k, k ≠ i → k ≠ j → roll' k = roll k) :
    Sound roll' w := by
  have hmem := mem_of_handOver hij hi hj hother
  refine ⟨?_, ?_, ?_, ?_⟩
  · intro k u hu
    rcases (hmem k u).1 hu with ⟨_, hold⟩ | ⟨_, hold⟩
    · exact h.known i u hold
    · exact h.known k u hold
  · intro k l u v hu hv hsame
    rcases (hmem k u).1 hu with ⟨rfl, hu⟩ | ⟨hki, hu⟩ <;>
      rcases (hmem l v).1 hv with ⟨rfl, hv⟩ | ⟨hli, hv⟩
    · rfl
    · exact absurd (h.apart i l u v hu hv hsame).symm hli
    · exact absurd (h.apart k i u v hu hv hsame) hki
    · exact h.apart k l u v hu hv hsame
  · intro k
    by_cases hki : k = i
    · rw [hki, hi]
      exact .nil
    · by_cases hkj : k = j
      · rw [hkj, hj, List.map_append, List.nodup_append]
        refine ⟨h.nodup j, h.nodup i, ?_⟩
        intro a ha b hb hab
        obtain ⟨u, hu, rfl⟩ := List.mem_map.1 ha
        obtain ⟨v, hv, rfl⟩ := List.mem_map.1 hb
        exact hij (h.apart j i u v hu hv hab).symm
      · rw [hother k hki hkj]
        exact h.nodup k
  · intro v
    rw [h.carried]
    constructor
    · rintro ⟨k, u, hu, hsame⟩
      by_cases hki : k = i
      · exact ⟨j, u, (hmem j u).2 (.inl ⟨rfl, hki ▸ hu⟩), hsame⟩
      · exact ⟨k, u, (hmem k u).2 (.inr ⟨hki, hu⟩), hsame⟩
    · rintro ⟨k, u, hu, hsame⟩
      rcases (hmem k u).1 hu with ⟨_, hold⟩ | ⟨_, hold⟩
      · exact ⟨i, u, hold, hsame⟩
      · exact ⟨k, u, hold, hsame⟩

/-- A request changes one roll along with its table. -/
theorem changed (h : Sound roll w) {t t' : MountTable} {entered left : Option VolumeHandle}
    (hchange : Change t w t' w' entered left) {i : ι} (hold : roll i = t.volumes)
    (hnew : roll' i = t'.volumes) (hother : ∀ j, j ≠ i → roll' j = roll j) :
    Sound roll' w' := by
  cases hchange with
  | kept hkept =>
      have hroll : roll' = roll := by
        funext j
        by_cases hj : j = i
        · rw [hj, hnew, hold, hkept.volumes]
        · exact hother j hj
      rw [hroll]
      exact h.kept hkept
  | registered hfresh hcells hvolumes _ hids =>
      exact h.registered hfresh hcells (by rw [hnew, hvolumes, hold]) hother hids
  | removed hv hvolumes _ hcells hids =>
      exact h.removed (hold ▸ hv) hcells (by rw [hnew, hvolumes, hold]) hother hids

/-- A request changes no id of a volume on another roll. -/
theorem idOf_of_changed (h : Sound roll w) {t t' : MountTable}
    {entered left : Option VolumeHandle} (hchange : Change t w t' w' entered left) {i j : ι}
    (hold : roll i = t.volumes) {v : VolumeHandle} (hv : v ∈ roll j) (hj : j ≠ i) :
    w'.idOf v = w.idOf v := by
  cases hchange with
  | kept hkept => exact hkept.ids v
  | registered hfresh _ _ _ hids =>
      rw [hids, if_neg (VolumeHandle.not_same_of_lt hfresh (h.known j v hv))]
  | removed hu _ _ _ hids =>
      rw [hids, if_neg fun hsame => hj (h.apart i j _ v (hold ▸ hu) hv hsame).symm]

end Rolls.Sound

end VolumeService
