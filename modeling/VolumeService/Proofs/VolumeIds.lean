import VolumeService.Proofs.Chronicle

/-! # Ids over whole histories

What the ids of volumes tell, in any history of one table (`Chronicle.ids_along_runs`).

* **Registrations are numbered.**  The `k`-th registration gets the `k`-th id; only registrations
  move the counter.  At the largest id the counter stays, and then ids repeat.
* **Up to the largest id** (`Sound.ledger_increasing`).  As long as there are no more
  registrations than ids, ids grow with the order of registration.  So the ids of the listed
  volumes increase along the list, and an id finds the one volume that carries it.
* **No reuse.**  A removed volume has no id ever after, and an id that one volume has carried is
  carried by no other (`Sound.eq_of_id_eq`, together with the growth of the ledger). -/

namespace VolumeService

namespace Chronicle

variable {σ : Type}

/-! ### One state -/

namespace Sound

variable {c : Chronicle σ}

/-- The number of the id that the `k`-th registration was given. -/
theorem raw_of_given (h : c.Sound) {k : Nat} {entry : Registration}
    (hk : c.ledger[k]? = some entry) :
    ∃ id, entry.id = some id ∧ id.raw = min (k + 1) VolumeId.maxRaw := by
  refine ⟨_, h.given k entry hk, ?_⟩
  rw [VolumeId.raw_advance, Nat.add_comm k 1]
  rfl

theorem ledger_increasing (h : c.Sound) (hbound : c.ledger.length ≤ VolumeId.maxRaw) :
    c.ledger.Pairwise fun a b => ∃ i j, a.id = some i ∧ b.id = some j ∧ i.raw < j.raw := by
  refine List.pairwise_iff_getElem.2 ?_
  intro k l hk hl hkl
  obtain ⟨i, hi, hiraw⟩ := h.raw_of_given (List.getElem?_eq_getElem hk)
  obtain ⟨j, hj, hjraw⟩ := h.raw_of_given (List.getElem?_eq_getElem hl)
  exact ⟨i, j, hi, hj, by omega⟩

/-- Below the limit an id belongs to one entry of the ledger. -/
theorem eq_of_id_eq (h : c.Sound) (hbound : c.ledger.length ≤ VolumeId.maxRaw)
    {a b : Registration} (ha : a ∈ c.ledger) (hb : b ∈ c.ledger) (hid : a.id = b.id) : a = b := by
  obtain ⟨k, hk, rfl⟩ := List.getElem_of_mem ha
  obtain ⟨l, hl, rfl⟩ := List.getElem_of_mem hb
  obtain ⟨i, hi, hiraw⟩ := h.raw_of_given (List.getElem?_eq_getElem hk)
  obtain ⟨j, hj, hjraw⟩ := h.raw_of_given (List.getElem?_eq_getElem hl)
  have hij : i = j := Option.some.inj (hi.symm.trans (hid.trans hj))
  have hkl : k = l := by
    rw [hij] at hiraw
    omega
  subst hkl
  rfl

/-- A registered volume that carries an id carries the one it was given. -/
theorem id_of_idOf (h : c.Sound) {entry : Registration} (hentry : entry ∈ c.ledger)
    {id : VolumeId} (hid : c.world.idOf entry.volume = some id) : entry.id = some id := by
  have hlive : entry.volume ∉ c.removed := by
    intro hgone
    rw [(h.gone _ hgone).2] at hid
    cases hid
  rw [← h.carried entry hentry hlive, hid]

/-- The ids of the listed volumes increase along the list. -/
theorem volumes_increasing (h : c.Sound) (hbound : c.ledger.length ≤ VolumeId.maxRaw) :
    c.table.volumes.Pairwise fun u v =>
      ∃ i j, c.world.idOf u = some i ∧ c.world.idOf v = some j ∧ i.raw < j.raw := by
  rw [h.volumes, List.filter_map, List.pairwise_map]
  refine ((h.ledger_increasing hbound).filter _).imp_of_mem ?_
  intro a b ha hb hab
  obtain ⟨ha, halive⟩ := List.mem_filter.1 ha
  obtain ⟨hb, hblive⟩ := List.mem_filter.1 hb
  obtain ⟨i, j, hi, hj, hij⟩ := hab
  refine ⟨i, j, ?_, ?_, hij⟩
  · rw [h.carried a ha (of_decide_eq_true halive), hi]
  · rw [h.carried b hb (of_decide_eq_true hblive), hj]

/-- A search by id finds the listed volume that carries the id. -/
theorem findId_eq_some_iff (h : c.Sound) (hbound : c.ledger.length ≤ VolumeId.maxRaw)
    (id : VolumeId) (v : VolumeHandle) :
    (c.table.findId c.world id).1 = some v ↔
      v ∈ c.table.volumes ∧ c.world.idOf v = some id := by
  rw [show (c.table.findId c.world id).1 = c.table.withId? c.world id from rfl]
  constructor
  · intro hfound
    exact ⟨MountTable.mem_volumes_of_withId? hfound, MountTable.idOf_of_withId? hfound⟩
  · rintro ⟨hv, hid⟩
    cases hfound : c.table.withId? c.world id with
    | none => exact absurd hid (MountTable.withId?_eq_none_iff.1 hfound v hv)
    | some u =>
        have huid := MountTable.idOf_of_withId? hfound
        obtain ⟨⟨a, ha, rfl⟩, _⟩ :=
          h.mem_volumes_iff.1 (MountTable.mem_volumes_of_withId? hfound)
        obtain ⟨⟨b, hb, rfl⟩, _⟩ := h.mem_volumes_iff.1 hv
        have hab : a.id = b.id := (h.id_of_idOf ha huid).trans (h.id_of_idOf hb hid).symm
        rw [h.eq_of_id_eq hbound ha hb hab]

end Sound

/-! ### Runs -/

variable [DriverModel σ]

/-- A request that registers nothing leaves the counter alone. -/
theorem nextId_of_registered?_eq_none (t : MountTable) (w : World σ) (request : Request)
    (h : request.registered? t (t.handle w request).1 = none) :
    (t.handle w request).2.1.nextId = t.nextId := by
  have hchange := Change.of_handle t w request
  rw [h] at hchange
  generalize request.removed? (t.handle w request).1 = left at hchange
  cases hchange with
  | kept hkept => exact hkept.nextId
  | removed _ _ hnext _ _ => exact hnext

/-- The ledger and the list of removals only grow. -/
theorem prefix_run (c : Chronicle σ) (moves : List (Move σ)) :
    c.ledger <+: (c.run moves).ledger ∧ c.removed <+: (c.run moves).removed := by
  induction moves generalizing c with
  | nil => exact ⟨List.prefix_rfl, List.prefix_rfl⟩
  | cons move rest ih =>
      obtain ⟨hledger, hremoved⟩ := ih (c.step move)
      cases move with
      | deed deed => exact ⟨hledger, hremoved⟩
      | ask request =>
          exact ⟨(List.prefix_append ..).trans hledger, (List.prefix_append ..).trans hremoved⟩

/-- An id that a registered volume carries is carried by no other registered volume later. -/
theorem Sound.eq_of_carried_later {c : Chronicle σ} (h : c.Sound) {later : List (Move σ)}
    (hbound : (c.run later).ledger.length ≤ VolumeId.maxRaw) {a b : Registration}
    (ha : a ∈ c.ledger) (hb : b ∈ (c.run later).ledger) {id : VolumeId}
    (hid : c.world.idOf a.volume = some id)
    (hlater : (c.run later).world.idOf b.volume = some id) : b = a := by
  have hsound := sound_run h later
  have hmem : a ∈ (c.run later).ledger := (c.prefix_run later).1.subset ha
  exact hsound.eq_of_id_eq hbound hb hmem
    ((hsound.id_of_idOf hb hlater).trans (h.id_of_idOf ha hid).symm)

/-- Ids in any history of a table: registrations are numbered from one, nothing else moves the
counter, a volume keeps its id until it is removed and has none from then on, and up to the
largest id the ids grow along the list, find their volumes, and are never used again. -/
theorem ids_along_runs (root : NodeId) (drivers : Registry) (w : World σ)
    (moves : List (Move σ)) :
    let c := (start root drivers w).run moves
    (∀ k entry, c.ledger[k]? = some entry →
      ∃ id, entry.id = some id ∧ id.raw = min (k + 1) VolumeId.maxRaw) ∧
    (∀ request, request.registered? c.table (c.table.handle c.world request).1 = none →
      (c.table.handle c.world request).2.1.nextId = c.table.nextId) ∧
    c.table.volumes =
      (c.ledger.map Registration.volume).filter (fun v => decide (v ∉ c.removed)) ∧
    (∀ entry ∈ c.ledger, entry.volume ∈ c.table.volumes →
      c.world.idOf entry.volume = entry.id) ∧
    (∀ later, ∀ v ∈ c.removed, (c.run later).world.idOf v = none) ∧
    (c.ledger.length ≤ VolumeId.maxRaw →
      (c.table.volumes.Pairwise fun u v =>
        ∃ i j, c.world.idOf u = some i ∧ c.world.idOf v = some j ∧ i.raw < j.raw) ∧
      ∀ id v, (c.table.findId c.world id).1 = some v ↔
        v ∈ c.table.volumes ∧ c.world.idOf v = some id) ∧
    ∀ later, (c.run later).ledger.length ≤ VolumeId.maxRaw →
      ∀ a ∈ c.ledger, ∀ b ∈ (c.run later).ledger, ∀ id,
        c.world.idOf a.volume = some id → (c.run later).world.idOf b.volume = some id →
          b.volume = a.volume := by
  intro c
  have hsound : c.Sound := sound_run (.start root drivers w) moves
  refine ⟨fun k entry hk => hsound.raw_of_given hk,
    fun request h => nextId_of_registered?_eq_none c.table c.world request h, hsound.volumes,
    ?_, ?_, fun hbound => ⟨hsound.volumes_increasing hbound, hsound.findId_eq_some_iff hbound⟩,
    ?_⟩
  · intro entry hentry hlisted
    exact hsound.carried entry hentry (hsound.mem_volumes_iff.1 hlisted).2
  · intro later v hv
    exact ((sound_run hsound later).gone v ((c.prefix_run later).2.subset hv)).2
  · intro later hbound a ha b hb id hid hlater
    rw [hsound.eq_of_carried_later hbound ha hb hid hlater]

end Chronicle

end VolumeService
