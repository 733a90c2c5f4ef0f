/-! # Stores: values behind identities that are never used again

Everything that is shared and changes (nodes of the namespace, the cells behind volume
handles, the states of drivers, mount tables) lives in a store and is spoken of by its
identity.

* **Identities.** An identity is a position.  `push` adds a value under the identity `next`,
  and `next` only grows, so an identity that has been given out never comes to mean
  something else.
* **Release.** `free` empties a position for good: `get?` answers `none` there from then on,
  which is how a link to something that is gone is seen to be dead.
* **Laws.** Each operation is pinned by what it does to `get?` and to `next`; nothing
  outside this module looks at the slots. -/

namespace VolumeService

/-- A growing table of slots; an empty slot has been released. -/
structure Store (α : Type) where
  slots : Array (Option α) := #[]
deriving Repr

namespace Store

variable {α : Type}

/-- The store that has never held anything. -/
def empty : Store α := {}

/-- The identity that the next `push` gives out. -/
def next (s : Store α) : Nat := s.slots.size

/-- The value behind an identity, if it was given out and has not been released. -/
def get? (s : Store α) (i : Nat) : Option α := s.slots[i]?.getD none

/-- Is there a value behind the identity? -/
def has (s : Store α) (i : Nat) : Bool := (s.get? i).isSome

/-- Puts a value under the identity `next`. -/
def push (s : Store α) (a : α) : Store α := ⟨s.slots.push (some a)⟩

/-- Replaces the value behind a live identity. -/
def modify (s : Store α) (i : Nat) (f : α → α) : Store α :=
  match s.get? i with
  | none => s
  | some a => ⟨s.slots.setIfInBounds i (some (f a))⟩

/-- Releases an identity. -/
def free (s : Store α) (i : Nat) : Store α := ⟨s.slots.setIfInBounds i none⟩

/-- The live identities, in the order they were given out. -/
def ids (s : Store α) : List Nat := (List.range s.next).filter s.has

/-! ### What the operations do to `get?` and `next` -/

@[simp] theorem get?_empty (i : Nat) : (empty : Store α).get? i = none := by
  simp [empty, get?]

@[simp] theorem next_push (s : Store α) (a : α) : (s.push a).next = s.next + 1 := by
  simp [push, next]

@[simp] theorem next_free (s : Store α) (i : Nat) : (s.free i).next = s.next := by
  simp [free, next]

@[simp] theorem next_modify (s : Store α) (i : Nat) (f : α → α) :
    (s.modify i f).next = s.next := by
  unfold modify
  split <;> simp [next]

theorem get?_eq_none_of_next_le {s : Store α} {i : Nat} (h : s.next ≤ i) : s.get? i = none := by
  have : s.slots[i]? = none := Array.getElem?_eq_none h
  simp [get?, this]

theorem lt_next_of_get?_eq_some {s : Store α} {i : Nat} {a : α} (h : s.get? i = some a) :
    i < s.next := by
  by_cases hi : i < s.next
  · exact hi
  · rw [get?_eq_none_of_next_le (Nat.le_of_not_lt hi)] at h
    exact absurd h (by simp)

theorem get?_push (s : Store α) (a : α) (i : Nat) :
    (s.push a).get? i = if i = s.next then some a else s.get? i := by
  unfold push get? next
  rw [Array.getElem?_push]
  split <;> rfl

@[simp] theorem get?_push_self (s : Store α) (a : α) : (s.push a).get? s.next = some a := by
  simp [get?_push]

theorem get?_free (s : Store α) (i j : Nat) :
    (s.free i).get? j = if i = j then none else s.get? j := by
  unfold free get?
  rw [Array.getElem?_setIfInBounds]
  split
  · split <;> rfl
  · rfl

theorem get?_modify (s : Store α) (i j : Nat) (f : α → α) :
    (s.modify i f).get? j = if i = j then (s.get? j).map f else s.get? j := by
  unfold modify
  split
  next h =>
    split
    next hij => subst hij; simp [h]
    next => rfl
  next a h =>
    have hi := lt_next_of_get?_eq_some h
    split
    next hij =>
      subst hij
      rw [h, get?, Array.getElem?_setIfInBounds, if_pos rfl,
        if_pos (show i < s.slots.size from hi)]
      rfl
    next hij =>
      rw [get?, Array.getElem?_setIfInBounds, if_neg hij]
      rfl

@[simp] theorem get?_modify_self (s : Store α) (i : Nat) (f : α → α) :
    (s.modify i f).get? i = (s.get? i).map f := by
  simp [get?_modify]

theorem get?_modify_of_ne {i j : Nat} (s : Store α) (f : α → α) (h : i ≠ j) :
    (s.modify i f).get? j = s.get? j := by
  simp [get?_modify, h]

theorem has_modify (s : Store α) (i j : Nat) (f : α → α) : (s.modify i f).has j = s.has j := by
  unfold has
  rw [get?_modify]
  split <;> simp

theorem mem_ids {s : Store α} {i : Nat} : i ∈ s.ids ↔ s.has i = true := by
  unfold ids
  rw [List.mem_filter, List.mem_range, and_iff_right_iff_imp]
  intro h
  obtain ⟨a, ha⟩ := Option.isSome_iff_exists.1 h
  exact lt_next_of_get?_eq_some ha

theorem has_free (s : Store α) (i j : Nat) : (s.free i).has j = (decide (j ≠ i) && s.has j) := by
  unfold has
  rw [get?_free]
  by_cases h : i = j
  · simp [h]
  · simp [h, Ne.symm h]

theorem ids_free (s : Store α) (i : Nat) : (s.free i).ids = s.ids.filter (· ≠ i) := by
  unfold ids
  rw [next_free, List.filter_filter]
  exact List.filter_congr fun j _ => has_free s i j

end Store

end VolumeService
