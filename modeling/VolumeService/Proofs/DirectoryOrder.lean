import Mathlib.Data.List.Perm.Basic
import VolumeService.Directory

/-! # Positions in a directory

A directory lists its names in byte order, so a name has no say in where it stands.

* **Rank** (`Directory.rank`).  The rank of a name is the number of names before it.  A name that is
  listed stands at its rank (`rank_of_nth?`), and one that is entered comes to stand there
  (`nth?_rank_insert`).
* **Changes.**  A new name leaves the rank of any other name or raises it (`rank_le_rank_insert`),
  and one that is taken out leaves it or lowers it (`rank_erase_le`).
* **Canonical form.**  Lists of entries in byte order with the same entries are the same list
  (`Directory.eq_of_perm`), so the order in which names were entered leaves no mark. -/

namespace VolumeService

namespace Directory

variable {α : Type}

/-- How many names of the directory are before a name. -/
def rank (d : Directory α) (name : String) : Nat :=
  d.names.countP fun other => decide (Name.Before other name)

/-! ### Where names stand -/

/-- A name is not before itself, and so does not count for its own rank. -/
theorem countP_before_cons_self (name : String) (names : List String) :
    (name :: names).countP (fun other => decide (Name.Before other name)) =
      names.countP fun other => decide (Name.Before other name) :=
  List.countP_cons_of_neg fun h => Name.Before.irrefl name (of_decide_eq_true h)

/-- A name stands at its rank. -/
theorem rank_of_nth? {d : Directory α} {index : Nat} {name : String} {value : α}
    (h : d.nth? index = some (name, value)) : d.rank name = index := by
  obtain ⟨hindex, hentry⟩ := List.getElem?_eq_some_iff.1 h
  have hsplit : d.entries =
      d.entries.take index ++ (name, value) :: d.entries.drop (index + 1) := by
    rw [← hentry, List.getElem_cons_drop, List.take_append_drop]
  have hsorted := d.sorted
  rw [hsplit] at hsorted
  obtain ⟨_, hfrom, hacross⟩ := List.pairwise_append.1 hsorted
  have hbefore : ((d.entries.take index).map (·.1)).countP
      (fun other => decide (Name.Before other name)) = index := by
    rw [List.countP_eq_length.2, List.length_map, List.length_take_of_le (Nat.le_of_lt hindex)]
    intro other hother
    obtain ⟨entry, hmem, rfl⟩ := List.mem_map.1 hother
    exact decide_eq_true (hacross entry hmem _ (List.mem_cons_self ..))
  have hafter : ((d.entries.drop (index + 1)).map (·.1)).countP
      (fun other => decide (Name.Before other name)) = 0 := by
    rw [List.countP_eq_zero]
    intro other hother hbefore
    obtain ⟨entry, hmem, rfl⟩ := List.mem_map.1 hother
    exact ((List.pairwise_cons.1 hfrom).1 entry hmem).asymm (of_decide_eq_true hbefore)
  rw [rank, names, hsplit, List.map_append, List.countP_append, hbefore, List.map_cons,
    countP_before_cons_self, hafter, Nat.add_zero]

/-- A listed name is found at its rank. -/
theorem nth?_rank {d : Directory α} {name : String} {value : α} (h : d.find? name = some value) :
    d.nth? (d.rank name) = some (name, value) := by
  obtain ⟨index, hindex⟩ := List.getElem?_of_mem (mem_entries_iff.2 h)
  rw [rank_of_nth? hindex]
  exact hindex

theorem rank_lt_size {d : Directory α} {name : String} (h : d.contains name = true) :
    d.rank name < d.size := by
  obtain ⟨value, hvalue⟩ := Option.isSome_iff_exists.1 h
  rw [← nth?_isSome_iff, nth?_rank hvalue]
  rfl

/-- What stands at a position is listed. -/
theorem contains_of_nth? {d : Directory α} {index : Nat} {name : String} {value : α}
    (h : d.nth? index = some (name, value)) : d.contains name = true := by
  rw [contains, find?_of_nth? h]
  rfl

/-! ### What changes do to positions -/

/-- A name that is not listed is added to the entries and takes none out. -/
theorem perm_place {name : String} {value : α} {entries : List (String × α)}
    (h : entries.lookup name = none) :
    (place name value entries).Perm ((name, value) :: entries) := by
  induction entries with
  | nil => exact .refl _
  | cons head rest ih =>
      obtain ⟨other, v⟩ := head
      rw [lookup_cons_eq] at h
      split at h
      next => cases h
      next hne =>
        rw [place]
        split
        next => exact .refl _
        next hnot =>
          rw [if_pos (Name.before_of_not_before_of_ne hnot hne)]
          exact ((ih h).cons _).trans (.swap ..)

theorem perm_insert {d : Directory α} {name : String} (h : d.contains name = false) (value : α) :
    (d.insert name value).entries.Perm ((name, value) :: d.entries) :=
  perm_place (Option.not_isSome_iff_eq_none.1 (Bool.eq_false_iff.1 h))

theorem perm_names_insert {d : Directory α} {name : String} (h : d.contains name = false)
    (value : α) : (d.insert name value).names.Perm (name :: d.names) :=
  (perm_insert h value).map _

theorem contains_insert (d : Directory α) (name : String) (value : α) (other : String) :
    (d.insert name value).contains other = true ↔ other = name ∨ d.contains other = true := by
  rw [contains, find?_insert, contains]
  split
  next he => exact ⟨fun _ => .inl he, fun _ => rfl⟩
  next hne => exact ⟨.inr, fun h => h.resolve_left hne⟩

theorem contains_of_contains_erase {d : Directory α} {name other : String}
    (h : (d.erase name).contains other = true) : d.contains other = true := by
  rw [contains, find?_erase] at h
  split at h
  next => cases h
  next => exact h

theorem rank_le_rank_insert {d : Directory α} {name : String} (h : d.contains name = false)
    (value : α) (other : String) : d.rank other ≤ (d.insert name value).rank other := by
  rw [rank, rank, (perm_names_insert h value).countP_eq]
  exact (List.sublist_cons_self name d.names).countP_le

/-- A name that is entered comes to stand where its rank was. -/
theorem rank_insert_self {d : Directory α} {name : String} (h : d.contains name = false)
    (value : α) : (d.insert name value).rank name = d.rank name := by
  rw [rank, (perm_names_insert h value).countP_eq, countP_before_cons_self, rank]

theorem rank_erase_le (d : Directory α) (name other : String) :
    (d.erase name).rank other ≤ d.rank other :=
  List.Sublist.countP_le (List.filter_sublist.map _)

theorem size_insert {d : Directory α} {name : String} (h : d.contains name = false) (value : α) :
    (d.insert name value).size = d.size + 1 := (perm_insert h value).length_eq

theorem size_erase_le (d : Directory α) (name : String) : (d.erase name).size ≤ d.size :=
  List.length_filter_le ..

/-! ### Canonical form -/

theorem names_sorted (d : Directory α) : d.names.Pairwise Name.Before :=
  List.pairwise_map.2 d.sorted

/-- Two lists in byte order that have the same entries are the same. -/
theorem eq_of_perm {β : Type} {entries entries' : List (String × β)}
    (hsorted : entries.Pairwise fun a b => Name.Before a.1 b.1)
    (hsorted' : entries'.Pairwise fun a b => Name.Before a.1 b.1) (h : entries.Perm entries') :
    entries = entries' :=
  h.eq_of_pairwise (fun _ _ _ _ hab hba => absurd hba hab.asymm) hsorted hsorted'

theorem ext_entries {d d' : Directory α} (h : d.entries = d'.entries) : d = d' := by
  obtain ⟨_, _⟩ := d
  obtain ⟨_, _⟩ := d'
  subst h
  rfl

end Directory

end VolumeService
