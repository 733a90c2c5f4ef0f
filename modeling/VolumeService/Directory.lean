import VolumeService.Name

/-! # Directories: finite maps from names, listed in byte order

A `Directory α` maps names to values (identities of nodes, in this library).

* **Order.** The entries are kept strictly increasing in `Name.Before`; the order is part of
  the type, so enumeration by position and look-up by name cannot disagree.
* **Operations.** `find?` and `nth?` look up by name and by position, `insert` and `erase`
  change one name.
* **Laws.** `find?_insert` and `find?_erase` say what each change does to look-up,
  and `mem_entries_iff` ties look-up to the list of entries. -/

namespace VolumeService

/-- A finite map from names, its entries strictly increasing by name. -/
structure Directory (α : Type) where
  entries : List (String × α) := []
  sorted : entries.Pairwise (fun a b => Name.Before a.1 b.1) := by exact .nil

namespace Directory

variable {α : Type}

instance [Repr α] : Repr (Directory α) := ⟨fun d n => reprPrec d.entries n⟩

/-- The directory without entries. -/
def empty : Directory α := {}

/-- How many names the directory has. -/
def size (d : Directory α) : Nat := d.entries.length

/-- Has the directory no names? -/
def isEmpty (d : Directory α) : Bool := d.entries.isEmpty

/-- The names, in byte order. -/
def names (d : Directory α) : List String := d.entries.map (·.1)

/-- The value under a name. -/
def find? (d : Directory α) (name : String) : Option α := d.entries.lookup name

/-- Has the directory this name? -/
def contains (d : Directory α) (name : String) : Bool := (d.find? name).isSome

/-- The entry at a position of the byte order. -/
def nth? (d : Directory α) (index : Nat) : Option (String × α) := d.entries[index]?

/-- Puts an entry at its place in the order, in the stead of one with its name. -/
def place (name : String) (value : α) : List (String × α) → List (String × α)
  | [] => [(name, value)]
  | (n, v) :: rest =>
    if Name.Before name n then (name, value) :: (n, v) :: rest
    else if Name.Before n name then (n, v) :: place name value rest
    else (name, value) :: rest

theorem mem_place {name : String} {value : α} {entries : List (String × α)}
    {e : String × α} (h : e ∈ place name value entries) : e = (name, value) ∨ e ∈ entries := by
  induction entries with
  | nil => simpa [place] using h
  | cons head rest ih =>
    unfold place at h
    split at h
    · simpa using h
    · split at h
      · rcases List.mem_cons.1 h with h | h
        · exact .inr (h ▸ List.mem_cons_self ..)
        · exact (ih h).imp_right (List.mem_cons_of_mem _)
      · exact (List.mem_cons.1 h).imp_right (List.mem_cons_of_mem _)

theorem sorted_place (name : String) (value : α) {entries : List (String × α)}
    (h : entries.Pairwise (fun a b => Name.Before a.1 b.1)) :
    (place name value entries).Pairwise (fun a b => Name.Before a.1 b.1) := by
  induction entries with
  | nil => simp [place]
  | cons head rest ih =>
    obtain ⟨hhead, hrest⟩ := List.pairwise_cons.1 h
    unfold place
    split
    next hb =>
      refine List.pairwise_cons.2 ⟨fun e he => ?_, h⟩
      rcases List.mem_cons.1 he with rfl | he
      · exact hb
      · exact hb.trans (hhead e he)
    next hnb =>
      split
      next hb =>
        refine List.pairwise_cons.2 ⟨fun e he => ?_, ih hrest⟩
        rcases mem_place he with rfl | he
        · exact hb
        · exact hhead e he
      next hnb' =>
        have hname := Name.eq_of_not_before hnb hnb'
        refine List.pairwise_cons.2 ⟨fun e he => ?_, hrest⟩
        rw [hname]
        exact hhead e he

/-- Puts a value under a name, in the stead of any that was there. -/
def insert (d : Directory α) (name : String) (value : α) : Directory α :=
  ⟨place name value d.entries, sorted_place name value d.sorted⟩

/-- Takes a name out. -/
def erase (d : Directory α) (name : String) : Directory α :=
  ⟨d.entries.filter (·.1 ≠ name), d.sorted.filter _⟩

/-! ### Look-up -/

@[simp] theorem find?_empty (name : String) : (empty : Directory α).find? name = none := rfl

theorem lookup_cons_eq (m : String) (v : α) (rest : List (String × α)) (n : String) :
    ((m, v) :: rest).lookup n = if n = m then some v else rest.lookup n := by
  by_cases h : n = m
  · simp [h]
  · rw [List.lookup_cons, beq_false_of_ne h, if_neg h]

theorem lookup_place (name : String) (value : α) (entries : List (String × α)) (n : String) :
    (place name value entries).lookup n =
      if n = name then some value else entries.lookup n := by
  induction entries with
  | nil => rw [place, lookup_cons_eq]
  | cons head rest ih =>
    obtain ⟨m, v⟩ := head
    unfold place
    split
    next => rw [lookup_cons_eq]
    next hnb =>
      split
      next hb =>
        rw [lookup_cons_eq, ih, lookup_cons_eq]
        by_cases h : n = name
        · rw [if_pos h, if_pos h, if_neg (h ▸ (Ne.symm hb.ne))]
        · rw [if_neg h, if_neg h]
      next hnb' =>
        have hname : name = m := Name.eq_of_not_before hnb hnb'
        subst hname
        rw [lookup_cons_eq, lookup_cons_eq]
        by_cases h : n = name <;> simp [h]

theorem find?_insert (d : Directory α) (name : String) (value : α) (n : String) :
    (d.insert name value).find? n = if n = name then some value else d.find? n :=
  lookup_place name value d.entries n

theorem lookup_filter_ne (name : String) (entries : List (String × α)) (n : String) :
    (entries.filter (·.1 ≠ name)).lookup n = if n = name then none else entries.lookup n := by
  induction entries with
  | nil => simp
  | cons head rest ih =>
    obtain ⟨m, v⟩ := head
    by_cases hm : m = name
    · subst hm
      rw [List.filter_cons_of_neg (by simp), ih, lookup_cons_eq]
      by_cases h : n = m <;> simp [h]
    · rw [List.filter_cons_of_pos (by simpa using hm), lookup_cons_eq, ih, lookup_cons_eq]
      by_cases h : n = name
      · rw [if_pos h, if_pos h, if_neg (h ▸ (Ne.symm hm))]
      · rw [if_neg h, if_neg h]

theorem find?_erase (d : Directory α) (name n : String) :
    (d.erase name).find? n = if n = name then none else d.find? n :=
  lookup_filter_ne name d.entries n

/-- An entry is listed exactly if look-up finds it. -/
theorem mem_entries_iff {d : Directory α} {name : String} {value : α} :
    (name, value) ∈ d.entries ↔ d.find? name = some value := by
  obtain ⟨entries, sorted⟩ := d
  unfold find?
  induction entries with
  | nil => simp
  | cons head rest ih =>
    obtain ⟨m, v⟩ := head
    obtain ⟨hhead, hrest⟩ := List.pairwise_cons.1 sorted
    rw [lookup_cons_eq, List.mem_cons, ih hrest]
    by_cases h : name = m
    · subst h
      have hnot : rest.lookup name ≠ some value := fun hl =>
        Name.Before.irrefl name (hhead _ ((ih hrest).2 hl))
      simp [hnot, eq_comm]
    · simp [h]

theorem mem_names_iff {d : Directory α} {name : String} :
    name ∈ d.names ↔ d.contains name = true := by
  unfold names contains
  rw [List.mem_map, Option.isSome_iff_exists]
  exact ⟨fun ⟨⟨n, v⟩, h, hn⟩ => ⟨v, mem_entries_iff.1 (hn ▸ h)⟩,
    fun ⟨v, h⟩ => ⟨(name, v), mem_entries_iff.2 h, rfl⟩⟩

/-! ### Position -/

theorem nth?_eq_none_iff {d : Directory α} {index : Nat} :
    d.nth? index = none ↔ d.size ≤ index := List.getElem?_eq_none_iff

theorem nth?_isSome_iff {d : Directory α} {index : Nat} :
    (d.nth? index).isSome ↔ index < d.size := by
  rw [nth?, size]
  simp

/-- What stands at a position is what look-up finds under its name. -/
theorem find?_of_nth? {d : Directory α} {index : Nat} {name : String} {value : α}
    (h : d.nth? index = some (name, value)) : d.find? name = some value :=
  mem_entries_iff.1 (List.mem_of_getElem? h)

/-- The first entry with a property is the one with the least name. -/
theorem least_of_split {d : Directory α} {p : α → Prop} {before after : List (String × α)}
    {first entry : String × α} (hsplit : d.entries = before ++ first :: after)
    (hbefore : ∀ e ∈ before, ¬ p e.2) (hentry : entry ∈ d.entries) (hp : p entry.2) :
    entry = first ∨ Name.Before first.1 entry.1 := by
  have hsorted := d.sorted
  rw [hsplit] at hsorted hentry
  rcases List.mem_append.1 hentry with hentry | hentry
  · exact absurd hp (hbefore entry hentry)
  · rcases List.mem_cons.1 hentry with rfl | hentry
    · exact .inl rfl
    · have hrest := (List.pairwise_append.1 hsorted).2.1
      exact .inr ((List.pairwise_cons.1 hrest).1 entry hentry)

end Directory

end VolumeService
