import VolumeService.Namespace

/-! # Cursors over directory listings

A cursor remembers nothing but the position of the line it reads next.

* **No snapshot.** Each step asks the directory for the line at the position, as the directory
  is at that moment.  A directory that changes between steps can therefore show a line twice
  or not at all.
* **Positions** are machine words: a caller may set any, and only a step that found a line
  moves on by one. -/

namespace VolumeService

/-- The position of the next line to read. -/
structure Cursor where
  position : UInt64 := 0
deriving DecidableEq, Repr

namespace Cursor

/-- The cursor at the first line. -/
def start : Cursor := {}

/-- The cursor at a given position. -/
def seek (_cursor : Cursor) (position : UInt64) : Cursor := ⟨position⟩

/-- The cursor back at the first line. -/
def rewind (cursor : Cursor) : Cursor := cursor.seek 0

/-- Reads the line at the position, with that position, and moves on; stays put past the end. -/
def next? (cursor : Cursor) (g : Graph) (dir : NodeId) : Option ((UInt64 × Line) × Cursor) :=
  (Namespace.line? g dir cursor.position.toNat).map fun line =>
    ((cursor.position, line), ⟨cursor.position + 1⟩)

/-- Reads at most `limit` lines and stops at the first that is not there. -/
def readUpTo (g : Graph) (dir : NodeId) :
    Nat → Cursor → List (UInt64 × Line) × Cursor
  | 0, cursor => ([], cursor)
  | limit + 1, cursor =>
    match cursor.next? g dir with
    | none => ([], cursor)
    | some (line, cursor) =>
      let (lines, cursor) := readUpTo g dir limit cursor
      (line :: lines, cursor)

/-- How many lines a node's listing has. -/
def listingSize (g : Graph) (dir : NodeId) : Nat :=
  match g.content? dir with
  | some (.directory children) => children.size
  | some (.fixed listing _) => listing.length
  | _ => 0

/-- Reads all remaining lines of a listing that does not change meanwhile. -/
def rest (cursor : Cursor) (g : Graph) (dir : NodeId) : List (UInt64 × Line) × Cursor :=
  readUpTo g dir (listingSize g dir) cursor

/-! ### Steps -/

theorem position_of_next? {cursor after : Cursor} {g : Graph} {dir : NodeId}
    {line : UInt64 × Line} (h : cursor.next? g dir = some (line, after)) :
    line.1 = cursor.position ∧ after.position = cursor.position + 1 := by
  unfold next? at h
  obtain ⟨_, _, he⟩ := Option.map_eq_some_iff.1 h
  injection he with hline hafter
  exact ⟨hline ▸ rfl, hafter ▸ rfl⟩

/-- In a directory the line read next is that of the entry at the position. -/
theorem next?_of_directory? {g : Graph} {dir : NodeId} {children : Directory NodeId}
    (h : g.directory? dir = some children) (cursor : Cursor) :
    cursor.next? g dir = (children.nth? cursor.position.toNat).map fun entry =>
      ((cursor.position, ⟨entry.1, g.kind entry.2⟩), ⟨cursor.position + 1⟩) := by
  rw [next?, Namespace.line?, Graph.lineAt_of_directory? h]
  cases children.nth? cursor.position.toNat <;> rfl

section

variable {g : Graph} {dir : NodeId} {children : Directory NodeId}
  {visited rest : List (String × NodeId)} {cursor : Cursor}

/-- A cursor that has been through all entries finds nothing. -/
theorem next?_of_entries_eq (h : g.directory? dir = some children)
    (hentries : children.entries = visited) (hcursor : cursor.position.toNat = visited.length) :
    cursor.next? g dir = none := by
  have hend : children.nth? visited.length = none :=
    Directory.nth?_eq_none_iff.2 (Nat.le_of_eq (congrArg List.length hentries))
  rw [next?_of_directory? h, hcursor, hend]
  rfl

/-- A cursor that has been through some of the entries reads the next one and goes on behind
it; positions do not wrap around as long as there are fewer entries than positions. -/
theorem next?_of_entries_append (h : g.directory? dir = some children)
    (hsize : children.size < UInt64.size) {entry : String × NodeId}
    (hentries : children.entries = visited ++ entry :: rest)
    (hcursor : cursor.position.toNat = visited.length) :
    ∃ cursor', cursor.next? g dir =
        some ((cursor.position, ⟨entry.1, g.kind entry.2⟩), cursor') ∧
      cursor'.position.toNat = (visited ++ [entry]).length := by
  have hentry : children.nth? visited.length = some entry := by
    rw [Directory.nth?, hentries, List.getElem?_append_right (Nat.le_refl _), Nat.sub_self]
    rfl
  have hlength : visited.length < children.size := by
    rw [Directory.size, hentries, List.length_append, List.length_cons]
    omega
  refine ⟨⟨cursor.position + 1⟩, ?_, ?_⟩
  · rw [next?_of_directory? h, hcursor, hentry]
    rfl
  · rw [UInt64.toNat_add, hcursor, List.length_append]
    exact Nat.mod_eq_of_lt (Nat.lt_of_le_of_lt hlength hsize)

end

/-- A line is only found below the size of the listing. -/
theorem lt_listingSize_of_line? {g : Graph} {dir : NodeId} {index : Nat} {line : Line}
    (h : Namespace.line? g dir index = some line) : index < listingSize g dir := by
  unfold Namespace.line? Graph.lineAt at h
  unfold listingSize
  split at h
  next children hc =>
    rw [hc]
    apply Directory.nth?_isSome_iff.1
    cases hn : children.nth? index
    · rw [hn] at h
      exact absurd h (by simp [Except.toOption])
    · rfl
  next listing links hc =>
    rw [hc]
    apply Decidable.byContradiction
    intro hlt
    rw [List.getElem?_eq_none (Nat.le_of_not_lt hlt)] at h
    exact absurd h (by simp [Except.toOption])
  next => exact absurd h (by simp [Except.toOption])
  next => exact absurd h (by simp [Except.toOption])

end Cursor

end VolumeService
