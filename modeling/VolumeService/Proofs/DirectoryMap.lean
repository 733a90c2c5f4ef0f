import Mathlib.Data.Finmap
import VolumeService.Proofs.DirectoryOrder
import VolumeService.Proofs.NodeHistories

/-! # A directory is a finite map

Whoever changes and reads a directory sees a finite map from names to nodes, listed in byte order.

* **The map** (`NodeMap`).  A node is entered under its own name unless the name is taken, and a
  name is taken out with its node.  `NodeMap.after` follows what a history does to the map of one
  directory; operations on other nodes do nothing to it.
* **Representation** (`Directory.Represents`).  A directory stands for the map that has the same
  node under each name.  Its names are then the keys, as many as there are entries.
* **What shows** (`Graph.ShowsMap`).  Entering, taking out, look-up, size and listing all answer
  from that one map.
* **Histories** (`Graph.showsMap_after`).  A directory that is made empty and kept shows the map of
  its history at every moment, whatever else happens to the graph meanwhile. -/

namespace VolumeService

open Kernel (NodeOperation)

/-- A finite map from names to nodes. -/
abbrev NodeMap := Finmap fun _ : String => NodeId

namespace NodeMap

/-- Enters a node under a name, unless the name is taken. -/
def enter (m : NodeMap) (name : String) (n : NodeId) : NodeMap :=
  if name ∈ m then m else m.insert name n

/-- What an operation makes of the map of a directory. -/
def step (dir : NodeId) (g : Graph) (m : NodeMap) : NodeOperation → NodeMap
  | .add d child => if d = dir then m.enter (g.name child) child else m
  | .remove d name => if d = dir then m.erase name else m
  | _ => m

/-- The map of a directory after operations that begin with a given graph. -/
def after (dir : NodeId) (g : Graph) (m : NodeMap) : List NodeOperation → NodeMap
  | [] => m
  | operation :: rest => after dir (operation.apply g).2 (m.step dir g operation) rest

end NodeMap

/-! ### Directories that stand for maps -/

namespace Directory

/-- The directory has the nodes of the map, each under its name, and no others. -/
def Represents (d : Directory NodeId) (m : NodeMap) : Prop := ∀ name, d.find? name = m.lookup name

namespace Represents

variable {d : Directory NodeId} {m : NodeMap}

theorem empty : (Directory.empty : Directory NodeId).Represents ∅ := fun name => by
  rw [find?_empty, Finmap.lookup_empty]

theorem insert (h : d.Represents m) (name : String) (n : NodeId) :
    (d.insert name n).Represents (m.insert name n) := by
  intro other
  rw [find?_insert]
  split
  next he => rw [he, Finmap.lookup_insert]
  next hne => rw [Finmap.lookup_insert_of_ne m hne, h other]

theorem erase (h : d.Represents m) (name : String) : (d.erase name).Represents (m.erase name) := by
  intro other
  rw [find?_erase]
  split
  next he => rw [he, Finmap.lookup_erase]
  next hne => rw [Finmap.lookup_erase_ne hne, h other]

/-- To take out a name that is not listed makes no difference. -/
theorem erase_of_missing (h : d.Represents m) {name : String} (hmissing : d.find? name = none) :
    d.Represents (m.erase name) := by
  intro other
  by_cases he : other = name
  · rw [he, hmissing, Finmap.lookup_erase]
  · rw [Finmap.lookup_erase_ne he, h other]

theorem contains_iff (h : d.Represents m) (name : String) :
    d.contains name = true ↔ name ∈ m := by
  rw [contains, h name, Finmap.lookup_isSome]

theorem mem_names_iff (h : d.Represents m) (name : String) : name ∈ d.names ↔ name ∈ m :=
  Directory.mem_names_iff.trans (h.contains_iff name)

/-- A directory has as many entries as its map has keys. -/
theorem size_eq (h : d.Represents m) : d.size = m.keys.card := by
  have hnodup : d.names.Nodup := d.names_sorted.imp Name.Before.ne
  have hkeys : d.names.toFinset = m.keys := by
    ext name
    rw [List.mem_toFinset, Finmap.mem_keys]
    exact h.mem_names_iff name
  rw [← hkeys, List.toFinset_card_of_nodup hnodup, names, List.length_map, size]

theorem isEmpty_iff (h : d.Represents m) : d.isEmpty = true ↔ m = ∅ := by
  constructor
  · intro hempty
    refine Finmap.ext_lookup fun name => ?_
    rw [← h name, find?, List.isEmpty_iff.1 hempty, Finmap.lookup_empty]
    rfl
  · rintro rfl
    have hsize : d.size = 0 := by rw [h.size_eq, Finmap.keys_empty, Finset.card_empty]
    exact List.isEmpty_iff.2 (List.eq_nil_of_length_eq_zero hsize)

end Represents

/-- The listing goes up in byte order. -/
theorem before_of_nth? {d : Directory NodeId} {i j : Nat} {a b : String × NodeId} (hij : i < j)
    (ha : d.nth? i = some a) (hb : d.nth? j = some b) : Name.Before a.1 b.1 := by
  obtain ⟨hi, rfl⟩ := List.getElem?_eq_some_iff.1 ha
  obtain ⟨hj, rfl⟩ := List.getElem?_eq_some_iff.1 hb
  exact List.pairwise_iff_getElem.1 d.sorted i j hi hj hij

end Directory

/-! ### What a directory shows -/

/-- All that can be seen and done at a directory is that of one finite map. -/
structure Graph.ShowsMap (g : Graph) (dir : NodeId) (m : NodeMap) : Prop where
  /-- A name that is taken is refused, and nothing changes. -/
  add_of_mem : ∀ child, g.name child ∈ m →
    (NodeOperation.add dir child).apply g = (.refused .alreadyExists, g)
  add_of_notMem : ∀ child, g.name child ∉ m → ((NodeOperation.add dir child).apply g).1 = .done
  /-- Taking a name out brings the node under it. -/
  remove_of_lookup : ∀ name child, m.lookup name = some child →
    ((NodeOperation.remove dir name).apply g).1 = .node (.ok child)
  remove_of_notMem : ∀ name, name ∉ m →
    (NodeOperation.remove dir name).apply g = (.refused .notFound, g)
  lookup : ∀ name, g.lookup dir name =
    match m.lookup name with
    | some child => .ok child
    | none => .error .notFound
  size : (g.directory? dir).map Directory.size = some m.keys.card
  isEmpty : (g.directory? dir).map Directory.isEmpty = some (decide (m = ∅))
  /-- There is a line at each position below the size, and none from there on. -/
  line_iff : ∀ i, (∃ line, g.lineAt dir i = .ok (some line)) ↔ i < m.keys.card
  line_end : ∀ i, m.keys.card ≤ i → g.lineAt dir i = .ok none
  line_before : ∀ i j a b, i < j → g.lineAt dir i = .ok (some a) →
    g.lineAt dir j = .ok (some b) → Name.Before a.name b.name
  mem_iff : ∀ name, name ∈ m ↔ ∃ i line, g.lineAt dir i = .ok (some line) ∧ line.name = name
  /-- A line is of the kind of the node under its name. -/
  line_kind : ∀ i line, g.lineAt dir i = .ok (some line) →
    ∃ child, g.lookup dir line.name = .ok child ∧ line.kind = g.kind child

namespace Graph

theorem lineAt_eq_some_iff {g : Graph} {dir : NodeId} {d : Directory NodeId}
    (hdir : g.directory? dir = some d) {i : Nat} {line : Line} :
    g.lineAt dir i = .ok (some line) ↔
      ∃ child, d.nth? i = some (line.name, child) ∧ line.kind = g.kind child := by
  rw [lineAt_of_directory? hdir]
  cases hentry : d.nth? i with
  | none => simp
  | some entry =>
      obtain ⟨name, child⟩ := entry
      obtain ⟨name', kind⟩ := line
      simp only [Option.map_some, Except.ok.injEq, Option.some.injEq, Line.mk.injEq,
        Prod.mk.injEq]
      constructor
      · rintro ⟨rfl, rfl⟩
        exact ⟨child, ⟨rfl, rfl⟩, rfl⟩
      · rintro ⟨_, ⟨rfl, rfl⟩, rfl⟩
        exact ⟨rfl, rfl⟩

/-- A directory shows the map that it stands for. -/
theorem showsMap_of_represents {g : Graph} {dir : NodeId} {d : Directory NodeId} {m : NodeMap}
    (hdir : g.directory? dir = some d) (h : d.Represents m) : g.ShowsMap dir m where
  add_of_mem child hmem := by
    rw [NodeOperation.apply, add, hdir]
    dsimp only
    rw [if_pos ((h.contains_iff _).2 hmem)]
  add_of_notMem child hmem := by
    have hfree : ¬ d.contains (g.name child) = true := fun hc => hmem ((h.contains_iff _).1 hc)
    rw [NodeOperation.apply, add, hdir]
    dsimp only
    rw [if_neg hfree]
  remove_of_lookup name child hchild := by
    rw [NodeOperation.apply, remove, hdir]
    dsimp only
    rw [h name, hchild]
  remove_of_notMem name hmem := by
    rw [NodeOperation.apply, remove, hdir]
    dsimp only
    rw [h name, Finmap.lookup_eq_none.2 hmem]
  lookup name := by
    rw [lookup_of_directory? hdir]
    cases hfound : m.lookup name with
    | none => simp only [h name, hfound]
    | some child => simp only [h name, hfound]
  size := by rw [hdir, Option.map_some, h.size_eq]
  isEmpty := by
    rw [hdir, Option.map_some]
    exact congrArg some (Bool.eq_iff_iff.2 (h.isEmpty_iff.trans (decide_eq_true_iff).symm))
  line_iff i := by
    rw [← h.size_eq, ← Directory.nth?_isSome_iff, lineAt_of_directory? hdir]
    cases d.nth? i <;> simp
  line_end i hi := by
    rw [← h.size_eq] at hi
    rw [lineAt_of_directory? hdir, Directory.nth?_eq_none_iff.2 hi]
    rfl
  line_before i j a b hij ha hb := by
    obtain ⟨_, hentry, _⟩ := (lineAt_eq_some_iff hdir).1 ha
    obtain ⟨_, hentry', _⟩ := (lineAt_eq_some_iff hdir).1 hb
    exact Directory.before_of_nth? hij hentry hentry'
  mem_iff name := by
    rw [Finmap.mem_iff]
    constructor
    · rintro ⟨child, hchild⟩
      have hentry : d.nth? (d.rank name) = some (name, child) :=
        Directory.nth?_rank ((h name).trans hchild)
      exact ⟨d.rank name, ⟨name, g.kind child⟩,
        (lineAt_eq_some_iff hdir).2 ⟨child, hentry, rfl⟩, rfl⟩
    · rintro ⟨i, line, hline, rfl⟩
      obtain ⟨child, hentry, _⟩ := (lineAt_eq_some_iff hdir).1 hline
      exact ⟨child, (h _).symm.trans (Directory.find?_of_nth? hentry)⟩
  line_kind i line hline := by
    obtain ⟨child, hentry, hkind⟩ := (lineAt_eq_some_iff hdir).1 hline
    refine ⟨child, ?_, hkind⟩
    rw [lookup_of_directory? hdir, Directory.find?_of_nth? hentry]

/-! ### Histories of one directory -/

section history

variable {g : Graph} {dir : NodeId} {d : Directory NodeId} {m : NodeMap}

theorem directory?_addAll_of_ne {other : NodeId} (hne : dir ≠ other) (nodes : List NodeId) :
    (DeviceDir.addAll g other nodes).2.directory? dir = g.directory? dir := by
  rw [directory?, DeviceDir.content?_addAll_of_ne hne, ← directory?]

/-- Making a device directory leaves the directories there are as they are. -/
theorem directory?_createWith (hdir : g.directory? dir = some d) (devices : List NodeId) :
    (DeviceDir.createWith g devices).2.directory? dir = some d := by
  have hne : dir ≠ g.fresh := by
    rintro rfl
    exact not_issued_fresh g (.of_has (has_of_directory? hdir))
  have hmade : (DeviceDir.layOut g).directory? dir = some d := by
    have hhas : g.has dir = true := has_of_directory? hdir
    rw [(DeviceDir.continues_layOut g).extends.directory? hhas, hdir]
  rw [DeviceDir.createWith_snd, directory?_addAll_of_ne hne, DeviceDir.create_snd,
    directory?_addAll_of_ne hne, hmade]

/-- A directory that is held from outside is not reclaimed. -/
theorem directory?_reclaim {holders : List NodeId} (hdir : g.directory? dir = some d)
    (hheld : dir ∈ holders) : (g.reclaim holders).directory? dir = some d := by
  have hhas : (g.reclaim holders).has dir = true := by
    rw [has_reclaim_of_mem g hheld]
    exact has_of_directory? hdir
  rw [← (g.reclaim_extends holders).directory? hhas, hdir]

/-- Each operation that keeps the directory does to it what it does to the map. -/
theorem represents_step (hdir : g.directory? dir = some d) (h : d.Represents m)
    (operation : NodeOperation) (hkept : ∀ holders, operation = .reclaim holders → dir ∈ holders) :
    ∃ d', (operation.apply g).2.directory? dir = some d' ∧
      d'.Represents (m.step dir g operation) := by
  cases operation with
  | make node => exact ⟨d, directory?_push hdir node, h⟩
  | makeDevices devices => exact ⟨d, directory?_createWith hdir devices, h⟩
  | add d' child =>
      rw [NodeMap.step, NodeOperation.apply]
      by_cases hd : d' = dir
      · subst hd
        rw [if_pos rfl, NodeMap.enter]
        rcases add_cases hdir child with ⟨g', hadd, hfree, hdir'⟩ | ⟨hadd, htaken⟩
        · have hnot : g.name child ∉ m := fun hmem => by
            rw [(h.contains_iff _).2 hmem] at hfree
            cases hfree
          rw [hadd, if_neg hnot]
          exact ⟨_, hdir', h.insert _ _⟩
        · rw [hadd, if_pos ((h.contains_iff _).1 htaken)]
          exact ⟨d, hdir, h⟩
      · rw [if_neg hd]
        cases hadd : g.add d' child with
        | error e => exact ⟨d, hdir, h⟩
        | ok g' => exact ⟨d, (directory?_of_add_of_ne hadd (Ne.symm hd)).trans hdir, h⟩
  | remove d' name =>
      rw [NodeMap.step, NodeOperation.apply]
      by_cases hd : d' = dir
      · subst hd
        rw [if_pos rfl]
        cases hremove : g.remove d' name with
        | ok found =>
            refine ⟨d.erase name, ?_, h.erase name⟩
            rw [directory?_of_remove hdir hremove, if_pos rfl]
        | error e =>
            have hmissing : d.find? name = none := by
              cases hfound : d.find? name with
              | none => rfl
              | some child =>
                  rw [remove_eq_ok_iff.2 ⟨d, hdir, hfound, rfl⟩] at hremove
                  cases hremove
            exact ⟨d, hdir, h.erase_of_missing hmissing⟩
      · rw [if_neg hd]
        cases hremove : g.remove d' name with
        | error e => exact ⟨d, hdir, h⟩
        | ok found =>
            exact ⟨d, (directory?_of_remove_of_ne hremove (Ne.symm hd)).trans hdir, h⟩
  | reparent n parent =>
      refine ⟨d, ?_, h⟩
      rw [NodeOperation.apply, directory?_reparent, hdir]
  | reclaim holders => exact ⟨d, directory?_reclaim hdir (hkept holders rfl), h⟩
  | look | read | lookup | lineAt | next | resolve => exact ⟨d, hdir, h⟩

/-- What a directory stands for after a history that keeps it. -/
theorem represents_after (hdir : g.directory? dir = some d) (h : d.Represents m)
    {operations : List NodeOperation}
    (hkept : ∀ holders, NodeOperation.reclaim holders ∈ operations → dir ∈ holders) :
    ∃ d', (g.after operations).directory? dir = some d' ∧
      d'.Represents (m.after dir g operations) := by
  induction operations generalizing g d m with
  | nil => exact ⟨d, hdir, h⟩
  | cons operation rest ih =>
      obtain ⟨d', hdir', h'⟩ := represents_step hdir h operation fun holders he =>
        hkept holders (he ▸ List.mem_cons_self ..)
      exact ih hdir' h' fun holders hmem => hkept holders (List.mem_cons_of_mem _ hmem)

end history

/-- A directory that was made empty shows the map of all that was entered and taken out since, at
every moment of a history in which it is held. -/
theorem showsMap_after (g : Graph) (name : String) {operations : List NodeOperation}
    (hkept : ∀ holders, NodeOperation.reclaim holders ∈ operations → g.fresh ∈ holders) :
    let made := g.push (.newDirectory name)
    (made.after operations).ShowsMap g.fresh (NodeMap.after g.fresh made ∅ operations) := by
  intro made
  have hmade : made.directory? g.fresh = some .empty := by
    rw [directory?, content?, node?_push, if_pos rfl]
    rfl
  obtain ⟨d, hdir, h⟩ := represents_after hmade .empty hkept
  exact showsMap_of_represents hdir h

end Graph

/-! ### A directory with an empty name and one beyond ASCII -/

namespace DirectoryMapExample

/-- Three devices are made and entered, another one of the same name is refused, and a name is
taken out and entered again for another node. -/
def history : List NodeOperation :=
  [.make (.newImage "é" []), .make (.newImage "z" []), .make (.newDirectory ""),
    .make (.newImage "z" [1]), .add ⟨0⟩ ⟨1⟩, .add ⟨0⟩ ⟨2⟩, .add ⟨0⟩ ⟨3⟩, .add ⟨0⟩ ⟨4⟩,
    .remove ⟨0⟩ "z", .add ⟨0⟩ ⟨4⟩, .reclaim [⟨0⟩]]

def graph : Graph := (Graph.empty.push (.newDirectory "dev")).after history

def map : NodeMap := NodeMap.after ⟨0⟩ (Graph.empty.push (.newDirectory "dev")) ∅ history

/-- The map has the three names with the nodes that were entered last, and so has the directory. -/
theorem names_and_nodes :
    (∀ holders, NodeOperation.reclaim holders ∈ history → (⟨0⟩ : NodeId) ∈ holders) ∧
      graph.ShowsMap ⟨0⟩ map ∧ graph.lookup ⟨0⟩ "z" = .ok ⟨4⟩ ∧
      graph.lineAt ⟨0⟩ 2 = .ok (some ⟨"é", .device⟩) := by
  have hkept : ∀ holders, NodeOperation.reclaim holders ∈ history → (⟨0⟩ : NodeId) ∈ holders := by
    intro holders hmem
    simp only [history, List.mem_cons, reduceCtorEq, false_or, List.not_mem_nil, or_false,
      NodeOperation.reclaim.injEq] at hmem
    simp [hmem]
  have hshows : graph.ShowsMap ⟨0⟩ map := Graph.empty.showsMap_after "dev" hkept
  refine ⟨hkept, hshows, ?_, rfl⟩
  rw [hshows.lookup]
  rfl

end DirectoryMapExample

end VolumeService
