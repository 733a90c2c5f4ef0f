import VolumeService.MountTable.Resolve

/-! # Normal paths

The normal form of a path is found without looking at any node: `.` and empty pieces are dropped,
each `..` cancels the name before it, and a `..` with no name before it is dropped.

* **Reduction** (`Path.reduce`) works with the names that are still to be walked as a stack, and
  leaves plain names only (`Path.plain_of_mem_reduce`).
* **Trails** (`Namespace.Trail`).  A trail is a way down from the root, by plain names alone.
* **Well-formedness** (`Namespace.WellFormed`).  Whoever steps down along a name finds the node that
  it came from as the parent of the one that it came to, and the root has no parent but itself.
* **The stack is a trail** (`WellFormed.trail_of_walk`).  While a walk goes through the components
  of a path, the stack leads from the root to the node where the walk is: a name makes both longer,
  and `..` takes the last name off the stack and follows the parent link of its node.
* So a path that leads somewhere has a normal form that leads to the same node, through mounted
  volumes and without (`Namespace.normal_path_leads_alike`). -/

namespace VolumeService

namespace Path

/-- Takes one component more onto the names that are still to be walked, the last one first. -/
def reduceStep (names : List String) (component : String) : List String :=
  if component = "." then names
  else if component = ".." then names.tail
  else component :: names

/-- The names that are left to be walked of a list of components. -/
def reduce (components : List String) : List String := (components.foldl reduceStep []).reverse

/-- The absolute path of a list of names. -/
def ofNames (names : List String) : String := "/" ++ "/".intercalate names

/-- The normal form of an absolute path. -/
def normal (path : String) : String := ofNames (reduce (components path))

theorem reduceStep_dot (names : List String) : reduceStep names "." = names := if_pos rfl

theorem reduceStep_dotdot (names : List String) : reduceStep names ".." = names.tail := rfl

theorem reduceStep_of_ne {component : String} (hdot : component ≠ ".") (hdotdot : component ≠ "..")
    (names : List String) : reduceStep names component = component :: names := by
  rw [reduceStep, if_neg hdot, if_neg hdotdot]

/-! ### The shape of a normal path -/

/-- What is left to be walked was there before, or is a component with no meaning of its own. -/
theorem mem_foldl_reduceStep {names cs : List String} {name : String}
    (h : name ∈ cs.foldl reduceStep names) :
    name ∈ names ∨ name ∈ cs ∧ name ≠ "." ∧ name ≠ ".." := by
  induction cs generalizing names with
  | nil => exact .inl h
  | cons component rest ih =>
      rw [List.foldl_cons] at h
      rcases ih h with hmem | ⟨hmem, hne⟩
      · unfold reduceStep at hmem
        split at hmem
        next => exact .inl hmem
        next hdot =>
          split at hmem
          next => exact .inl (List.mem_of_mem_tail hmem)
          next hdotdot =>
            rcases List.mem_cons.1 hmem with rfl | hmem
            · exact .inr ⟨List.mem_cons_self .., hdot, hdotdot⟩
            · exact .inl hmem
      · exact .inr ⟨List.mem_cons_of_mem _ hmem, hne⟩

/-- Reduction leaves plain names only. -/
theorem plain_of_mem_reduce {path name : String} (h : name ∈ reduce (components path)) :
    Plain name := by
  rcases mem_foldl_reduceStep (List.mem_reverse.1 h) with hmem | ⟨hmem, hdot, hdotdot⟩
  · cases hmem
  · obtain ⟨hne, hslash⟩ := slash_notMem_of_mem_components hmem
    exact ⟨hne, hslash, hdot, hdotdot⟩

theorem components_of_plain {name : String} (h : Plain name) : components name = [name] :=
  components_of_slash_notMem h.1 h.2.1

/-- The path of plain names has these names as its components. -/
theorem components_ofNames {names : List String} (h : ∀ name ∈ names, Plain name) :
    components (ofNames names) = names := by
  rw [ofNames, components_slash]
  induction names with
  | nil => rfl
  | cons name rest ih =>
      have hname := components_of_plain (h name (List.mem_cons_self ..))
      have hrest := ih fun other hmem => h other (List.mem_cons_of_mem _ hmem)
      cases rest with
      | nil => rw [String.intercalate_singleton, hname]
      | cons next more =>
          rw [String.intercalate_cons_cons, components_append_slash, hname, hrest]
          rfl

theorem components_normal (path : String) : components (normal path) = reduce (components path) :=
  components_ofNames fun _ => plain_of_mem_reduce

theorem isAbsolute_normal (path : String) : isAbsolute (normal path) = true := isAbsolute_slash _

end Path

namespace MountTable

/-- A name is entered through a volume at the root, or as a child. -/
theorem enter_cases {t : MountTable} {g : Graph} {n m : NodeId} {name : String}
    (h : t.enter g n name = .ok m) :
    n = t.root ∧ t.mountPoint? name = some m ∨ g.lookup n name = .ok m := by
  unfold enter at h
  split at h
  next hroot =>
    split at h
    next mountPoint hmount =>
      obtain rfl := Except.ok.inj h
      exact .inl ⟨hroot, hmount⟩
    next => exact .inr h
  next => exact .inr h

theorem exists_of_mountPoint? {t : MountTable} {name : String} {n : NodeId}
    (h : t.mountPoint? name = some n) : ∃ v ∈ t.volumes, v.volume.mountPoint = some n := by
  obtain ⟨v, hv, hn⟩ := Option.bind_eq_some_iff.1 h
  exact ⟨v, mem_volumes_of_named? hv, hn⟩

end MountTable

namespace Namespace

/-! ### Trails -/

section trails

variable {parent? : NodeId → Option NodeId} {enter : NodeId → String → Except NodeError NodeId}
  {root n m : NodeId} {name : String} {names cs : List String}

/-- A way down from the root to a node by plain names, the last one first. -/
inductive Trail (enter : NodeId → String → Except NodeError NodeId) (root : NodeId) :
    List String → NodeId → Prop where
  | root : Trail enter root [] root
  | down {names : List String} {name : String} {n m : NodeId} (above : Trail enter root names n)
      (hname : Path.Plain name) (hdown : enter n name = .ok m) : Trail enter root (name :: names) m

/-- Parent links lead back to where a step down came from, and nowhere from the root. -/
structure WellFormed (parent? : NodeId → Option NodeId)
    (enter : NodeId → String → Except NodeError NodeId) (root : NodeId) : Prop where
  top : parent? root = none ∨ parent? root = some root
  linked : ∀ {names name n m}, Trail enter root names n → Path.Plain name → enter n name = .ok m →
    parent? m = some n

/-- It is enough to look at a set of nodes that no step down leaves. -/
theorem WellFormed.of_closed {within : NodeId → Prop}
    (htop : parent? root = none ∨ parent? root = some root) (hroot : within root)
    (hdown : ∀ n name m, within n → enter n name = .ok m → within m ∧ parent? m = some n) :
    WellFormed parent? enter root where
  top := htop
  linked := by
    intro names name n m htrail hname hm
    have hwithin : within n := by
      induction htrail generalizing name m with
      | root => exact hroot
      | @down _ above n₁ n₂ _ habove hdown₁ ih => exact (hdown _ _ _ (ih habove hdown₁) hdown₁).1
    exact (hdown n name m hwithin hm).2

/-- From the root `..` leads to the root. -/
theorem WellFormed.up_root (h : WellFormed parent? enter root) :
    (parent? root).getD root = root := by
  rcases h.top with htop | htop
  · rw [htop]
    rfl
  · rw [htop]
    rfl

/-- `..` goes one name back on a trail. -/
theorem WellFormed.up (h : WellFormed parent? enter root) (htrail : Trail enter root names n) :
    Trail enter root names.tail ((parent? n).getD n) := by
  cases htrail with
  | root =>
      rw [h.up_root]
      exact .root
  | down above hname hdown =>
      rw [h.linked above hname hdown]
      exact above

/-- Where a walk is, there the reduced components lead. -/
theorem WellFormed.trail_of_walk (h : WellFormed parent? enter root)
    (hcs : ∀ component ∈ cs, component ≠ "" ∧ '/' ∉ component.toList)
    (htrail : Trail enter root names n) (hwalk : walk parent? enter n cs = .ok m) :
    Trail enter root (cs.foldl Path.reduceStep names) m := by
  induction cs generalizing names n with
  | nil =>
      obtain rfl := Except.ok.inj hwalk
      exact htrail
  | cons component rest ih =>
      obtain ⟨hne, hslash⟩ := hcs component (List.mem_cons_self ..)
      have hrest := fun other hmem => hcs other (List.mem_cons_of_mem _ hmem)
      rw [List.foldl_cons]
      by_cases hdot : component = "."
      · subst hdot
        rw [walk_dot] at hwalk
        rw [Path.reduceStep_dot]
        exact ih hrest htrail hwalk
      by_cases hdotdot : component = ".."
      · subst hdotdot
        rw [walk_dotdot] at hwalk
        rw [Path.reduceStep_dotdot]
        exact ih hrest (h.up htrail) hwalk
      · rw [walk, if_neg hdot, if_neg hdotdot] at hwalk
        split at hwalk
        next next hdown =>
          rw [Path.reduceStep_of_ne hdot hdotdot]
          exact ih hrest (htrail.down ⟨hne, hslash, hdot, hdotdot⟩ hdown) hwalk
        next => cases hwalk

/-- A walk along a trail comes to its end. -/
theorem Trail.walk (h : Trail enter root names n) :
    Namespace.walk parent? enter root names.reverse = .ok n := by
  induction h with
  | root => rfl
  | @down names name n m _ hname hdown ih =>
      obtain ⟨_, _, hdot, hdotdot⟩ := hname
      rw [List.reverse_cons, walk_append, ih]
      show Namespace.walk parent? enter n [name] = .ok m
      rw [Namespace.walk, if_neg hdot, if_neg hdotdot, hdown]
      rfl

/-- A walk that arrives, arrives at the same node by the normal form of its path. -/
theorem WellFormed.walk_normal (h : WellFormed parent? enter root) {path : String}
    (hwalk : Namespace.walk parent? enter root (Path.components path) = .ok n) :
    Namespace.walk parent? enter root (Path.components (Path.normal path)) = .ok n := by
  have htrail : Trail enter root ((Path.components path).foldl Path.reduceStep []) n :=
    h.trail_of_walk (fun _ => Path.slash_notMem_of_mem_components) .root hwalk
  rw [Path.components_normal]
  exact htrail.walk

end trails

/-- **Normal paths.**  In a well-formed namespace a path that leads to a node has a normal form
that leads to the same node, through the mounted volumes of a table and without them; in a normal
path there is no `.` and no `..` to follow. -/
theorem normal_path_leads_alike (g : Graph) (path : String) :
    (∀ (t : MountTable) (n : NodeId), WellFormed g.parent? (t.enter g) t.root →
      t.resolve g path = .ok n → t.resolve g (Path.normal path) = .ok n) ∧
    (∀ root n : NodeId, WellFormed g.parent? g.lookup root →
      resolve g root path = .ok n → resolve g root (Path.normal path) = .ok n) ∧
    ∀ component ∈ Path.components (Path.normal path), Path.Plain component := by
  refine ⟨fun t n hformed hn => ?_, fun root n hformed hn => ?_, fun component hmem => ?_⟩
  · rw [MountTable.resolve, if_pos (Path.isAbsolute_normal path)]
    unfold MountTable.resolve at hn
    split at hn
    next => exact hformed.walk_normal hn
    next => cases hn
  · rw [resolve, if_pos (Path.isAbsolute_normal path)]
    unfold resolve at hn
    split at hn
    next => exact hformed.walk_normal hn
    next => cases hn
  · rw [Path.components_normal] at hmem
    exact Path.plain_of_mem_reduce hmem

end Namespace

/-! ### A path that goes through a volume and back -/

namespace NormalPathExample

/-- A root with `/dev/disk`, and a directory with `notes` where a volume is mounted. -/
def graph : Graph :=
  ((((Graph.empty.push
    { name := "/", content := .directory (Directory.empty.insert "dev" ⟨1⟩) }).push
    { name := "dev", content := .directory (Directory.empty.insert "disk" ⟨2⟩),
      parent := some ⟨0⟩ }).push
    { name := "disk", content := .image [], parent := some ⟨1⟩ }).push
    { name := "mnt", content := .directory (Directory.empty.insert "notes" ⟨4⟩),
      parent := some ⟨0⟩ }).push
    { name := "notes", content := .bare .file none, parent := some ⟨3⟩ }

/-- The volume `data` is mounted. -/
def table : MountTable :=
  { MountTable.create ⟨0⟩ ⟨[]⟩ with volumes := [⟨⟨"fat", "data", some ⟨3⟩⟩, ⟨0⟩⟩] }

theorem formed : Namespace.WellFormed graph.parent? (table.enter graph) table.root := by
  have hclosed : ∀ (n : NodeId) (name : String) (m : NodeId), n.index < 5 →
      table.enter graph n name = .ok m → m.index < 5 ∧ graph.parent? m = some n := by
    rintro ⟨index⟩ name m hindex hdown
    replace hindex : index < 5 := hindex
    have hcases : index = 0 ∨ index = 1 ∨ index = 2 ∨ index = 3 ∨ index = 4 := by omega
    rcases MountTable.enter_cases hdown with ⟨hroot, hmount⟩ | hlookup
    · obtain ⟨v, hv, hpoint⟩ := MountTable.exists_of_mountPoint? hmount
      obtain rfl := List.mem_singleton.1 hv
      obtain rfl := Option.some.inj hpoint
      rw [hroot]
      exact ⟨by decide, rfl⟩
    rcases hcases with rfl | rfl | rfl | rfl | rfl
    · obtain ⟨rfl, rfl⟩ := Prod.mk.inj (List.mem_singleton.1 (Graph.mem_of_lookup rfl hlookup))
      exact ⟨by decide, rfl⟩
    · obtain ⟨rfl, rfl⟩ := Prod.mk.inj (List.mem_singleton.1 (Graph.mem_of_lookup rfl hlookup))
      exact ⟨by decide, rfl⟩
    · cases hlookup
    · obtain ⟨rfl, rfl⟩ := Prod.mk.inj (List.mem_singleton.1 (Graph.mem_of_lookup rfl hlookup))
      exact ⟨by decide, rfl⟩
    · cases hlookup
  exact .of_closed (.inl rfl) (show (0 : Nat) < 5 by decide) hclosed

/-- Down into the volume, up to the root, past the root and down to the disk. -/
theorem detour_leads_to_disk :
    Namespace.WellFormed graph.parent? (table.enter graph) table.root ∧
      table.resolve graph "/data/./notes/../..//data/../../dev/disk" = .ok ⟨2⟩ ∧
      table.resolve graph "/dev/disk" = .ok ⟨2⟩ := by
  have hnormal : Path.normal "/data/./notes/../..//data/../../dev/disk" = "/dev/disk" := by decide
  have hdetour : table.resolve graph "/data/./notes/../..//data/../../dev/disk" = .ok ⟨2⟩ := rfl
  have hdirect := (Namespace.normal_path_leads_alike graph _).1 table ⟨2⟩ formed hdetour
  rw [hnormal] at hdirect
  exact ⟨formed, hdetour, hdirect⟩

end NormalPathExample

end VolumeService
