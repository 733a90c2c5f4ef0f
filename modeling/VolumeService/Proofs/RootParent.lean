import VolumeService.Proofs.NormalPaths

/-! # The parent of the root

A walk treats its root like any other node: `..` follows the parent link of the node where the walk
stands, and stays where there is no living parent.

* **One step up** (`Namespace.walk_dotdot`).  A walk that begins with `..` leads where the rest of
  it leads from the parent of the root.
* **Topmost roots** (`Namespace.Topmost`) have no living parent but themselves.  A walk that stands
  on such a root may go up any number of times and stays there (`Topmost.walk_ups`).
* **No other root is safe.**  `..` stays at the root in all paths exactly if the root is topmost,
  through mounted volumes and without them (`Namespace.stays_at_root_iff_topmost`).  A root that was
  entered into a directory is not topmost while that directory lives
  (`RootParentExample.linked_root_is_left`). -/

namespace VolumeService

namespace Path

/-- A path of so many steps up. -/
def ups : Nat → String
  | 0 => ""
  | k + 1 => "/.." ++ ups k

theorem components_dotdot : components ".." = [".."] := by decide

theorem components_append_ups (before : String) (k : Nat) :
    components (before ++ ups k) = components before ++ List.replicate k ".." := by
  induction k generalizing before with
  | zero => simp [ups]
  | succ k ih =>
      have hfirst : before ++ ups (k + 1) = before ++ "/" ++ ".." ++ ups k := by
        have hdotdot : "/.." = "/" ++ ".." := rfl
        simp only [ups, hdotdot, String.append_assoc]
      rw [hfirst, ih, components_append_slash, components_dotdot, List.append_assoc,
        List.replicate_succ]
      rfl

theorem isAbsolute_append {path : String} (h : isAbsolute path = true) (more : String) :
    isAbsolute (path ++ more) = true := by
  unfold isAbsolute at h ⊢
  rw [String.toList_append]
  cases hchars : path.toList with
  | nil =>
      rw [hchars] at h
      cases h
  | cons c rest =>
      rw [hchars] at h
      exact h

end Path

namespace Namespace

/-! ### Walks from a topmost root -/

/-- The root has no parent but itself. -/
def Topmost (parent? : NodeId → Option NodeId) (root : NodeId) : Prop :=
  ∀ parent, parent? root = some parent → parent = root

section walks

variable {parent? : NodeId → Option NodeId} {enter : NodeId → String → Except NodeError NodeId}
  {root : NodeId} {cs : List String}

theorem topmost_iff : Topmost parent? root ↔ (parent? root).getD root = root := by
  unfold Topmost
  cases parent? root <;> simp

/-- A walk that stands on a topmost root stays there, however often it goes up. -/
theorem Topmost.walk_ups (h : Topmost parent? root) (k : Nat) :
    walk parent? enter root (List.replicate k ".." ++ cs) = walk parent? enter root cs := by
  induction k with
  | zero => rfl
  | succ k ih =>
      rw [List.replicate_succ, List.cons_append, walk_dotdot, topmost_iff.1 h]
      exact ih

end walks

/-! ### Paths -/

/-- `..` leads from the root to the root, at the beginning of a path and wherever else a path comes
to the root. -/
structure StaysAtRoot (find : String → Except NodeError NodeId) (root : NodeId) : Prop where
  first : ∀ path, find ("/../" ++ path) = find ("/" ++ path)
  later : ∀ before k path, find before = .ok root →
    find (before ++ Path.ups k ++ "/" ++ path) = find ("/" ++ path)

/-- Nodes are found by walking absolute paths from the root. -/
def FindsByWalking (parent? : NodeId → Option NodeId)
    (enter : NodeId → String → Except NodeError NodeId) (root : NodeId)
    (find : String → Except NodeError NodeId) : Prop :=
  ∀ path, find path =
    if Path.isAbsolute path then walk parent? enter root (Path.components path)
    else .error .invalidArgument

namespace FindsByWalking

variable {parent? : NodeId → Option NodeId} {enter : NodeId → String → Except NodeError NodeId}
  {root : NodeId} {find : String → Except NodeError NodeId}

theorem slash (hfind : FindsByWalking parent? enter root find) (path : String) :
    find ("/" ++ path) = walk parent? enter root (Path.components path) := by
  rw [hfind, if_pos (Path.isAbsolute_slash path), Path.components_slash]

/-- A path that begins with `..` is walked from the parent of the root. -/
theorem dotdot (hfind : FindsByWalking parent? enter root find) (path : String) :
    find ("/../" ++ path) =
      walk parent? enter ((parent? root).getD root) (Path.components path) := by
  have hsplit : "/../" ++ path = "/" ++ (".." ++ "/" ++ path) := by
    rw [← String.append_assoc, ← String.append_assoc]
    rfl
  rw [hsplit, hfind.slash, Path.components_append_slash, Path.components_dotdot]
  exact walk_dotdot ..

/-- After a path that comes to the root, steps up and more are walked from the root. -/
theorem append_ups (hfind : FindsByWalking parent? enter root find) {before : String}
    (hbefore : find before = .ok root) (k : Nat) (path : String) :
    find (before ++ Path.ups k ++ "/" ++ path) =
      walk parent? enter root (List.replicate k ".." ++ Path.components path) := by
  rw [hfind] at hbefore
  split at hbefore
  next habsolute =>
    have hups := Path.isAbsolute_append habsolute (Path.ups k)
    have hslash := Path.isAbsolute_append hups "/"
    rw [hfind, if_pos (Path.isAbsolute_append hslash path), Path.components_append_slash,
      Path.components_append_ups, List.append_assoc, walk_append, hbefore]
  next => cases hbefore

theorem staysAtRoot_iff (hfind : FindsByWalking parent? enter root find) :
    StaysAtRoot find root ↔ Topmost parent? root := by
  constructor
  · intro h
    -- the path `/../` itself tells where `..` leads
    have hroot := h.first ""
    rw [hfind.dotdot, hfind.slash] at hroot
    exact topmost_iff.2 (Except.ok.inj hroot)
  · intro h
    refine ⟨fun path => ?_, fun before k path hbefore => ?_⟩
    · rw [hfind.dotdot, hfind.slash, topmost_iff.1 h]
    · rw [hfind.append_ups hbefore, hfind.slash]
      exact h.walk_ups k

end FindsByWalking

/-- `..` stays at the root exactly if the root has no living parent but itself, through the mounted
volumes of a table and without them. -/
theorem stays_at_root_iff_topmost (g : Graph) :
    (∀ root : NodeId, StaysAtRoot (resolve g root) root ↔ Topmost g.parent? root) ∧
    ∀ t : MountTable, StaysAtRoot (t.resolve g) t.root ↔ Topmost g.parent? t.root := by
  refine ⟨fun root => ?_, fun t => ?_⟩
  · have hfind : FindsByWalking g.parent? g.lookup root (resolve g root) := fun _ => rfl
    exact hfind.staysAtRoot_iff
  · have hfind : FindsByWalking g.parent? (t.enter g) t.root (t.resolve g) := fun _ => rfl
    exact hfind.staysAtRoot_iff

end Namespace

/-! ### A root inside another directory -/

namespace RootParentExample

/-- Two directories. -/
def apart : Graph := (Graph.empty.push (.newDirectory "outer")).push (.newDirectory "/")

/-- The second is entered into the first. -/
def graph : Graph :=
  (apart.setChildren ⟨0⟩ (Directory.empty.insert "/" ⟨1⟩)).reparent ⟨1⟩ ⟨0⟩

/-- A table over the second, without volumes. -/
def table : MountTable := .create ⟨1⟩ .empty

/-- Once the root is entered into another directory, `..` leads out of it. -/
theorem linked_root_is_left :
    apart.add ⟨0⟩ ⟨1⟩ = .ok graph ∧
      Namespace.resolve graph ⟨1⟩ "/../" = .ok ⟨0⟩ ∧ Namespace.resolve graph ⟨1⟩ "/" = .ok ⟨1⟩ ∧
      table.resolve graph "/../" = .ok ⟨0⟩ ∧ table.resolve graph "/" = .ok ⟨1⟩ :=
  ⟨rfl, rfl, rfl, rfl, rfl⟩

end RootParentExample

end VolumeService
