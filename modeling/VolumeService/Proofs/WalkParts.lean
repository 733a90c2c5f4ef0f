import VolumeService.Proofs.NormalPaths
import VolumeService.Proofs.RootParent

/-! # Walks in parts

A walk can be cut in front of any of its components: what is left of it is a walk from the node
that it has come to.

* **One component** (`Namespace.stepTo`) leads to a node or ends the walk.
* **Joined paths** (`Namespace.resolve_join`).  A path that is joined to another by a slash is
  walked from where the other leads, and if that leads nowhere, its error is the answer.  Through a
  mount table the second part meets the mounted volumes again wherever it comes to the root, so
  from the root it leads where it would lead by itself.
* **Where two walks part** (`MountTable.walk_enter_cases`).  The walk through a mount table goes
  along with the plain walk until this stands on the root in front of a name that leads to a mount
  point.  From that mount point it goes on alone.
* **Names that pass** (`MountTable.Passes`) lead to no mount point: no registered volume has the
  name, or the earliest one that has it is mounted nowhere.  On paths of such names both walks end
  alike (`MountTable.resolve_eq_of_passes`). -/

namespace VolumeService

/-! ### Joined paths -/

namespace Namespace

section walks

variable (parent? : NodeId → Option NodeId) (enter : NodeId → String → Except NodeError NodeId)

/-- Where one component leads from a node. -/
def stepTo (n : NodeId) (component : String) : Except NodeError NodeId :=
  if component = "." then .ok n
  else if component = ".." then .ok ((parent? n).getD n)
  else enter n component

theorem walk_cons (n : NodeId) (component : String) (rest : List String) :
    walk parent? enter n (component :: rest) =
      match stepTo parent? enter n component with
      | .ok next => walk parent? enter next rest
      | .error e => .error e := by
  rw [walk, stepTo]
  split
  next => rfl
  next => split <;> rfl

end walks

/-- A joined path is walked from where its first part leads. -/
theorem FindsByWalking.join {parent? : NodeId → Option NodeId}
    {enter : NodeId → String → Except NodeError NodeId} {root : NodeId}
    {find : String → Except NodeError NodeId} (hfind : FindsByWalking parent? enter root find)
    {first : String} (hfirst : Path.isAbsolute first = true) (second : String) :
    find (first ++ "/" ++ second) =
      match find first with
      | .ok n => walk parent? enter n (Path.components second)
      | .error e => .error e := by
  have hslash : Path.isAbsolute (first ++ "/") = true := Path.isAbsolute_append hfirst "/"
  have hjoined : Path.isAbsolute (first ++ "/" ++ second) = true :=
    Path.isAbsolute_append hslash second
  rw [hfind, if_pos hjoined, hfind first, if_pos hfirst, Path.components_append_slash]
  exact walk_append ..

theorem finds_resolve (g : Graph) (root : NodeId) :
    FindsByWalking g.parent? g.lookup root (resolve g root) := fun _ => rfl

/-- Only an absolute path leads somewhere. -/
theorem FindsByWalking.isAbsolute {parent? : NodeId → Option NodeId}
    {enter : NodeId → String → Except NodeError NodeId} {root n : NodeId}
    {find : String → Except NodeError NodeId} (hfind : FindsByWalking parent? enter root find)
    {path : String} (h : find path = .ok n) : Path.isAbsolute path = true := by
  rw [hfind] at h
  split at h
  next habsolute => exact habsolute
  next => cases h

end Namespace

theorem MountTable.finds_resolve (t : MountTable) (g : Graph) :
    Namespace.FindsByWalking g.parent? (t.enter g) t.root (t.resolve g) := fun _ => rfl

/-- A path and a second one behind a slash.  From a root, and through a mount table, the second part
is walked from where the first one leads, and an error of the first part is the answer.  Where the
first part leads to the root of the table, the second one leads where it would lead by itself,
through the mounted volumes. -/
theorem Namespace.resolve_join (g : Graph) (first second : String) :
    (Path.isAbsolute first = true → ∀ root : NodeId,
      resolve g root (first ++ "/" ++ second) =
        match resolve g root first with
        | .ok n => resolve g n ("/" ++ second)
        | .error e => .error e) ∧
    ∀ t : MountTable,
      (Path.isAbsolute first = true →
        t.resolve g (first ++ "/" ++ second) =
          match t.resolve g first with
          | .ok n => walk g.parent? (t.enter g) n (Path.components second)
          | .error e => .error e) ∧
      (t.resolve g first = .ok t.root →
        t.resolve g (first ++ "/" ++ second) = t.resolve g ("/" ++ second)) := by
  refine ⟨fun hfirst root => ?_, fun t => ⟨fun hfirst => ?_, fun hroot => ?_⟩⟩
  · rw [(finds_resolve g root).join hfirst second]
    cases resolve g root first with
    | error e => rfl
    | ok n => exact ((finds_resolve g n).slash second).symm
  · exact (t.finds_resolve g).join hfirst second
  · have hfirst : Path.isAbsolute first = true := (t.finds_resolve g).isAbsolute hroot
    rw [(t.finds_resolve g).join hfirst second, hroot, (t.finds_resolve g).slash second]

/-! ### Where mounted volumes make a difference -/

namespace MountTable

/-- No registered volume has the name, or the earliest one that has it is mounted nowhere. -/
def Passes (t : MountTable) (name : String) : Prop :=
  t.named? name = none ∨ ∃ v, t.named? name = some v ∧ v.volume.mountPoint = none

theorem passes_iff {t : MountTable} {name : String} :
    t.Passes name ↔ t.mountPoint? name = none := by
  unfold Passes mountPoint?
  cases t.named? name with
  | none => simp
  | some v => simp

/-- Without mounted volumes every name passes. -/
theorem passes_of_unmounted {t : MountTable} (h : ∀ v ∈ t.volumes, v.volume.mountPoint = none)
    (name : String) : t.Passes name := by
  unfold Passes
  cases hfound : t.named? name with
  | none => exact .inl rfl
  | some v => exact .inr ⟨v, rfl, h v (mem_volumes_of_named? hfound)⟩

/-- One component leads through the table where it leads by itself, unless it stands for a mount
point at the root. -/
theorem stepTo_enter_cases (t : MountTable) (g : Graph) (n : NodeId) (component : String) :
    Namespace.stepTo g.parent? (t.enter g) n component =
      Namespace.stepTo g.parent? g.lookup n component ∨
    n = t.root ∧ ∃ mountPoint, t.mountPoint? component = some mountPoint ∧
      Namespace.stepTo g.parent? (t.enter g) n component = .ok mountPoint := by
  unfold Namespace.stepTo
  split
  next => exact .inl rfl
  next =>
    split
    next => exact .inl rfl
    next =>
      by_cases hroot : n = t.root
      · cases hmount : t.mountPoint? component with
        | none => exact .inl (enter_of_mountPoint?_eq_none hmount n)
        | some m =>
            subst hroot
            exact .inr ⟨rfl, m, rfl, enter_root_of_mountPoint? hmount⟩
      · exact .inl (enter_of_ne_root hroot component)

/-- A walk through the table ends like the plain walk, unless the plain walk comes to stand on the
root in front of a name that leads to a mount point: then it goes on from there. -/
theorem walk_enter_cases (t : MountTable) (g : Graph) (n : NodeId) (path : List String) :
    Namespace.walk g.parent? (t.enter g) n path = Namespace.walk g.parent? g.lookup n path ∨
    ∃ before name after mountPoint, path = before ++ name :: after ∧
      Namespace.walk g.parent? g.lookup n before = .ok t.root ∧
      t.mountPoint? name = some mountPoint ∧
      Namespace.walk g.parent? (t.enter g) n path =
        Namespace.walk g.parent? (t.enter g) mountPoint after := by
  induction path generalizing n with
  | nil => exact .inl rfl
  | cons component rest ih =>
      rw [Namespace.walk_cons, Namespace.walk_cons]
      rcases t.stepTo_enter_cases g n component with hsame | ⟨rfl, m, hmount, hstep⟩
      · rw [hsame]
        cases hnext : Namespace.stepTo g.parent? g.lookup n component with
        | error e => exact .inl rfl
        | ok next =>
            -- the walks stand on the same node, and part later if at all
            rcases ih next with hrest | ⟨before, name, after, m, rfl, hroot, hmount, hon⟩
            · exact .inl hrest
            · refine .inr ⟨component :: before, name, after, m, rfl, ?_, hmount, hon⟩
              rw [Namespace.walk_cons, hnext]
              exact hroot
      · refine .inr ⟨[], component, rest, m, rfl, rfl, hmount, ?_⟩
        rw [hstep]

/-- A path whose components all pass leads to the same node through the table as through the graph
alone, or fails for the same reason.  While no registered volume is mounted, this holds of every
path. -/
theorem resolve_eq_of_passes (t : MountTable) (g : Graph) :
    (∀ path, (∀ component ∈ Path.components path, t.Passes component) →
      t.resolve g path = Namespace.resolve g t.root path) ∧
    ((∀ v ∈ t.volumes, v.volume.mountPoint = none) →
      ∀ path, t.resolve g path = Namespace.resolve g t.root path) := by
  have hpassing : ∀ path, (∀ component ∈ Path.components path, t.Passes component) →
      t.resolve g path = Namespace.resolve g t.root path := by
    intro path hpass
    rw [resolve, Namespace.resolve]
    split
    next =>
      rcases t.walk_enter_cases g t.root (Path.components path) with
        hsame | ⟨before, name, after, m, hsplit, -, hm, -⟩
      · exact hsame
      · have hname : t.Passes name := by
          apply hpass
          rw [hsplit]
          exact List.mem_append_cons_self
        rw [passes_iff, hm] at hname
        cases hname
    next => rfl
  exact ⟨hpassing, fun hnone path => hpassing path fun name _ => passes_of_unmounted hnone name⟩

end MountTable

/-! ### Joined and shadowed paths over one root -/

namespace WalkPartsExample

open NormalPathExample (graph)

/-- The name `data` leads to a mount point.  The earlier of two volumes called `dev` is mounted
nowhere, and the later one stands in its shadow. -/
def table : MountTable :=
  { MountTable.create ⟨0⟩ ⟨[]⟩ with
    volumes := [⟨⟨"fat", "data", some ⟨3⟩⟩, ⟨0⟩⟩, ⟨.treeless "fat" "dev", ⟨1⟩⟩,
      ⟨⟨"fat", "dev", some ⟨3⟩⟩, ⟨2⟩⟩] }

/-- The first part comes back to the root, and the second one leads into the volume from there;
plain resolution finds no `data`. -/
theorem volume_is_met_again :
    Path.isAbsolute "/dev/disk/../.." = true ∧ table.resolve graph "/dev/disk/../.." = .ok ⟨0⟩ ∧
      table.resolve graph ("/dev/disk/../.." ++ "/" ++ "//data/notes") = .ok ⟨4⟩ ∧
      Namespace.resolve graph ⟨0⟩ ("/dev/disk/../.." ++ "/" ++ "//data/notes") =
        .error .notFound := by
  have habsolute : Path.isAbsolute "/dev/disk/../.." = true := rfl
  have hroot : table.resolve graph "/dev/disk/../.." = .ok ⟨0⟩ := rfl
  obtain ⟨hplain, htable⟩ := Namespace.resolve_join graph "/dev/disk/../.." "//data/notes"
  refine ⟨habsolute, hroot, ?_, ?_⟩
  · rw [(htable table).2 hroot]
    rfl
  · rw [hplain habsolute ⟨0⟩]
    rfl

/-- No volume of this table is mounted. -/
def bareTable : MountTable :=
  { MountTable.create ⟨0⟩ ⟨[]⟩ with volumes := [⟨.treeless "fat" "dev", ⟨0⟩⟩] }

/-- The names `dev` and `disk` pass, and so the volumes make no difference to the path; without
mounted volumes they make none to any path. -/
theorem shadowed_volume_is_passed :
    (∀ component ∈ Path.components "/dev/.//disk/", table.Passes component) ∧
      (∀ v ∈ bareTable.volumes, v.volume.mountPoint = none) ∧
      table.resolve graph "/dev/.//disk/" = .ok ⟨2⟩ ∧
      bareTable.resolve graph "/mnt/../data" = .error .notFound := by
  have hpass : ∀ component ∈ Path.components "/dev/.//disk/", table.Passes component := by
    have hcomponents : Path.components "/dev/.//disk/" = ["dev", ".", "disk"] := by decide
    rw [hcomponents]
    simp only [MountTable.passes_iff]
    decide
  have hbare : ∀ v ∈ bareTable.volumes, v.volume.mountPoint = none := by
    intro v hv
    obtain rfl := List.mem_singleton.1 hv
    rfl
  refine ⟨hpass, hbare, ?_, ?_⟩
  · rw [(table.resolve_eq_of_passes graph).1 _ hpass]
    rfl
  · rw [(bareTable.resolve_eq_of_passes graph).2 hbare]
    rfl

end WalkPartsExample

end VolumeService
