import VolumeService.Graph
import VolumeService.Path

/-! # Walking paths

* **A walk** goes through the components of a path from a starting node.  `.` stays, `..`
  goes to the parent or stays where there is none, and any other component is entered.  How a
  component is entered is a parameter of `walk`, so that plain paths and paths through mounted
  volumes share one walk.
* **Resolution** (`resolve`) walks an absolute path from a root through children alone and
  refuses relative paths.
* **The root is not special.** `..` at the root follows the root's own parent link if it has a
  living one.
* **Composition.** Walking two lists of components one after the other is walking their
  concatenation (`walk_append`).
* **Agreement.** A walk depends on no more than the nodes that it can come to and the names in
  its path (`walk_congr`). -/

namespace VolumeService

namespace Namespace

/-- Walks through components from a node, entering names by `enter`. -/
def walk (parent? : NodeId → Option NodeId)
    (enter : NodeId → String → Except NodeError NodeId) :
    NodeId → List String → Except NodeError NodeId
  | node, [] => .ok node
  | node, component :: rest =>
    if component = "." then walk parent? enter node rest
    else if component = ".." then walk parent? enter ((parent? node).getD node) rest
    else
      match enter node component with
      | .ok next => walk parent? enter next rest
      | .error e => .error e

/-- The node at an absolute path below `root`. -/
def resolve (g : Graph) (root : NodeId) (path : String) : Except NodeError NodeId :=
  if Path.isAbsolute path then walk g.parent? g.lookup root (Path.components path)
  else .error .invalidArgument

/-- The child of a node under a name, whatever the reason for its absence. -/
def child? (g : Graph) (n : NodeId) (name : String) : Option NodeId := (g.lookup n name).toOption

/-- An entry of a directory leads to the child under its name. -/
theorem child?_of_mem {g : Graph} {dir : NodeId} {children : Directory NodeId}
    (h : g.directory? dir = some children) {name : String} {child : NodeId}
    (hentry : (name, child) ∈ children.entries) : child? g dir name = some child := by
  rw [child?, Graph.lookup_of_directory? h, Directory.mem_entries_iff.1 hentry]
  rfl

/-- The line of a node's listing at a position, whatever the reason for its absence. -/
def line? (g : Graph) (n : NodeId) (index : Nat) : Option Line :=
  ((g.lineAt n index).toOption).join

/-! ### Walks -/

section walks

variable (parent? : NodeId → Option NodeId) (enter : NodeId → String → Except NodeError NodeId)

theorem walk_dot (node : NodeId) (rest : List String) :
    walk parent? enter node ("." :: rest) = walk parent? enter node rest := by
  rw [walk, if_pos rfl]

theorem walk_dotdot (node : NodeId) (rest : List String) :
    walk parent? enter node (".." :: rest) =
      walk parent? enter ((parent? node).getD node) rest := by
  rw [walk, if_neg (by decide), if_pos rfl]

/-- A walk over two lists of components is the second walk from where the first ends. -/
theorem walk_append (node : NodeId) (first second : List String) :
    walk parent? enter node (first ++ second) =
      match walk parent? enter node first with
      | .ok next => walk parent? enter next second
      | .error e => .error e := by
  induction first generalizing node with
  | nil => rfl
  | cons component rest ih =>
    rw [List.cons_append, walk, walk]
    split
    · exact ih node
    · split
      · exact ih _
      · split
        · exact ih _
        · rfl

/-- Two walks end alike if they agree wherever the first may come to: at the nodes of a set that
it does not leave, upwards and in the names that it enters. -/
theorem walk_congr {parent? parent?' : NodeId → Option NodeId}
    {enter enter' : NodeId → String → Except NodeError NodeId} {within : NodeId → Prop}
    {path : List String} (hup : ∀ n m, within n → parent? n = some m → within m)
    (hdown : ∀ n name m, within n → enter n name = .ok m → within m)
    (hparent : ∀ n, within n → parent?' n = parent? n)
    (henter : ∀ n, within n → ∀ name ∈ path, name ≠ "." → name ≠ ".." →
      enter' n name = enter n name)
    {node : NodeId} (hnode : within node) :
    walk parent?' enter' node path = walk parent? enter node path := by
  induction path generalizing node with
  | nil => rfl
  | cons component rest ih =>
    have hrest := @ih fun n hn name hname => henter n hn name (List.mem_cons_of_mem _ hname)
    rw [walk, walk]
    split
    next => exact hrest hnode
    next hdot =>
      split
      next =>
        rw [hparent node hnode]
        cases hp : parent? node with
        | none => exact hrest hnode
        | some parent => exact hrest (hup node parent hnode hp)
      next hdotdot =>
        rw [henter node hnode component (List.mem_cons_self ..) hdot hdotdot]
        split
        next next he => exact hrest (hdown node component next hnode he)
        next => rfl

end walks

end Namespace

end VolumeService
