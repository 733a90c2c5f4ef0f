import VolumeService.Node
import VolumeService.Store

/-! # The graph of nodes

`Graph` holds all nodes behind their identities, and the operations that look across nodes.

* **Membership and links.** A directory holds its children; a child names its parent.  `add`
  enters a child into a directory and points the child at it, and does neither when the name
  is taken.  `remove` takes a child out and leaves its link as it was.
* **Dead links.** `parent?` answers the parent only while that node is still in the graph.
* **Looking.** `lookup` and `lineAt` ask a node for a child by name and for a line of its
  listing by position; nodes that are not directories refuse both. -/

namespace VolumeService

/-- All nodes, behind their identities. -/
structure Graph where
  nodes : Store Node := {}

namespace Graph

/-- The graph without nodes. -/
def empty : Graph := {}

/-- The node behind an identity. -/
def node? (g : Graph) (n : NodeId) : Option Node := g.nodes.get? n.index

/-- Is the node still in the graph? -/
def has (g : Graph) (n : NodeId) : Bool := (g.node? n).isSome

/-- The identity that the next new node gets. -/
def fresh (g : Graph) : NodeId := ⟨g.nodes.next⟩

/-- Adds a node under the identity `fresh`. -/
def push (g : Graph) (node : Node) : Graph := ⟨g.nodes.push node⟩

/-- Changes a node in place. -/
def modify (g : Graph) (n : NodeId) (f : Node → Node) : Graph := ⟨g.nodes.modify n.index f⟩

/-- Takes a node out of the graph. -/
def free (g : Graph) (n : NodeId) : Graph := ⟨g.nodes.free n.index⟩

/-- The nodes in the graph. -/
def ids (g : Graph) : List NodeId := g.nodes.ids.map NodeId.mk

/-- What a node is made of. -/
def content? (g : Graph) (n : NodeId) : Option Content := (g.node? n).map Node.content

/-- The name of a node. -/
def name (g : Graph) (n : NodeId) : String := ((g.node? n).map Node.name).getD ""

/-- The kind of a node. -/
def kind (g : Graph) (n : NodeId) : NodeKind := ((g.node? n).map Node.kind).getD .file

/-- Is the node a character device? -/
def isDevice (g : Graph) (n : NodeId) : Bool := g.kind n = .device

/-- The children of a node, if it is a directory with children of its own. -/
def directory? (g : Graph) (n : NodeId) : Option (Directory NodeId) :=
  match g.content? n with
  | some (.directory children) => some children
  | _ => none

/-- The node that a node names as its parent, dead or alive. -/
def link? (g : Graph) (n : NodeId) : Option NodeId := (g.node? n).bind Node.parent

/-- The parent of a node, while that parent is in the graph. -/
def parent? (g : Graph) (n : NodeId) : Option NodeId := (g.link? n).filter g.has

/-- Points a node at a parent. -/
def reparent (g : Graph) (n parent : NodeId) : Graph :=
  g.modify n fun node => { node with parent := some parent }

/-- Replaces the children of a directory. -/
def setChildren (g : Graph) (n : NodeId) (children : Directory NodeId) : Graph :=
  g.modify n fun node => { node with content := .directory children }

/-- The child of a node under a name. -/
def lookup (g : Graph) (n : NodeId) (name : String) : Except NodeError NodeId :=
  match g.content? n with
  | some (.directory children) =>
    match children.find? name with
    | some child => .ok child
    | none => .error .notFound
  | some (.fixed _ links) => (links.lookup name).getD (.error .notFound)
  | some _ => .error .notADirectory
  | none => .error .notFound

/-- The line of a node's listing at a position; `none` past the end. -/
def lineAt (g : Graph) (n : NodeId) (index : Nat) : Except NodeError (Option Line) :=
  match g.content? n with
  | some (.directory children) =>
    .ok ((children.nth? index).map fun entry => ⟨entry.1, g.kind entry.2⟩)
  | some (.fixed listing _) =>
    match listing[index]? with
    | some (.ok line) => .ok (some line)
    | some (.error e) => .error e
    | none => .ok none
  | some _ => .error .notADirectory
  | none => .error .notFound

/-- Reads from a node; see `Content.read`. -/
def read (g : Graph) (n : NodeId) (offset : Nat) (buffer : List UInt8) :
    Except NodeError (Nat × List UInt8) :=
  match g.node? n with
  | some node => node.content.read offset buffer
  | none => .error .notFound

/-- Enters `child` into the directory `dir` under its own name and points it at `dir`.
Refused, with nothing changed, when the name is taken. -/
def add (g : Graph) (dir child : NodeId) : Except NodeError Graph :=
  match g.directory? dir with
  | none => .error .notADirectory
  | some children =>
    if children.contains (g.name child) then .error .alreadyExists
    else .ok ((g.setChildren dir (children.insert (g.name child) child)).reparent child dir)

/-- Takes the child called `name` out of the directory `dir`; its link stays as it was. -/
def remove (g : Graph) (dir : NodeId) (name : String) : Except NodeError (NodeId × Graph) :=
  match g.directory? dir with
  | none => .error .notADirectory
  | some children =>
    match children.find? name with
    | none => .error .notFound
    | some child => .ok (child, g.setChildren dir (children.erase name))

/-! ### What a change does to a node -/

theorem node?_push (g : Graph) (node : Node) (n : NodeId) :
    (g.push node).node? n = if n = g.fresh then some node else g.node? n := by
  obtain ⟨i⟩ := n
  unfold node? push fresh
  rw [Store.get?_push]
  simp

theorem next_push (g : Graph) (node : Node) : (g.push node).nodes.next = g.nodes.next + 1 :=
  Store.next_push ..

theorem node?_modify (g : Graph) (n m : NodeId) (f : Node → Node) :
    (g.modify n f).node? m = if n = m then (g.node? m).map f else g.node? m := by
  obtain ⟨i⟩ := n
  obtain ⟨j⟩ := m
  unfold node? modify
  rw [Store.get?_modify]
  simp

theorem node?_free (g : Graph) (n m : NodeId) :
    (g.free n).node? m = if n = m then none else g.node? m := by
  obtain ⟨i⟩ := n
  obtain ⟨j⟩ := m
  unfold node? free
  rw [Store.get?_free]
  simp

theorem mem_ids {g : Graph} {n : NodeId} : n ∈ g.ids ↔ g.has n = true := by
  obtain ⟨i⟩ := n
  unfold ids has node?
  rw [List.mem_map]
  constructor
  · rintro ⟨j, hj, hij⟩
    injection hij with hij
    exact hij ▸ Store.mem_ids.1 hj
  · exact fun h => ⟨i, Store.mem_ids.2 h, rfl⟩

theorem ids_free (g : Graph) (n : NodeId) : (g.free n).ids = g.ids.filter (· ≠ n) := by
  obtain ⟨i⟩ := n
  unfold ids free
  rw [Store.ids_free, List.filter_map]
  congr 1
  exact List.filter_congr fun j _ => by simp

theorem has_modify (g : Graph) (n m : NodeId) (f : Node → Node) :
    (g.modify n f).has m = g.has m := by
  exact Store.has_modify ..

theorem name_modify (g : Graph) (n m : NodeId) (f : Node → Node)
    (hf : ∀ node, (f node).name = node.name) : (g.modify n f).name m = g.name m := by
  unfold name
  rw [node?_modify]
  split
  · rw [Option.map_map]
    congr 2
    exact funext hf
  · rfl

/-- The kind of a node is that of what it is made of. -/
theorem kind_eq (g : Graph) (n : NodeId) :
    g.kind n = ((g.content? n).map Content.kind).getD .file := by
  rw [kind, content?, Option.map_map]
  rfl

/-- Reading from a node is reading from what it is made of. -/
theorem read_eq (g : Graph) (n : NodeId) (offset : Nat) (buffer : List UInt8) :
    g.read n offset buffer = ((g.content? n).map fun content =>
      content.read offset buffer).getD (.error .notFound) := by
  unfold read content?
  cases g.node? n <;> rfl

@[simp] theorem name_reparent (g : Graph) (n parent m : NodeId) :
    (g.reparent n parent).name m = g.name m := name_modify _ _ _ _ fun _ => rfl

@[simp] theorem name_setChildren (g : Graph) (n : NodeId) (children : Directory NodeId)
    (m : NodeId) : (g.setChildren n children).name m = g.name m :=
  name_modify _ _ _ _ fun _ => rfl

theorem link?_reparent (g : Graph) (n parent m : NodeId) :
    (g.reparent n parent).link? m =
      if n = m ∧ g.has m = true then some parent else g.link? m := by
  unfold link? reparent has
  rw [node?_modify]
  by_cases h : n = m
  · subst h
    cases hn : g.node? n <;> simp
  · simp [h]

@[simp] theorem link?_setChildren (g : Graph) (n : NodeId) (children : Directory NodeId)
    (m : NodeId) : (g.setChildren n children).link? m = g.link? m := by
  unfold link? setChildren
  rw [node?_modify]
  split
  · cases g.node? m <;> rfl
  · rfl

@[simp] theorem content?_reparent (g : Graph) (n parent m : NodeId) :
    (g.reparent n parent).content? m = g.content? m := by
  unfold content? reparent
  rw [node?_modify]
  split
  · rw [Option.map_map]
    rfl
  · rfl

theorem content?_setChildren (g : Graph) (n : NodeId) (children : Directory NodeId)
    (m : NodeId) :
    (g.setChildren n children).content? m =
      if n = m ∧ g.has m = true then some (.directory children) else g.content? m := by
  unfold content? setChildren has
  rw [node?_modify]
  by_cases h : n = m
  · subst h
    cases hn : g.node? n <;> simp
  · simp [h]

theorem directory?_setChildren (g : Graph) (n : NodeId) (children : Directory NodeId)
    (m : NodeId) :
    (g.setChildren n children).directory? m =
      if n = m ∧ g.has m = true then some children else g.directory? m := by
  unfold directory?
  rw [content?_setChildren]
  by_cases h : n = m ∧ g.has m = true
  · rw [if_pos h, if_pos h]
  · rw [if_neg h, if_neg h]

@[simp] theorem directory?_reparent (g : Graph) (n parent m : NodeId) :
    (g.reparent n parent).directory? m = g.directory? m := by
  unfold directory?
  rw [content?_reparent]

theorem lookup_of_directory? {g : Graph} {n : NodeId} {children : Directory NodeId}
    (h : g.directory? n = some children) (name : String) :
    g.lookup n name = match children.find? name with
      | some child => .ok child
      | none => .error .notFound := by
  unfold directory? at h
  unfold lookup
  split at h
  next hc =>
    obtain rfl := Option.some.inj h
    rw [hc]
  next => exact absurd h (by simp)

theorem lineAt_of_directory? {g : Graph} {n : NodeId} {children : Directory NodeId}
    (h : g.directory? n = some children) (index : Nat) :
    g.lineAt n index =
      .ok ((children.nth? index).map fun entry => ⟨entry.1, g.kind entry.2⟩) := by
  unfold directory? at h
  unfold lineAt
  split at h
  next hc =>
    obtain rfl := Option.some.inj h
    rw [hc]
  next => exact absurd h (by simp)

/-- What look-up finds in a directory is an entry of it. -/
theorem mem_of_lookup {g : Graph} {n m : NodeId} {children : Directory NodeId} {name : String}
    (h : g.directory? n = some children) (hm : g.lookup n name = .ok m) :
    (name, m) ∈ children.entries := by
  rw [lookup_of_directory? h] at hm
  split at hm
  next child hchild =>
    obtain rfl := Except.ok.inj hm
    exact Directory.mem_entries_iff.2 hchild
  next => cases hm

/-! ### What changes do to one directory -/

theorem has_of_directory? {g : Graph} {n : NodeId} {children : Directory NodeId}
    (h : g.directory? n = some children) : g.has n = true := by
  rw [has]
  cases hn : g.node? n with
  | none =>
      rw [directory?, content?, hn] at h
      cases h
  | some node => rfl

/-- A new node is not one of the directories that there are. -/
theorem directory?_push {g : Graph} {n : NodeId} {children : Directory NodeId}
    (h : g.directory? n = some children) (node : Node) :
    (g.push node).directory? n = some children := by
  have hlt : n.index < g.nodes.next := by
    obtain ⟨found, hfound⟩ := Option.isSome_iff_exists.1 (has_of_directory? h)
    exact Store.lt_next_of_get?_eq_some hfound
  have hne : n ≠ g.fresh := fun he => by
    rw [he] at hlt
    exact Nat.lt_irrefl _ hlt
  have hnode : (g.push node).node? n = g.node? n := by rw [node?_push, if_neg hne]
  rw [directory?, content?, hnode, ← content?, ← directory?, h]

/-- A child is entered under its name if the name is free, and refused otherwise. -/
theorem add_cases {g : Graph} {dir : NodeId} {children : Directory NodeId}
    (h : g.directory? dir = some children) (child : NodeId) :
    (∃ g', g.add dir child = .ok g' ∧ children.contains (g.name child) = false ∧
      g'.directory? dir = some (children.insert (g.name child) child)) ∨
    g.add dir child = .error .alreadyExists ∧ children.contains (g.name child) = true := by
  rw [add, h]
  dsimp only
  split
  next hc => exact .inr ⟨rfl, hc⟩
  next hc =>
    refine .inl ⟨_, rfl, Bool.eq_false_iff.2 hc, ?_⟩
    rw [directory?_reparent, directory?_setChildren, if_pos ⟨rfl, has_of_directory? h⟩]

/-- A name that is listed is taken out, and any other refused. -/
theorem remove_cases {g : Graph} {dir : NodeId} {children : Directory NodeId}
    (h : g.directory? dir = some children) (name : String) :
    (∃ child g', g.remove dir name = .ok (child, g') ∧
      g'.directory? dir = some (children.erase name)) ∨
    g.remove dir name = .error .notFound := by
  rw [remove, h]
  dsimp only
  split
  next => exact .inr rfl
  next child _ =>
    refine .inl ⟨child, _, rfl, ?_⟩
    rw [directory?_setChildren, if_pos ⟨rfl, has_of_directory? h⟩]

/-- Entering a child changes no name. -/
theorem name_of_add {g g' : Graph} {dir child : NodeId} (h : g.add dir child = .ok g')
    (n : NodeId) : g'.name n = g.name n := by
  unfold add at h
  split at h
  next => cases h
  next =>
    split at h
    next => cases h
    next =>
      obtain rfl := Except.ok.inj h
      rw [name_reparent, name_setChildren]

end Graph

end VolumeService
