import VolumeService.Proofs.NodeHistories

/-! # Parent links mirror membership

A directory keeps its children, and a child keeps a link to its parent.  The two are set one after
the other, and taking a child out leaves its link as it was.

* **Tidy histories** (`Graph.tidy`).  Directories are made empty, no node is entered while another
  directory has it as a child, and links are set by entering alone.  Nodes may be made, entered,
  refused, taken out and reclaimed in any order.
* **Linked graphs** (`Graph.Linked`).  The children of a directory name it as their parent.  A tidy
  history keeps a graph linked (`Linked.after`): what is entered is linked at once, and what goes
  away takes no child of a directory that stays with it.
* **Steady links** (`Graph.link?_after`).  Only entering changes the link of a node.  So a node that
  was taken out goes on naming the directory that it was taken from, until it is entered again, and
  the name counts for as long as that directory is there. -/

namespace VolumeService

open Kernel (NodeOperation)

/-- Is the node made without children? -/
def Node.isChildless (node : Node) : Bool :=
  match node.content with
  | .directory children => children.isEmpty
  | _ => true

namespace Graph

/-! ### Tidy histories -/

/-- The directories that have a node as a child. -/
def homes (g : Graph) (n : NodeId) : List NodeId :=
  g.ids.filter fun dir => (g.directory? dir).any fun children =>
    children.entries.any fun entry => entry.2 = n

/-- May a node be entered?  It is there, and if the directory takes it, no other one has it. -/
def mayEnter (g : Graph) (dir child : NodeId) : Bool :=
  g.has child && (!(g.add dir child).isOk || (g.homes child).all fun home => home = dir)

/-- May nodes be entered in order, up to the first that is refused? -/
def mayEnterAll (g : Graph) (dir : NodeId) : List NodeId → Bool
  | [] => true
  | child :: rest =>
    g.mayEnter dir child &&
      match g.add dir child with
      | .ok g' => g'.mayEnterAll dir rest
      | .error _ => true

/-- May the operation be part of a tidy history? -/
def allows (g : Graph) : NodeOperation → Bool
  | .make node => node.isChildless
  | .makeDevices devices => (DeviceDir.create g).2.mayEnterAll g.fresh devices
  | .add dir child => g.mayEnterAll dir [child]
  | .reparent _ _ => false
  | _ => true

/-- Does the history enter only nodes that are no children of other directories, and set no link
otherwise? -/
def tidy (g : Graph) : List NodeOperation → Bool
  | [] => true
  | operation :: rest => g.allows operation && (operation.apply g).2.tidy rest

/-- Is the node entered when nodes are entered in order, up to the first that is refused? -/
def entersAmong (g : Graph) (dir n : NodeId) : List NodeId → Bool
  | [] => false
  | child :: rest =>
    match g.add dir child with
    | .ok g' => decide (child = n) || g'.entersAmong dir n rest
    | .error _ => false

/-- Does the operation enter the node into a directory? -/
def entersBy (g : Graph) (n : NodeId) : NodeOperation → Bool
  | .makeDevices devices => (DeviceDir.create g).2.entersAmong g.fresh n devices
  | .add dir child => g.entersAmong dir n [child]
  | _ => false

/-- Does some operation of the history enter the node into a directory? -/
def enters (g : Graph) (n : NodeId) : List NodeOperation → Bool
  | [] => false
  | operation :: rest => g.entersBy n operation || (operation.apply g).2.enters n rest

theorem mem_homes {g : Graph} {dir n : NodeId} :
    dir ∈ g.homes n ↔ ∃ children name, g.directory? dir = some children ∧
      children.find? name = some n := by
  unfold homes
  rw [List.mem_filter, Option.any_eq_true]
  simp only [List.any_eq_true, decide_eq_true_eq]
  constructor
  · rintro ⟨-, children, hdir, ⟨name, m⟩, hentry, rfl⟩
    exact ⟨children, name, hdir, Directory.mem_entries_iff.1 hentry⟩
  · rintro ⟨children, name, hdir, hfound⟩
    exact ⟨mem_ids.2 (has_of_directory? hdir), children, hdir, (name, n),
      Directory.mem_entries_iff.2 hfound, rfl⟩

theorem apply_add (g : Graph) (dir child : NodeId) :
    ((NodeOperation.add dir child).apply g).2 = (DeviceDir.addAll g dir [child]).2 := by
  rw [NodeOperation.apply, DeviceDir.addAll]
  cases g.add dir child <;> rfl

/-! ### Linked graphs -/

/-- The children of a directory name it as their parent. -/
def Linked (g : Graph) : Prop := ∀ dir n, dir ∈ g.homes n → g.link? n = some dir

theorem has_of_link? {g : Graph} {n parent : NodeId} (h : g.link? n = some parent) :
    g.has n = true := by
  obtain ⟨node, hnode, _⟩ := Option.bind_eq_some_iff.1 h
  rw [has, hnode]
  rfl

namespace Linked

variable {g g' : Graph} {dir child n : NodeId}

theorem empty : Graph.empty.Linked := by
  intro dir n hhome
  obtain ⟨children, _, hdir, _⟩ := mem_homes.1 hhome
  have hhas : Graph.empty.has dir = true := has_of_directory? hdir
  rw [has, node?, show Graph.empty.nodes = .empty from rfl, Store.get?_empty] at hhas
  cases hhas

/-- A node without a link is nobody's child. -/
theorem homes_eq_nil (h : g.Linked) (hlink : g.link? n = none) : g.homes n = [] := by
  refine List.eq_nil_iff_forall_not_mem.2 fun dir hhome => ?_
  rw [h dir n hhome] at hlink
  cases hlink

theorem mayEnter (h : g.Linked) (hhas : g.has child = true) (hlink : g.link? child = none) :
    g.mayEnter dir child = true := by
  rw [Graph.mayEnter, hhas, h.homes_eq_nil hlink, List.all_nil, Bool.or_true, Bool.and_true]

/-- A new node without children has no parent to mirror, and all others keep theirs. -/
theorem push (h : g.Linked) {node : Node} (hnode : node.isChildless = true) :
    (g.push node).Linked := by
  intro dir n hhome
  obtain ⟨children, name, hdir, hfound⟩ := mem_homes.1 hhome
  have hne : dir ≠ g.fresh := by
    rintro rfl
    have hcontent := content?_of_directory? hdir
    rw [content?, node?_push, if_pos rfl] at hcontent
    rw [Node.isChildless, Option.some.inj hcontent] at hnode
    rw [Directory.find?, List.isEmpty_iff.1 hnode] at hfound
    cases hfound
  have hold : g.directory? dir = some children := by
    rw [← hdir, directory?, directory?, content?, content?, node?_push, if_neg hne]
  have hlink : g.link? n = some dir := h dir n (mem_homes.2 ⟨children, name, hold, hfound⟩)
  rw [(g.extends_push node).link? (has_of_link? hlink), hlink]

/-- A child that is entered is linked to the directory; it was nobody else's child. -/
theorem add (h : g.Linked) (hadd : g.add dir child = .ok g')
    (hmay : g.mayEnter dir child = true) : g'.Linked := by
  obtain ⟨hhas, halone⟩ := Bool.and_eq_true_iff.1 hmay
  rw [hadd] at halone
  have hhomes : ∀ home ∈ g.homes child, home = dir := by
    intro home hhome
    simpa using List.all_eq_true.1 halone home hhome
  obtain ⟨children, hdir, _⟩ := add_eq_ok_iff.1 hadd
  intro home n hhome
  rw [link?_of_add hadd]
  obtain ⟨children', name, hdir', hfound⟩ := mem_homes.1 hhome
  rw [directory?_of_add hdir hadd] at hdir'
  have hcases : home = dir ∧ n = child ∨ home ∈ g.homes n := by
    split at hdir'
    next hhomedir =>
      obtain rfl := Option.some.inj hdir'
      rw [Directory.find?_insert] at hfound
      split at hfound
      next => exact .inl ⟨hhomedir, (Option.some.inj hfound).symm⟩
      next => exact .inr (mem_homes.2 ⟨children, name, hhomedir ▸ hdir, hfound⟩)
    next => exact .inr (mem_homes.2 ⟨children', name, hdir', hfound⟩)
  rcases hcases with ⟨rfl, rfl⟩ | hold
  · rw [if_pos ⟨rfl, hhas⟩]
  · split
    next hsame =>
      obtain ⟨rfl, _⟩ := hsame
      rw [hhomes home hold]
    next => exact h home n hold

theorem addAll (h : g.Linked) {nodes : List NodeId} (hmay : g.mayEnterAll dir nodes = true) :
    (DeviceDir.addAll g dir nodes).2.Linked := by
  induction nodes generalizing g with
  | nil => exact h
  | cons child rest ih =>
      obtain ⟨hfirst, hrest⟩ := Bool.and_eq_true_iff.1 hmay
      rw [DeviceDir.addAll]
      cases hadd : g.add dir child with
      | error e => exact h
      | ok g' =>
          rw [hadd] at hrest
          exact ih (h.add hadd hfirst) hrest

theorem remove {name : String} (h : g.Linked) (hremove : g.remove dir name = .ok (child, g')) :
    g'.Linked := by
  obtain ⟨children, hdir, _⟩ := remove_eq_ok_iff.1 hremove
  intro home n hhome
  rw [link?_of_remove hremove]
  obtain ⟨children', other, hdir', hfound⟩ := mem_homes.1 hhome
  rw [directory?_of_remove hdir hremove] at hdir'
  split at hdir'
  next hhomedir =>
    obtain rfl := Option.some.inj hdir'
    rw [Directory.find?_erase] at hfound
    split at hfound
    next => cases hfound
    next => exact h home n (mem_homes.2 ⟨children, other, hhomedir ▸ hdir, hfound⟩)
  next => exact h home n (mem_homes.2 ⟨children', other, hdir', hfound⟩)

/-- A sweep that leaves a directory leaves its children and their links. -/
theorem sweep (h : g.Linked) (outside : List NodeId) : (g.sweep outside).Linked := by
  intro dir n hhome
  obtain ⟨children, name, hdir, hfound⟩ := mem_homes.1 hhome
  have hold : g.directory? dir = some children := by
    rw [(g.sweep_extends outside).directory? (has_of_directory? hdir), hdir]
  have hlink : g.link? n = some dir := h dir n (mem_homes.2 ⟨children, name, hold, hfound⟩)
  have hleft : (g.sweep outside).has n = true :=
    has_sweep_of_mem_entries hdir (Directory.mem_entries_iff.2 hfound) (has_of_link? hlink)
  rw [← (g.sweep_extends outside).link? hleft, hlink]

/-- Nodes without a link may be entered into one directory together. -/
theorem mayEnterAll (h : g.Linked) {nodes : List NodeId} (hnodup : nodes.Nodup)
    (hhas : ∀ n ∈ nodes, g.has n = true) (hlink : ∀ n ∈ nodes, g.link? n = none) :
    g.mayEnterAll dir nodes = true := by
  induction nodes generalizing g with
  | nil => rfl
  | cons child rest ih =>
      obtain ⟨hnew, hrest⟩ := List.nodup_cons.1 hnodup
      have hfirst : g.mayEnter dir child = true :=
        h.mayEnter (hhas child (List.mem_cons_self ..)) (hlink child (List.mem_cons_self ..))
      rw [Graph.mayEnterAll, hfirst, Bool.true_and]
      cases hadd : g.add dir child with
      | error e => rfl
      | ok g' =>
          refine ih (h.add hadd hfirst) hrest (fun n hn => ?_) fun n hn => ?_
          · rw [has_of_add hadd]
            exact hhas n (List.mem_cons_of_mem _ hn)
          · have hne : ¬ (child = n ∧ g.has n = true) := by
              rintro ⟨rfl, _⟩
              exact hnew hn
            rw [link?_of_add hadd, if_neg hne]
            exact hlink n (List.mem_cons_of_mem _ hn)

/-- A new device directory is linked to its built-in devices. -/
theorem create (h : g.Linked) : (DeviceDir.create g).2.Linked := by
  have hmade : (DeviceDir.layOut g).Linked := ((h.push rfl).push rfl).push rfl
  have hmay : (DeviceDir.layOut g).mayEnterAll g.fresh (DeviceDir.newDevices g) = true :=
    hmade.mayEnterAll (DeviceDir.nodup_newDevices g)
      (fun _ hn => (DeviceDir.unlinked_newDevices hn).1)
      fun _ hn => (DeviceDir.unlinked_newDevices hn).2
  rw [DeviceDir.create_snd]
  exact hmade.addAll hmay

/-- Every operation of a tidy history keeps the graph linked. -/
theorem apply (h : g.Linked) {operation : NodeOperation} (hallows : g.allows operation = true) :
    (operation.apply g).2.Linked := by
  cases operation with
  | make node => exact h.push hallows
  | makeDevices devices =>
      show (DeviceDir.createWith g devices).2.Linked
      rw [DeviceDir.createWith_snd]
      exact h.create.addAll hallows
  | add dir child =>
      rw [apply_add]
      exact h.addAll hallows
  | remove dir name =>
      rw [NodeOperation.apply]
      cases hremove : g.remove dir name with
      | error e => exact h
      | ok found => exact h.remove hremove
  | reparent n parent => cases hallows
  | reclaim holders => exact reclaim_keeps (fun _ h => h.sweep holders) h
  | look | read | lookup | lineAt | next | resolve => exact h

/-- A tidy history keeps the graph linked. -/
theorem after (h : g.Linked) {operations : List NodeOperation} (htidy : g.tidy operations = true) :
    (g.after operations).Linked := by
  induction operations generalizing g with
  | nil => exact h
  | cons operation rest ih =>
      obtain ⟨hfirst, hrest⟩ := Bool.and_eq_true_iff.1 htidy
      exact ih (h.apply hfirst) hrest

end Linked

/-! ### Steady links -/

section steady

variable {g : Graph} {dir n : NodeId}

theorem entersAmong_of_notMem {nodes : List NodeId} (hn : n ∉ nodes) :
    g.entersAmong dir n nodes = false := by
  induction nodes generalizing g with
  | nil => rfl
  | cons child rest ih =>
      obtain ⟨hne, hrest⟩ := List.ne_and_not_mem_of_not_mem_cons hn
      rw [entersAmong]
      cases g.add dir child with
      | error e => rfl
      | ok g' => simp [Ne.symm hne, ih hrest]

theorem link?_addAll {nodes : List NodeId} (hnot : g.entersAmong dir n nodes = false) :
    (DeviceDir.addAll g dir nodes).2.link? n = g.link? n := by
  induction nodes generalizing g with
  | nil => rfl
  | cons child rest ih =>
      rw [entersAmong] at hnot
      rw [DeviceDir.addAll]
      cases hadd : g.add dir child with
      | error e => rfl
      | ok g' =>
          rw [hadd] at hnot
          obtain ⟨hne, hrest⟩ := Bool.or_eq_false_iff.1 hnot
          refine (ih hrest).trans ?_
          rw [link?_of_add hadd, if_neg fun he => of_decide_eq_false hne he.1]

/-- The built-in devices of a new device directory are new. -/
theorem link?_create (hn : g.has n = true) : (DeviceDir.create g).2.link? n = g.link? n := by
  have hold : n ∉ DeviceDir.newDevices g := DeviceDir.notMem_newDevices (.of_has hn)
  rw [DeviceDir.create_snd, link?_addAll (entersAmong_of_notMem hold)]
  exact (DeviceDir.continues_layOut g).extends.link? hn

/-- An operation of a tidy history that does not enter a node leaves its link as it was. -/
theorem link?_apply {operation : NodeOperation} (hallows : g.allows operation = true)
    (hnot : g.entersBy n operation = false) (hn : g.has n = true)
    (hleft : (operation.apply g).2.has n = true) :
    (operation.apply g).2.link? n = g.link? n := by
  cases operation with
  | make node => exact (g.extends_push node).link? hn
  | makeDevices devices =>
      show (DeviceDir.createWith g devices).2.link? n = _
      rw [DeviceDir.createWith_snd]
      exact (link?_addAll hnot).trans (link?_create hn)
  | add dir child =>
      rw [apply_add]
      exact link?_addAll hnot
  | remove dir name =>
      rw [NodeOperation.apply]
      cases hremove : g.remove dir name with
      | error e => rfl
      | ok found => exact link?_of_remove hremove n
  | reparent m parent => cases hallows
  | reclaim holders => exact ((g.reclaim_extends holders).link? hleft).symm
  | look | read | lookup | lineAt | next | resolve => rfl

/-- While a node is not entered, its link stays. -/
theorem link?_after {operations : List NodeOperation} (htidy : g.tidy operations = true)
    (hnot : g.enters n operations = false) (hn : g.has n = true)
    (hleft : (g.after operations).has n = true) : (g.after operations).link? n = g.link? n := by
  induction operations generalizing g with
  | nil => rfl
  | cons operation rest ih =>
      obtain ⟨hfirst, hrest⟩ := Bool.and_eq_true_iff.1 htidy
      obtain ⟨hnotFirst, hnotRest⟩ := Bool.or_eq_false_iff.1 hnot
      -- a node that is there in the end was there all the time
      have hissued : (operation.apply g).2.Issued n :=
        (Ages.apply g operation).precedes n (.of_has hn)
      have hthere : (operation.apply g).2.has n = true :=
        (Ages.after _ rest).has n hissued hleft
      exact (ih hrest hnotRest hthere hleft).trans (link?_apply hfirst hnotFirst hn hthere)

/-- A node goes on reporting the directory that it is linked to, as long as the directory is there
and the node is not entered again. -/
theorem parent?_after {operations : List NodeOperation} (htidy : g.tidy operations = true)
    (hnot : g.enters n operations = false) (hlink : g.link? n = some dir)
    (hleft : (g.after operations).has n = true) :
    (g.after operations).parent? n =
      if (g.after operations).has dir = true then some dir else none := by
  rw [parent?, link?_after htidy hnot (has_of_link? hlink) hleft, hlink, Option.filter_some]

theorem tidy_append {first second : List NodeOperation} :
    g.tidy (first ++ second) = true ↔
      g.tidy first = true ∧ (g.after first).tidy second = true := by
  induction first generalizing g with
  | nil => simp [tidy, after]
  | cons operation rest ih =>
      rw [List.cons_append, tidy, tidy, Bool.and_eq_true_iff, Bool.and_eq_true_iff, ih, after,
        and_assoc]

end steady

/-- After a tidy history, each child of a directory reports the directory as its parent, and a
refused entry changes nothing.  A node that was taken out goes on reporting the directory that it
was taken from until it is entered again, as long as that directory is there; and one that has
become a child of another directory reports that one in the same way. -/
theorem links_mirror_membership {history : List NodeOperation}
    (htidy : Graph.empty.tidy history = true) :
    let g := Graph.empty.after history
    (∀ dir children name child, g.directory? dir = some children →
      g.lookup dir name = .ok child → g.parent? child = some dir) ∧
    (∀ dir child cause, ((NodeOperation.add dir child).apply g).1 = .refused cause →
      ((NodeOperation.add dir child).apply g).2 = g) ∧
    ∀ dir name child g', (NodeOperation.remove dir name).apply g = (.node (.ok child), g') →
      ∀ later, g'.tidy later = true → (g'.after later).has child = true →
        (g'.enters child later = false →
          (g'.after later).parent? child =
            if (g'.after later).has dir = true then some dir else none) ∧
        ∀ before after other, later = before ++ after →
          other ∈ (g'.after before).homes child →
          (g'.after before).enters child after = false →
          (g'.after later).parent? child =
            if (g'.after later).has other = true then some other else none := by
  intro g
  have hlinked : g.Linked := Linked.empty.after htidy
  refine ⟨fun dir children name child hdir hfound => ?_, fun dir child cause hrefused => ?_, ?_⟩
  · have hhome : dir ∈ g.homes child :=
      mem_homes.2 ⟨children, name, hdir, Directory.mem_entries_iff.1 (mem_of_lookup hdir hfound)⟩
    rw [parent?, hlinked dir child hhome, Option.filter_some, if_pos (has_of_directory? hdir)]
  · rw [NodeOperation.apply] at hrefused ⊢
    cases hadd : g.add dir child with
    | error e => rfl
    | ok g' =>
        rw [hadd] at hrefused
        cases hrefused
  · intro dir name child g' hremove later hlater hleft
    have hout : g.remove dir name = .ok (child, g') := by
      rw [NodeOperation.apply] at hremove
      cases hcall : g.remove dir name with
      | error e =>
          rw [hcall] at hremove
          cases hremove
      | ok found =>
          rw [hcall] at hremove
          cases hremove
          rfl
    obtain ⟨children, hdir, hfound, _⟩ := remove_eq_ok_iff.1 hout
    have hlinked' : g'.Linked := hlinked.remove hout
    refine ⟨fun hnot => ?_, fun before after other hsplit hhome hnot => ?_⟩
    · have hlink : g'.link? child = some dir := by
        rw [link?_of_remove hout]
        exact hlinked dir child (mem_homes.2 ⟨children, name, hdir, hfound⟩)
      exact parent?_after hlater hnot hlink hleft
    · subst hsplit
      obtain ⟨hfirst, hsecond⟩ := tidy_append.1 hlater
      have hlink := hlinked'.after hfirst other child hhome
      rw [after_append] at hleft ⊢
      exact parent?_after hsecond hnot hlink hleft

end Graph

/-! ### A disk that moves from one directory to another -/

namespace ParentLinksExample

/-- Two directories and two disks of one name are made.  One disk is entered into the first
directory, and the other one into a device directory; it is then refused by the first. -/
def history : List NodeOperation :=
  [.make (.newDirectory "a"), .make (.newDirectory "b"), .make (.newImage "disk" []),
    .make (.newImage "disk" [1]), .makeDevices [⟨3⟩], .add ⟨0⟩ ⟨2⟩, .add ⟨0⟩ ⟨3⟩]

def graph : Graph := Graph.empty.after history

/-- The graph without the disk in the first directory. -/
def removed : Graph := ((NodeOperation.remove ⟨0⟩ "disk").apply graph).2

/-- The first directory goes. -/
def parting : List NodeOperation := [.reclaim [⟨1⟩, ⟨2⟩, ⟨4⟩]]

/-- The disk is entered into the second directory, and that takes it out again. -/
def moving : List NodeOperation := [.add ⟨1⟩ ⟨2⟩, .remove ⟨1⟩ "disk"]

/-- The refused disk stays with the device directory.  The other one reports the first directory
while that is there, and the second one after it has been there. -/
theorem disks_report_directories :
    Graph.empty.tidy history = true ∧
      (NodeOperation.remove ⟨0⟩ "disk").apply graph = (.node (.ok ⟨2⟩), removed) ∧
      removed.tidy parting = true ∧ removed.tidy moving = true ∧
      graph.parent? ⟨3⟩ = some ⟨4⟩ ∧ removed.parent? ⟨2⟩ = some ⟨0⟩ ∧
      (removed.after parting).parent? ⟨2⟩ = none ∧
      (removed.after moving).parent? ⟨2⟩ = some ⟨1⟩ := by
  have htidy : Graph.empty.tidy history = true := by decide
  have hremove : (NodeOperation.remove ⟨0⟩ "disk").apply graph = (.node (.ok ⟨2⟩), removed) := rfl
  have hparting : removed.tidy parting = true := by decide
  have hmoving : removed.tidy moving = true := by decide
  obtain ⟨hmirror, _, hremoved⟩ := Graph.links_mirror_membership htidy
  have hdisk := hremoved ⟨0⟩ "disk" ⟨2⟩ removed hremove
  refine ⟨htidy, hremove, hparting, hmoving, ?_, ?_, ?_, ?_⟩
  · exact hmirror ⟨4⟩ _ "disk" ⟨3⟩ rfl rfl
  · exact (hdisk [] rfl rfl).1 rfl
  · exact (hdisk parting hparting (by decide)).1 rfl
  · exact (hdisk moving hmoving (by decide)).2 [.add ⟨1⟩ ⟨2⟩] [.remove ⟨1⟩ "disk"] ⟨1⟩ rfl
      (by decide) rfl

end ParentLinksExample

end VolumeService
