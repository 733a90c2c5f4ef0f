import VolumeService.Kernel
import VolumeService.Proofs.Grounded

/-! # Histories of nodes

A history of nodes is a list of operations on them.

* **After a history** (`Graph.after`) the graph is what the operations make of it one by one.
* **Changes of directories.**  `Graph.add_eq_ok_iff` and `Graph.remove_eq_ok_iff` say when a node
  is entered or a name taken out, and what the graph is then; no other directory changes.
* **Device directories** are laid out and then filled (`DeviceDir.createWith_snd`), so that making
  one is a history of its own.
* **Reclaiming** only takes nodes away: those that are left are as they were
  (`Graph.reclaim_extends`), and a directory that is left has all its children left
  (`Graph.has_sweep_of_mem_entries`).
* **Time goes one way** (`Graph.Ages`).  A node that was made stays made, and one that is gone stays
  gone, through every history (`Graph.Ages.after`). -/

namespace VolumeService

open Kernel (NodeOperation)

namespace Graph

/-- The graph after operations on nodes, one after the other. -/
def after (g : Graph) : List NodeOperation → Graph
  | [] => g
  | operation :: rest => (operation.apply g).2.after rest

theorem after_append (g : Graph) (first second : List NodeOperation) :
    g.after (first ++ second) = (g.after first).after second := by
  induction first generalizing g with
  | nil => rfl
  | cons operation rest ih => exact ih _

/-! ### Entering and taking out -/

theorem add_eq_ok_iff {g g' : Graph} {dir child : NodeId} :
    g.add dir child = .ok g' ↔ ∃ children, g.directory? dir = some children ∧
      children.contains (g.name child) = false ∧
      g' = (g.setChildren dir (children.insert (g.name child) child)).reparent child dir := by
  constructor
  · intro h
    unfold add at h
    split at h
    next => cases h
    next children hdir =>
      split at h
      next => cases h
      next hfree => exact ⟨children, hdir, Bool.eq_false_iff.2 hfree, (Except.ok.inj h).symm⟩
  · rintro ⟨children, hdir, hfree, rfl⟩
    rw [add, hdir]
    exact if_neg (Bool.eq_false_iff.1 hfree)

theorem remove_eq_ok_iff {g g' : Graph} {dir child : NodeId} {name : String} :
    g.remove dir name = .ok (child, g') ↔ ∃ children, g.directory? dir = some children ∧
      children.find? name = some child ∧ g' = g.setChildren dir (children.erase name) := by
  constructor
  · intro h
    unfold remove at h
    split at h
    next => cases h
    next children hdir =>
      split at h
      next => cases h
      next found hfound =>
        obtain ⟨rfl, rfl⟩ := Prod.mk.inj (Except.ok.inj h)
        exact ⟨children, hdir, hfound, rfl⟩
  · rintro ⟨children, hdir, hfound, rfl⟩
    rw [remove, hdir]
    simp only [hfound]

section changes

variable {g g' : Graph} {dir child n : NodeId}

/-- Of the directories, only the one whose children are replaced changes. -/
theorem directory?_setChildren_of_directory? {children : Directory NodeId}
    (hdir : g.directory? dir = some children) (children' : Directory NodeId) (n : NodeId) :
    (g.setChildren dir children').directory? n =
      if n = dir then some children' else g.directory? n := by
  rw [directory?_setChildren]
  by_cases hn : n = dir
  · subst hn
    rw [if_pos ⟨rfl, has_of_directory? hdir⟩, if_pos rfl]
  · rw [if_neg fun he => hn he.1.symm, if_neg hn]

/-- What the directories are once a child has been entered. -/
theorem directory?_of_add {children : Directory NodeId} (hdir : g.directory? dir = some children)
    (h : g.add dir child = .ok g') (n : NodeId) :
    g'.directory? n =
      if n = dir then some (children.insert (g.name child) child) else g.directory? n := by
  obtain ⟨children', hdir', _, rfl⟩ := add_eq_ok_iff.1 h
  obtain rfl := Option.some.inj (hdir.symm.trans hdir')
  rw [directory?_reparent, directory?_setChildren_of_directory? hdir]

/-- What the directories are once a name has been taken out. -/
theorem directory?_of_remove {children : Directory NodeId} {name : String}
    (hdir : g.directory? dir = some children) (h : g.remove dir name = .ok (child, g'))
    (n : NodeId) :
    g'.directory? n = if n = dir then some (children.erase name) else g.directory? n := by
  obtain ⟨children', hdir', _, rfl⟩ := remove_eq_ok_iff.1 h
  obtain rfl := Option.some.inj (hdir.symm.trans hdir')
  exact directory?_setChildren_of_directory? hdir ..

/-- Entering a child leaves the other directories as they are. -/
theorem directory?_of_add_of_ne (h : g.add dir child = .ok g') (hn : n ≠ dir) :
    g'.directory? n = g.directory? n := by
  obtain ⟨children, hdir, _⟩ := add_eq_ok_iff.1 h
  rw [directory?_of_add hdir h, if_neg hn]

theorem directory?_of_remove_of_ne {name : String} (h : g.remove dir name = .ok (child, g'))
    (hn : n ≠ dir) : g'.directory? n = g.directory? n := by
  obtain ⟨children, hdir, _⟩ := remove_eq_ok_iff.1 h
  rw [directory?_of_remove hdir h, if_neg hn]

/-- A node that is entered names the directory as its parent, and no other link changes. -/
theorem link?_of_add (h : g.add dir child = .ok g') (n : NodeId) :
    g'.link? n = if child = n ∧ g.has n = true then some dir else g.link? n := by
  obtain ⟨children, _, _, rfl⟩ := add_eq_ok_iff.1 h
  rw [link?_reparent, link?_setChildren, setChildren, has_modify]

/-- A node that is taken out keeps its link, and so do all others. -/
theorem link?_of_remove {name : String} (h : g.remove dir name = .ok (child, g')) (n : NodeId) :
    g'.link? n = g.link? n := by
  obtain ⟨children, _, _, rfl⟩ := remove_eq_ok_iff.1 h
  exact link?_setChildren ..

/-- Entering a child changes what the directory is made of, and no other node. -/
theorem content?_of_add_of_ne (h : g.add dir child = .ok g') (hn : n ≠ dir) :
    g'.content? n = g.content? n := by
  obtain ⟨children, _, _, rfl⟩ := add_eq_ok_iff.1 h
  rw [content?_reparent, content?_setChildren, if_neg fun he => hn he.1.symm]

theorem has_of_add (h : g.add dir child = .ok g') (n : NodeId) : g'.has n = g.has n := by
  obtain ⟨children, _, _, rfl⟩ := add_eq_ok_iff.1 h
  rw [reparent, has_modify, setChildren, has_modify]

end changes

/-! ### Nodes that are left as they were -/

theorem content?_of_directory? {g : Graph} {n : NodeId} {children : Directory NodeId}
    (h : g.directory? n = some children) : g.content? n = some (.directory children) := by
  unfold directory? at h
  split at h
  next hcontent =>
    obtain rfl := Option.some.inj h
    exact hcontent
  next => cases h

theorem Extends.directory? {g g' : Graph} (h : g.Extends g') {n : NodeId} (hn : g.has n = true) :
    g'.directory? n = g.directory? n := by
  rw [Graph.directory?, content?, h n hn, ← content?, ← Graph.directory?]

theorem extends_push (g : Graph) (node : Node) : g.Extends (g.push node) :=
  ((Continues.refl g).push node).extends

theorem node?_foldl_free (ns : List NodeId) (g : Graph) (n : NodeId) :
    (ns.foldl free g).node? n = if n ∈ ns then none else g.node? n := by
  induction ns generalizing g with
  | nil => simp
  | cons m rest ih =>
      rw [List.foldl_cons, ih, node?_free]
      by_cases hrest : n ∈ rest
      · simp [hrest]
      · by_cases hm : m = n
        · simp [hm]
        · simp [hrest, hm, Ne.symm hm]

/-- A sweep leaves the nodes that it does not take out as they were. -/
theorem sweep_extends (g : Graph) (outside : List NodeId) : (g.sweep outside).Extends g := by
  intro n hn
  rw [has, sweep, node?_foldl_free] at hn
  rw [sweep, node?_foldl_free]
  split at hn
  next => cases hn
  next hleft => rw [if_neg hleft]

/-- A directory that a sweep leaves holds its children, and so it leaves them too. -/
theorem has_sweep_of_mem_entries {g : Graph} {outside : List NodeId} {dir : NodeId}
    {children : Directory NodeId} (hdir : (g.sweep outside).directory? dir = some children)
    {entry : String × NodeId} (hentry : entry ∈ children.entries)
    (hchild : g.has entry.2 = true) : (g.sweep outside).has entry.2 = true := by
  have hleft : (g.sweep outside).has dir = true := has_of_directory? hdir
  rw [← (g.sweep_extends outside).directory? hleft] at hdir
  have hheld : entry.2 ∈ g.heldNodes outside := by
    refine List.mem_append_right _ (List.mem_flatMap.2 ⟨dir, ?_, ?_⟩)
    · exact mem_ids.2 (has_of_directory? hdir)
    · rw [holds, content?_of_directory? hdir]
      exact List.mem_map_of_mem hentry
  have hnot : entry.2 ∉ g.unheld outside := by
    intro hunheld
    have hfree := (List.mem_filter.1 hunheld).2
    simp [hheld] at hfree
  rw [has, sweep, node?_foldl_free, if_neg hnot]
  exact hchild

/-- What every sweep keeps is kept by reclaiming. -/
theorem reclaim_keeps {P : Graph → Prop} {outside : List NodeId}
    (hsweep : ∀ g, P g → P (g.sweep outside)) {g : Graph} (h : P g) : P (g.reclaim outside) := by
  have hsweeps : ∀ times g, P g → P (sweepUpTo outside times g) := by
    intro times
    induction times with
    | zero => exact fun g h => h
    | succ times ih =>
        intro g h
        unfold sweepUpTo
        split
        next => exact h
        next => exact ih _ (hsweep g h)
  exact hsweeps _ g h

/-- Reclaiming leaves the nodes that are held as they were. -/
theorem reclaim_extends (g : Graph) (outside : List NodeId) : (g.reclaim outside).Extends g :=
  reclaim_keeps (fun g' h => (g'.sweep_extends outside).trans h) (Extends.refl g)

end Graph

/-! ### Device directories -/

namespace DeviceDir

/-- Entering nodes changes what the directory is made of, and no other node. -/
theorem content?_addAll_of_ne {g : Graph} {dir n : NodeId} (hn : n ≠ dir) (nodes : List NodeId) :
    (addAll g dir nodes).2.content? n = g.content? n := by
  induction nodes generalizing g with
  | nil => rfl
  | cons child rest ih =>
      rw [addAll]
      cases hadd : g.add dir child with
      | error e => rfl
      | ok g' => exact ih.trans (Graph.content?_of_add_of_ne hadd hn)

/-- The graph with the nodes of a new device directory, before any of them is entered. -/
def layOut (g : Graph) : Graph :=
  ((g.push (.newDirectory "dev")).push .newNull).push .newZero

/-- The built-in devices of a new device directory. -/
def newDevices (g : Graph) : List NodeId :=
  [(g.push (.newDirectory "dev")).fresh, ((g.push (.newDirectory "dev")).push .newNull).fresh]

theorem create_snd (g : Graph) : (create g).2 = (addAll (layOut g) g.fresh (newDevices g)).2 := rfl

/-- Making a device directory is laying it out and entering its devices. -/
theorem createWith_snd (g : Graph) (devices : List NodeId) :
    (createWith g devices).2 = (addAll (create g).2 g.fresh devices).2 := by
  rw [createWith]
  dsimp only
  split
  next hadd => exact (congrArg Prod.snd hadd).symm
  next hadd => exact (congrArg Prod.snd hadd).symm

theorem continues_layOut (g : Graph) : g.Continues (layOut g) :=
  (((Graph.Continues.refl g).push _).push _).push _

theorem notMem_newDevices {g : Graph} {n : NodeId} (hn : g.Issued n) : n ∉ newDevices g := by
  have h₁ : g.Continues (g.push (.newDirectory "dev")) := (Graph.Continues.refl g).push _
  have hnull : n ≠ (g.push (.newDirectory "dev")).fresh := by
    rintro rfl
    exact h₁.not_issued_fresh hn
  have hzero : n ≠ ((g.push (.newDirectory "dev")).push .newNull).fresh := by
    rintro rfl
    exact (h₁.push .newNull).not_issued_fresh hn
  simp [newDevices, hnull, hzero]

theorem nodup_newDevices (g : Graph) : (newDevices g).Nodup := by
  have hne : (g.push (.newDirectory "dev")).fresh ≠
      ((g.push (.newDirectory "dev")).push .newNull).fresh := fun he =>
    Graph.not_issued_fresh _ (he ▸ Graph.issued_fresh_push _ .newNull)
  simp [newDevices, hne]

/-- The nodes of a new device directory before any of them is entered. -/
theorem node?_layOut (g : Graph) :
    (layOut g).node? g.fresh = some (.newDirectory "dev") ∧
      (newDevices g).map (layOut g).node? = [some .newNull, some .newZero] := by
  have hne : g.nodes.next ≠ g.nodes.next + 1 + 1 := by omega
  simp [layOut, newDevices, Graph.node?_push, Graph.fresh, Graph.next_push, hne]

/-- The built-in devices are there, and not linked to anything. -/
theorem unlinked_newDevices {g : Graph} {n : NodeId} (hn : n ∈ newDevices g) :
    (layOut g).has n = true ∧ (layOut g).link? n = none := by
  have hnode : (layOut g).node? n ∈ [some Node.newNull, some Node.newZero] := by
    rw [← (node?_layOut g).2]
    exact List.mem_map_of_mem hn
  rw [Graph.has, Graph.link?]
  rcases List.mem_cons.1 hnode with hnull | hzero
  · rw [hnull]
    exact ⟨rfl, rfl⟩
  · rw [List.mem_singleton.1 hzero]
    exact ⟨rfl, rfl⟩

end DeviceDir

/-! ### What stays made and what stays gone -/

namespace Graph

/-- What was made stays made, and what was made and is gone stays gone. -/
structure Ages (g g' : Graph) : Prop where
  precedes : g.Precedes g'
  has : ∀ n, g.Issued n → g'.has n = true → g.has n = true

namespace Ages

theorem refl (g : Graph) : g.Ages g := ⟨.refl g, fun _ _ h => h⟩

theorem trans {g₁ g₂ g₃ : Graph} (h₁ : g₁.Ages g₂) (h₂ : g₂.Ages g₃) : g₁.Ages g₃ where
  precedes := h₁.precedes.trans h₂.precedes
  has n hn hhas := h₁.has n hn (h₂.has n (h₁.precedes n hn) hhas)

theorem of_continues {g g' : Graph} (h : g.Continues g') : g.Ages g' where
  precedes _ hn := h.issued hn
  has n hn hhas := by
    rw [Graph.has, ← h.same n hn]
    exact hhas

theorem modify (g : Graph) (n : NodeId) (f : Node → Node) : g.Ages (g.modify n f) where
  precedes := g.precedes_modify n f
  has m _ hhas := by
    rw [has_modify] at hhas
    exact hhas

theorem add {g g' : Graph} {dir child : NodeId} (h : g.add dir child = .ok g') : g.Ages g' := by
  obtain ⟨children, _, _, rfl⟩ := add_eq_ok_iff.1 h
  exact (modify g dir _).trans (modify _ child _)

theorem addAll (g : Graph) (dir : NodeId) (nodes : List NodeId) :
    g.Ages (DeviceDir.addAll g dir nodes).2 := by
  induction nodes generalizing g with
  | nil => exact refl g
  | cons child rest ih =>
      rw [DeviceDir.addAll]
      cases hadd : g.add dir child with
      | error e => exact refl g
      | ok g' => exact (add hadd).trans (ih g')

theorem free (g : Graph) (n : NodeId) : g.Ages (g.free n) where
  precedes m hm := by
    show m.index < (g.nodes.free n.index).next
    rw [Store.next_free]
    exact hm
  has m _ hhas := by
    rw [Graph.has, node?_free] at hhas
    split at hhas
    next => cases hhas
    next => exact hhas

theorem foldl_free (g : Graph) (ns : List NodeId) : g.Ages (ns.foldl Graph.free g) := by
  induction ns generalizing g with
  | nil => exact refl g
  | cons n rest ih => exact (free g n).trans (ih _)

theorem reclaim (g : Graph) (outside : List NodeId) : g.Ages (g.reclaim outside) :=
  reclaim_keeps (fun g' h => h.trans (foldl_free g' (g'.unheld outside))) (refl g)

theorem createWith (g : Graph) (devices : List NodeId) :
    g.Ages (DeviceDir.createWith g devices).2 := by
  rw [DeviceDir.createWith_snd, DeviceDir.create_snd]
  exact ((of_continues (DeviceDir.continues_layOut g)).trans (addAll ..)).trans (addAll ..)

theorem apply (g : Graph) (operation : NodeOperation) : g.Ages (operation.apply g).2 := by
  cases operation with
  | make node => exact of_continues ((Continues.refl g).push node)
  | makeDevices devices => exact createWith g devices
  | add dir child =>
      rw [NodeOperation.apply]
      cases hadd : g.add dir child with
      | error e => exact refl g
      | ok g' => exact add hadd
  | remove dir name =>
      rw [NodeOperation.apply]
      cases hremove : g.remove dir name with
      | error e => exact refl g
      | ok found =>
          obtain ⟨children, _, _, hg⟩ := remove_eq_ok_iff.1 hremove
          rw [hg]
          exact modify ..
  | reparent n parent => exact modify ..
  | reclaim holders => exact reclaim g holders
  | look | read | lookup | lineAt | next | resolve => exact refl g

theorem after (g : Graph) (operations : List NodeOperation) : g.Ages (g.after operations) := by
  induction operations generalizing g with
  | nil => exact refl g
  | cons operation rest ih => exact (apply g operation).trans (ih _)

end Ages

end Graph

end VolumeService
