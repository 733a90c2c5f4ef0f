import VolumeService.Graph

/-! # How long nodes live

A node is in being as long as somebody holds it: a holder outside the graph, or a node that is
in being itself.  Parent links do not hold.

* **Held.** `heldNodes` lists what is held, given what is held from outside.
* **Reclaiming.** `sweep` takes out the nodes that nobody holds; that may leave others without
  a holder, so `reclaim` sweeps until every node left is held.  Nodes that hold each other in
  a ring stay.
* **Bound.** Each sweep but the last takes out a node, so as many sweeps as there are nodes
  are enough (`unheld_reclaim`). -/

namespace VolumeService

namespace Graph

/-- The nodes that a node keeps in being. -/
def holds (g : Graph) (n : NodeId) : List NodeId := ((g.content? n).map Content.holds).getD []

/-- The nodes held from outside or by a node of the graph. -/
def heldNodes (g : Graph) (outside : List NodeId) : List NodeId :=
  outside ++ g.ids.flatMap g.holds

/-- The nodes of the graph that nobody holds. -/
def unheld (g : Graph) (outside : List NodeId) : List NodeId :=
  let held := g.heldNodes outside
  g.ids.filter fun n => !held.contains n

/-- Takes out the nodes that nobody holds. -/
def sweep (g : Graph) (outside : List NodeId) : Graph := (g.unheld outside).foldl free g

/-- Sweeps up to a number of times, and stops when all nodes are held. -/
def sweepUpTo (outside : List NodeId) : Nat → Graph → Graph
  | 0, g => g
  | times + 1, g =>
    if (g.unheld outside).isEmpty then g else sweepUpTo outside times (g.sweep outside)

/-- Takes out all nodes that are no longer in being. -/
def reclaim (g : Graph) (outside : List NodeId) : Graph := sweepUpTo outside g.ids.length g

/-! ### What a sweep leaves -/

theorem ids_foldl_free (ns : List NodeId) (g : Graph) :
    (ns.foldl free g).ids = g.ids.filter fun n => !ns.contains n := by
  induction ns generalizing g with
  | nil => exact (List.filter_eq_self.2 fun _ _ => rfl).symm
  | cons n rest ih =>
    rw [List.foldl_cons, ih, ids_free, List.filter_filter]
    refine List.filter_congr fun m _ => ?_
    rw [List.contains_cons]
    by_cases h : m = n <;> simp [h]

theorem ids_sweep (g : Graph) (outside : List NodeId) :
    (g.sweep outside).ids = g.ids.filter fun n => !(g.unheld outside).contains n :=
  ids_foldl_free _ g

theorem has_sweep_of_mem (g : Graph) {outside : List NodeId} {n : NodeId} (h : n ∈ outside) :
    (g.sweep outside).has n = g.has n := by
  have hn : n ∉ g.unheld outside := fun hu => by
    have := (List.mem_filter.1 hu).2
    simp [heldNodes, h] at this
  rw [Bool.eq_iff_iff, ← mem_ids, ← mem_ids, ids_sweep, List.mem_filter]
  simp [hn]

theorem length_ids_sweep_lt {g : Graph} {outside : List NodeId} (h : g.unheld outside ≠ []) :
    (g.sweep outside).ids.length < g.ids.length := by
  obtain ⟨n, hn⟩ := List.exists_mem_of_ne_nil _ h
  rw [ids_sweep]
  refine List.length_filter_lt_length_iff_exists.2 ⟨n, (List.mem_filter.1 hn).1, ?_⟩
  simp [hn]

theorem unheld_sweepUpTo {outside : List NodeId} {times : Nat} {g : Graph}
    (h : g.ids.length ≤ times) : (sweepUpTo outside times g).unheld outside = [] := by
  induction times generalizing g with
  | zero =>
    rw [sweepUpTo, unheld, List.eq_nil_of_length_eq_zero (Nat.le_zero.1 h)]
    rfl
  | succ times ih =>
    unfold sweepUpTo
    split
    next he => exact List.isEmpty_iff.1 he
    next hne =>
      have := length_ids_sweep_lt fun hnil => hne (List.isEmpty_iff.2 hnil)
      exact ih (by omega)

theorem has_sweepUpTo_of_mem {outside : List NodeId} {n : NodeId} (h : n ∈ outside)
    (times : Nat) (g : Graph) : (sweepUpTo outside times g).has n = g.has n := by
  induction times generalizing g with
  | zero => rfl
  | succ times ih =>
    unfold sweepUpTo
    split
    · rfl
    · rw [ih, has_sweep_of_mem g h]

/-- After reclaiming, every node of the graph is held. -/
theorem unheld_reclaim (g : Graph) (outside : List NodeId) :
    (g.reclaim outside).unheld outside = [] := unheld_sweepUpTo (Nat.le_refl _)

/-- What is held from outside is not reclaimed. -/
theorem has_reclaim_of_mem (g : Graph) {outside : List NodeId} {n : NodeId}
    (h : n ∈ outside) : (g.reclaim outside).has n = g.has n :=
  has_sweepUpTo_of_mem h _ g

end Graph

end VolumeService
