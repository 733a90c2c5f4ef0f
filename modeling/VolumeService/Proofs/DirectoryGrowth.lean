import VolumeService.Proofs.Lists
import VolumeService.Proofs.MovingCursor
import VolumeService.Proofs.NodeHistories
import VolumeService.Proofs.ScriptedDrivers

/-! # How long a listing can get

Whatever happens in a graph, a listing gets longer only by children that are entered.

* **Counting children** (`Graph.Gains`).  Between two moments a number of children were entered
  into a directory, any number of names taken out of it, and anything may have changed elsewhere.
  The listing has at most that many more lines (`Graph.Gains.listingSize_le`).
* **Traversals.**  What a traversal enters can be counted turn by turn (`Traversal.entered`,
  `Traversal.gains_run`).
* **Scripted drivers** enter no more children than their effects still tell them to.  That number
  falls by what is entered with each question, and a mount enters none into a directory that is
  there already, so it bounds what any consultation enters (`World.spends_of_consults`). -/

namespace VolumeService

/-! ### Children that are entered -/

namespace Graph

/-- From `g` to `g'` so many children were entered into `dir`, any number of names was taken out of
it, and nothing else was done to it. -/
inductive Gains (dir : NodeId) (g : Graph) : Nat → Graph → Prop where
  | refl : Gains dir g 0 g
  | elsewhere {entered : Nat} {g₁ g₂ : Graph} (h : Gains dir g entered g₁)
      (hdir : g₂.content? dir = g₁.content? dir) : Gains dir g entered g₂
  | add {entered : Nat} {g₁ g₂ : Graph} {child : NodeId} (h : Gains dir g entered g₁)
      (hadd : g₁.add dir child = .ok g₂) : Gains dir g (entered + 1) g₂
  | remove {entered : Nat} {g₁ g₂ : Graph} {name : String} {child : NodeId}
      (h : Gains dir g entered g₁) (hremove : g₁.remove dir name = .ok (child, g₂)) :
      Gains dir g entered g₂

variable {dir : NodeId} {g g₁ g₂ : Graph} {m n : Nat}

theorem Gains.trans (h₁ : g.Gains dir m g₁) (h₂ : g₁.Gains dir n g₂) : g.Gains dir (m + n) g₂ := by
  induction h₂ with
  | refl => exact h₁
  | elsewhere _ hdir ih => exact ih.elsewhere hdir
  | add _ hadd ih => exact ih.add hadd
  | remove _ hremove ih => exact ih.remove hremove

theorem Gains.of_extends (hdir : g.has dir = true) (h : g.Extends g₁) : g.Gains dir 0 g₁ :=
  .elsewhere .refl (by rw [content?, h dir hdir, content?])

theorem Gains.has (h : g.Gains dir n g₁) (hdir : g.has dir = true) : g₁.has dir = true := by
  have hiff : ∀ g : Graph, g.has dir = (g.content? dir).isSome := fun g => by
    rw [Graph.has, content?, Option.isSome_map]
  induction h with
  | refl => exact hdir
  | elsewhere _ he ih => rw [hiff, he, ← hiff, ih]
  | add _ hadd ih => rw [has_of_add hadd, ih]
  | remove _ hremove ih =>
      obtain ⟨children, _, _, rfl⟩ := remove_eq_ok_iff.1 hremove
      rw [setChildren, has_modify, ih]

/-- Each child that is entered makes the listing one line longer, and nothing else does. -/
theorem Gains.listingSize_le (h : g.Gains dir n g₁) :
    Cursor.listingSize g₁ dir ≤ Cursor.listingSize g dir + n := by
  induction h with
  | refl => exact Nat.le_refl _
  | elsewhere _ he ih =>
      unfold Cursor.listingSize at ih ⊢
      rw [he]
      exact ih
  | @add _ g₁ g₂ child _ hadd ih =>
      obtain ⟨children, hchildren, hfree, _⟩ := add_eq_ok_iff.1 hadd
      have hnow := (directory?_of_add hchildren hadd dir).trans (if_pos rfl)
      rw [Cursor.listingSize_of_directory? hchildren] at ih
      rw [Cursor.listingSize_of_directory? hnow, Directory.size_insert hfree]
      exact Nat.succ_le_succ ih
  | @remove _ g₁ g₂ name child _ hremove ih =>
      obtain ⟨children, hchildren, _⟩ := remove_eq_ok_iff.1 hremove
      have hnow := (directory?_of_remove hchildren hremove dir).trans (if_pos rfl)
      rw [Cursor.listingSize_of_directory? hchildren] at ih
      rw [Cursor.listingSize_of_directory? hnow]
      exact Nat.le_trans (Directory.size_erase_le children name) ih

end Graph

/-! ### Traversals -/

namespace Traversal

/-- Does the turn enter a child that is not refused? -/
def enters (dir : NodeId) (s : Traversal) : Turn → Bool
  | .add child => (s.graph.add dir child).isOk
  | _ => false

/-- How many children are entered in the course of some turns. -/
def entered (dir : NodeId) (s : Traversal) : List Turn → Nat
  | [] => 0
  | turn :: rest => (s.enters dir turn).toNat + (s.step dir turn).entered dir rest

variable {dir : NodeId} {s : Traversal} {turns : List Turn}

theorem entered_append (s : Traversal) (first second : List Turn) :
    s.entered dir (first ++ second) =
      s.entered dir first + (s.run dir first).entered dir second := by
  induction first generalizing s with
  | nil => exact (Nat.zero_add _).symm
  | cons turn rest ih =>
      rw [List.cons_append, entered, ih, entered, Nat.add_assoc]
      rfl

theorem gains_step (hdir : s.graph.has dir = true) (turn : Turn) :
    s.graph.Gains dir (s.enters dir turn).toNat (s.step dir turn).graph := by
  cases turn with
  | next =>
      rw [step]
      split <;> exact .refl
  | make node => exact .of_extends hdir (Graph.extends_push s.graph node)
  | add child =>
      rw [enters, step]
      cases hadd : s.graph.add dir child with
      | error e => exact .refl
      | ok g' => exact .add .refl hadd
  | remove name =>
      rw [step]
      cases hremove : s.graph.remove dir name with
      | error e => exact .refl
      | ok taken => exact .remove .refl hremove

theorem gains_run (hdir : s.graph.has dir = true) (turns : List Turn) :
    s.graph.Gains dir (s.entered dir turns) (s.run dir turns).graph := by
  induction turns generalizing s with
  | nil => exact .refl
  | cons turn rest ih =>
      have hstep := gains_step hdir turn
      exact hstep.trans (ih (hstep.has hdir))

end Traversal

/-! ### Scripted drivers -/

theorem Edit.gains_apply (edit : Edit NodeId) (g : Graph) (dir : NodeId) :
    ∃ entered ≤ edit.isAdd.toNat, g.Gains dir entered (edit.apply g) := by
  cases edit with
  | add dir' child =>
      rw [Edit.apply]
      cases hadd : g.add dir' child with
      | error e => exact ⟨0, Nat.zero_le _, .refl⟩
      | ok g' =>
          by_cases hdir : dir = dir'
          · subst hdir
            exact ⟨1, Nat.le_refl _, .add .refl hadd⟩
          · exact ⟨0, Nat.zero_le _, .elsewhere .refl (Graph.content?_of_add_of_ne hadd hdir)⟩
  | remove dir' name =>
      rw [Edit.apply]
      cases hremove : g.remove dir' name with
      | error e => exact ⟨0, Nat.zero_le _, .refl⟩
      | ok taken =>
          by_cases hdir : dir = dir'
          · subst hdir
            exact ⟨0, Nat.zero_le _, .remove .refl hremove⟩
          · obtain ⟨children, _, _, he⟩ := Graph.remove_eq_ok_iff.1 hremove
            refine ⟨0, Nat.zero_le _, .elsewhere .refl ?_⟩
            show taken.2.content? dir = _
            rw [he, Graph.content?_setChildren, if_neg fun h => hdir h.1.symm]

namespace ScriptedDriver

theorem gains_effects (effects : List (Effect NodeId)) (g : Graph) (dir : NodeId) :
    ∃ entered ≤ effects.countP fun effect => effect.edit.isAdd,
      g.Gains dir entered (effects.foldl (fun g effect => effect.edit.apply g) g) := by
  induction effects generalizing g with
  | nil => exact ⟨0, Nat.le_refl _, .refl⟩
  | cons effect rest ih =>
      obtain ⟨first, hfirst, hgains⟩ := effect.edit.gains_apply g dir
      obtain ⟨later, hlater, hrest⟩ := ih (effect.edit.apply g)
      refine ⟨first + later, ?_, hgains.trans hrest⟩
      rw [List.countP_cons, Nat.add_comm first]
      refine Nat.add_le_add hlater (Nat.le_trans hfirst (Nat.le_of_eq ?_))
      cases effect.edit.isAdd <;> rfl

/-- A question uses up the effects of its probe, and leaves those of later ones. -/
theorem additionsLeft_asked (d : ScriptedDriver) :
    ((d.effects.filter (·.probe = d.probes + 1)).countP fun effect => effect.edit.isAdd) +
      { d with probes := d.probes + 1 }.additionsLeft = d.additionsLeft := by
  have hnow : ∀ effect : Effect NodeId,
      (effect.edit.isAdd && decide (effect.probe = d.probes + 1)) =
        ((decide (d.probes < effect.probe) && effect.edit.isAdd) &&
          decide (effect.probe = d.probes + 1)) := fun effect => by
    by_cases hprobe : effect.probe = d.probes + 1 <;> simp [hprobe]
  have hlater : ∀ effect : Effect NodeId,
      (decide (d.probes + 1 < effect.probe) && effect.edit.isAdd) =
        ((decide (d.probes < effect.probe) && effect.edit.isAdd) &&
          !decide (effect.probe = d.probes + 1)) := fun effect => by
    rw [Bool.and_right_comm]
    refine congrArg (· && effect.edit.isAdd) (Bool.eq_iff_iff.2 ?_)
    simp only [Bool.and_eq_true, Bool.not_eq_true', decide_eq_true_iff, decide_eq_false_iff_not]
    omega
  have hsplit := List.countP_eq_countP_filter_add d.effects
    (fun effect => d.probes < effect.probe && effect.edit.isAdd)
    (fun effect => effect.probe = d.probes + 1)
  rw [List.countP_filter, List.countP_filter] at hsplit
  rw [additionsLeft, additionsLeft, hsplit, List.countP_filter]
  simp only [hnow, hlater]

end ScriptedDriver

/-! ### Consultations of scripted drivers -/

/-- The values of a store that is changed at one identity. -/
theorem Store.slots_modify {α : Type} (s : Store α) (i : Nat) (f : α → α) :
    (List.range (s.modify i f).next).map (s.modify i f).get? =
      ((List.range s.next).map s.get?).set i ((s.get? i).map f) := by
  refine List.ext_getElem? fun j => ?_
  rw [Store.next_modify, List.getElem?_set, List.getElem?_map, List.getElem?_map,
    List.length_map, List.length_range]
  by_cases hj : j < s.next
  · rw [List.getElem?_range hj, Option.map_some, Store.get?_modify]
    split
    next he => subst he; rw [if_pos hj]
    next => rfl
  · rw [List.getElem?_eq_none (by rw [List.length_range]; exact Nat.le_of_not_lt hj)]
    split
    next he => subst he; rw [if_neg hj]; rfl
    next => rfl

namespace World

/-- How many children the drivers may still enter into directories. -/
def additionsLeft (w : World ScriptedDriver) : Nat :=
  ((w.drivers.ids.filterMap w.drivers.get?).map ScriptedDriver.additionsLeft).sum

theorem additionsLeft_eq (w : World ScriptedDriver) :
    w.additionsLeft = (((List.range w.drivers.next).map w.drivers.get?).map fun driver? =>
      (driver?.map ScriptedDriver.additionsLeft).getD 0).sum := by
  rw [additionsLeft, Store.ids]
  induction List.range w.drivers.next with
  | nil => rfl
  | cons i rest ih =>
      rw [List.filter_cons, List.map_cons, List.map_cons, List.sum_cons, ← ih, Store.has]
      cases hdriver : w.drivers.get? i with
      | none => exact (Nat.zero_add _).symm
      | some d =>
          rw [Option.isSome_some, if_pos rfl, List.filterMap_cons_some hdriver]
          rfl

/-- Between the two worlds no more children were entered into `dir` than the drivers have fewer
left. -/
def Spends (dir : NodeId) (w w' : World ScriptedDriver) : Prop :=
  ∃ entered, w.graph.Gains dir entered w'.graph ∧ entered + w'.additionsLeft ≤ w.additionsLeft

variable {dir : NodeId} {w w₁ w₂ : World ScriptedDriver}

theorem Spends.refl : w.Spends dir w := ⟨0, .refl, Nat.le_of_eq (Nat.zero_add _)⟩

theorem Spends.trans (h₁ : w.Spends dir w₁) (h₂ : w₁.Spends dir w₂) : w.Spends dir w₂ := by
  obtain ⟨first, hfirst, hle₁⟩ := h₁
  obtain ⟨later, hlater, hle₂⟩ := h₂
  exact ⟨first + later, hfirst.trans hlater, by omega⟩

theorem Spends.has (h : w.Spends dir w₁) (hdir : w.graph.has dir = true) :
    w₁.graph.has dir = true := by
  obtain ⟨_, hgains, _⟩ := h
  exact hgains.has hdir

/-- A call of one driver costs what that driver has left less than before. -/
theorem Spends.of_call {driver : DriverHandle} {d d' : ScriptedDriver} {entered : Nat}
    (hd : w.drivers.get? driver.cell.index = some d)
    (hdrivers : w₁.drivers = w.drivers.modify driver.cell.index fun _ => d')
    (hgains : w.graph.Gains dir entered w₁.graph)
    (hleft : entered + d'.additionsLeft ≤ d.additionsLeft) : w.Spends dir w₁ := by
  have hat : ((List.range w.drivers.next).map w.drivers.get?)[driver.cell.index]? =
      some (some d) := by
    rw [List.getElem?_map, List.getElem?_range (Store.lt_next_of_get?_eq_some hd), Option.map_some,
      hd]
  have hsum := sum_map_set (fun driver? : Option ScriptedDriver =>
    (driver?.map ScriptedDriver.additionsLeft).getD 0) hat (some d')
  refine ⟨entered, hgains, ?_⟩
  rw [additionsLeft_eq, additionsLeft_eq, hdrivers, Store.slots_modify, hd]
  dsimp only [Option.map_some, Option.getD_some] at hsum ⊢
  omega

/-- A question costs the children that are entered with its probe. -/
theorem spends_identify (w : World ScriptedDriver) (driver : DriverHandle) (device dir : NodeId) :
    w.Spends dir (w.identify driver device).2 := by
  unfold identify
  split
  next => exact .refl
  next d hd =>
    obtain ⟨entered, hentered, hgains⟩ := ScriptedDriver.gains_effects
      (d.effects.filter (·.probe = d.probes + 1)) w.graph dir
    refine .of_call hd rfl hgains ?_
    rw [← d.additionsLeft_asked]
    exact Nat.add_le_add_right hentered _

/-- What a scripted driver builds is made of new nodes, so a mount costs nothing. -/
theorem spends_mountVia (hdir : w.graph.has dir = true) (driver : DriverHandle) (device : NodeId)
    (name : String) : w.Spends dir (w.mountVia driver device name).2 := by
  unfold mountVia
  split
  next => exact .refl
  next d hd =>
    have hbuild := (d.mount.build_continues w.graph d.format device name).extends
    exact .of_call hd rfl (.of_extends hdir hbuild) (Nat.le_of_eq (Nat.zero_add _))

/-- Whatever scripted drivers are asked, they enter no more children than they have fewer left. -/
theorem spends_of_consults {ds : List DriverHandle} (hdir : w.graph.has dir = true)
    (h : w.Consults ds w₁) : w.Spends dir w₁ := by
  induction h with
  | refl => exact .refl
  | identify _ _ device ih => exact ih.trans (spends_identify ..)
  | mount _ _ device name ih => exact ih.trans (spends_mountVia (ih.has hdir) ..)
  | notify _ notice ih => exact ih

end World

end VolumeService
