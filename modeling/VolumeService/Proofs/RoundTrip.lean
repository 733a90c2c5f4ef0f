import VolumeService.Proofs.FailedRequests
import VolumeService.Proofs.ScriptedReferences

/-! # Mounting a volume and removing it again

A mounted volume is seen under its name at the root and nowhere else, and removing it undoes that.

* **Reach** (`MountTable.Reaches`).  The nodes that a walk can come to: the root and the mount
  points of the listed volumes, and what lies below or above them.  A walk depends on no other
  node (`MountTable.resolve_congr`).
* **Mounting** (`MountTable.Mounted`).  A mount or a registration that succeeds appends one volume,
  gives it the next id, and points its mount point at the root; what drivers did before that, they
  did to nodes of their own.  If the mount point is out of reach, so is all of that
  (`Mounted.resolve_congr`).
* **Removing** (`Restored`).  Taking the volume out again, by identity or by a name that no other
  volume has, restores every answer of the table.  The link of the mount point stays, but it leads
  from where nobody comes.  The next id and the made-up name are used up. -/

namespace VolumeService

/-! ### Reach -/

namespace Graph

variable {g g' : Graph} {n : NodeId}

theorem lookup_congr (h : g'.node? n = g.node? n) (name : String) :
    g'.lookup n name = g.lookup n name := by
  unfold lookup content?
  rw [h]

theorem parent?_congr (h : g'.node? n = g.node? n)
    (hparent : ∀ m, g.link? n = some m → g'.has m = g.has m) : g'.parent? n = g.parent? n := by
  have hlink : g'.link? n = g.link? n := by
    rw [link?, h, link?]
  rw [parent?, hlink, parent?]
  cases hm : g.link? n with
  | none => rfl
  | some m => rw [Option.filter_some, hparent m hm, Option.filter_some]

end Graph

namespace MountTable

/-- The nodes that a walk through the namespace and the mounted volumes can come to. -/
inductive Reaches (t : MountTable) (g : Graph) : NodeId → Prop where
  | root : Reaches t g t.root
  | mountPoint {v : VolumeHandle} {n : NodeId} (hv : v ∈ t.volumes)
      (hn : v.volume.mountPoint = some n) : Reaches t g n
  | lookup {n m : NodeId} {name : String} (h : Reaches t g n) (hm : g.lookup n name = .ok m) :
      Reaches t g m
  | parent {n m : NodeId} (h : Reaches t g n) (hm : g.parent? n = some m) : Reaches t g m

theorem Reaches.enter {t : MountTable} {g : Graph} {n m : NodeId} {name : String}
    (h : t.Reaches g n) (hm : t.enter g n name = .ok m) : t.Reaches g m := by
  unfold MountTable.enter at hm
  split at hm
  next =>
    split at hm
    next point hpoint =>
      obtain rfl := Except.ok.inj hm
      obtain ⟨v, hv, hn⟩ := Option.bind_eq_some_iff.1 hpoint
      exact .mountPoint (mem_volumes_of_named? hv) hn
    next => exact h.lookup hm
  next => exact h.lookup hm

/-- Paths lead to the same nodes if the graphs agree within reach and the tables on the names in
the path. -/
theorem resolve_congr {t t' : MountTable} {g g' : Graph} {path : String}
    (hroot : t'.root = t.root)
    (hlookup : ∀ n, t.Reaches g n → ∀ name, g'.lookup n name = g.lookup n name)
    (hparent : ∀ n, t.Reaches g n → g'.parent? n = g.parent? n)
    (hnames : ∀ component ∈ Path.components path,
      t'.mountPoint? component = t.mountPoint? component) :
    t'.resolve g' path = t.resolve g path := by
  unfold resolve
  split
  next =>
    rw [hroot]
    refine Namespace.walk_congr (fun n m hn hm => hn.parent hm) (fun n name m hn hm => hn.enter hm)
      hparent (fun n hn component hmem _ _ => ?_) .root
    rw [enter, enter, hroot, hnames component hmem, hlookup n hn component]
  next => rfl

variable {σ : Type}

/-- In a grounded table a walk comes only to nodes that were made. -/
theorem Grounded.issued_of_reaches {held : Graph → σ → Prop} {t : MountTable} {w : World σ}
    (h : t.Grounded held w) {n : NodeId} (hn : t.Reaches w.graph n) : w.graph.Issued n := by
  induction hn with
  | root => exact h.root
  | mountPoint hv hn => exact h.mountPoints _ hv _ hn
  | lookup _ hm _ => exact h.world.closed.issued_of_lookup hm
  | parent _ hm _ => exact h.world.closed.issued_of_parent? hm

end MountTable

/-! ### Mounting -/

/-- The request mounts or registers a volume when it succeeds. -/
def Request.mounts : Request → Bool
  | .mount _ _ => true
  | .mountUsing _ _ _ => true
  | .register _ => true
  | _ => false

/-- How many made-up names a request that succeeds uses up. -/
def Request.namesMade : Request → Nat
  | .mount _ none => 1
  | .mountUsing _ _ none => 1
  | _ => 0

variable {σ : Type}

namespace World

theorem graph_linkMountPoint_share (w : World σ) (id : Option VolumeId) (volume : Volume)
    (parent : NodeId) :
    ((w.share id).linkMountPoint volume parent).graph = (w.linkMountPoint volume parent).graph := by
  unfold linkMountPoint
  split <;> rfl

/-- Linking a mount point changes no other node. -/
theorem node?_linkMountPoint {w : World σ} {volume : Volume} {n : NodeId}
    (h : volume.mountPoint ≠ some n) (parent : NodeId) :
    (w.linkMountPoint volume parent).graph.node? n = w.graph.node? n := by
  unfold linkMountPoint
  split
  next m hm =>
    have hne : m ≠ n := by
      rintro rfl
      exact h hm
    exact (w.graph.node?_modify m n _).trans (if_neg hne)
  next => rfl

theorem has_linkMountPoint (w : World σ) (volume : Volume) (parent n : NodeId) :
    (w.linkMountPoint volume parent).graph.has n = w.graph.has n := by
  unfold linkMountPoint
  split
  · exact Graph.has_modify ..
  · rfl

end World

namespace MountTable

/-- The table with the next id and a number of made-up names used up. -/
def usedUp (t : MountTable) (names : Nat) : MountTable :=
  { t with nextId := t.nextId.next, nextSuffix := t.nextSuffix + .ofNat names }

variable [DriverModel σ]

/-- One volume came into the table: it is the last of the list and has the id that was next, and
its mount point has been pointed at the root, after some consultation of drivers. -/
structure Mounted (ds : List DriverHandle) (names : Nat) (t : MountTable) (w : World σ)
    (t' : MountTable) (w' : World σ) (v : VolumeHandle) : Prop where
  table : t' = { t.usedUp names with volumes := t.volumes ++ [v] }
  new : w.cells.next ≤ v.cell.index
  ids : ∀ u, w'.idOf u = if v.Same u then some t.nextId else w.idOf u
  graph : ∃ w₁, w.Consults ds w₁ ∧ w'.graph = (w₁.linkMountPoint v.volume t.root).graph

namespace Mounted

variable {ds : List DriverHandle} {names : Nat} {t t' : MountTable} {w w' : World σ}
  {v : VolumeHandle}

theorem of_register (ds : List DriverHandle) (t : MountTable) (w : World σ) (volume : Volume) :
    Mounted ds 0 t w (t.register w volume).2.1 (t.register w volume).2.2 (w.handleFor volume) where
  table := by simp [register, usedUp]
  new := Nat.le_refl _
  ids := t.idOf_register w volume
  graph := ⟨w, .refl, w.graph_linkMountPoint_share _ volume t.root⟩

theorem of_mountOutcome {device : NodeId} {name? : Option String}
    {result : Except ServiceError VolumeHandle × MountTable × World σ}
    (h : MountOutcome ds t w device name? result) (hok : result.1 = .ok v) :
    Mounted ds (if name? = none then 1 else 0) t w result.2.1 result.2.2 v := by
  cases h with
  | refused _ _ => cases hok
  | failed _ _ => cases hok
  | @registered _ t₁ _ w' volume hname hw hbuilt _ =>
      obtain rfl := Except.ok.inj hok
      obtain rfl := table_of_claimName hname
      have hconsults := (hbuilt.probes hw).consults
      refine ⟨rfl, Nat.le_of_eq (congrArg Store.next hconsults.cells).symm, fun u => ?_, w',
        hconsults, w'.graph_linkMountPoint_share _ volume t.root⟩
      rw [idOf_afterMount, hconsults.idOf]

/-- What a mount or a registration brings when it succeeds. -/
theorem of_handle (t : MountTable) (w : World σ) {request : Request}
    (hmounts : request.mounts = true) (hok : (t.handle w request).1 = .volume (.ok v)) :
    Mounted (request.consulted t) request.namesMade t w (t.handle w request).2.1
      (t.handle w request).2.2 v := by
  cases request with
  | mount device name? =>
      have h := of_mountOutcome (t.mount_outcome w device name?) (Reply.volume.inj hok)
      cases name? <;> exact h
  | mountUsing device driver name? =>
      have h := of_mountOutcome
        (t.mountUsing_outcome w device (List.mem_singleton_self driver) name?)
        (Reply.volume.inj hok)
      cases name? <;> exact h
  | register volume =>
      obtain rfl := Except.ok.inj (Reply.volume.inj hok)
      exact of_register [] t w volume
  | _ => cases hmounts

/-- A name leads to the new volume only if it is its name and no other volume has it. -/
theorem named?_eq (h : Mounted ds names t w t' w' v) (name : String) :
    t'.named? name = (t.named? name).or (if v.name = name then some v else none) := by
  rw [h.table]
  unfold named?
  rw [List.find?_append]
  by_cases hname : v.name = name <;> simp [hname]

/-- If the mount point of the new volume was out of reach, paths lead where they led before, as far
as the table has the same names. -/
theorem resolve_congr {held : Graph → σ → Prop} {own : CellId → σ → Prop}
    (h : Mounted ds names t w t' w' v) (hgrounded : t.Grounded held w)
    (hown : DriverModel.Keeps Graph.Continues own) (hquiet : w.Houses ds own)
    (hfresh : ∀ n, v.volume.mountPoint = some n → ¬ t.Reaches w.graph n) {t'' : MountTable}
    (hroot : t''.root = t.root) {path : String}
    (hnames : ∀ component ∈ Path.components path,
      t''.mountPoint? component = t.mountPoint? component) :
    t''.resolve w'.graph path = t.resolve w.graph path := by
  obtain ⟨w₁, hconsults, hgraph⟩ := h.graph
  obtain ⟨_, hcontinues⟩ :=
    hconsults.keeps Graph.Continues.refl Graph.Continues.trans hown hquiet
  -- what is within reach was made before, so drivers left it alone, and it is not linked anew
  have hnode : ∀ n, t.Reaches w.graph n → w'.graph.node? n = w.graph.node? n := by
    intro n hn
    have hne : v.volume.mountPoint ≠ some n := fun hpoint => hfresh n hpoint hn
    rw [hgraph, World.node?_linkMountPoint hne]
    exact hcontinues.same n (hgrounded.issued_of_reaches hn)
  have hhas : ∀ n, w.graph.Issued n → w'.graph.has n = w.graph.has n := by
    intro n hn
    rw [hgraph, World.has_linkMountPoint, Graph.has, hcontinues.same n hn, Graph.has]
  refine MountTable.resolve_congr hroot (fun n hn => Graph.lookup_congr (hnode n hn))
    (fun n hn => Graph.parent?_congr (hnode n hn) fun m hm => hhas m ?_) hnames
  exact hgrounded.world.closed.issued_of_link? hm

/-- A test that the new volume passes and no other picks it for removal, and the list is as it was
before. -/
theorem removeFirst?_eq (h : Mounted ds names t w t' w' v) {p : VolumeHandle → Bool}
    (hp : p v = true) (hothers : ∀ u ∈ t.volumes, p u = false) :
    t'.removeFirst? w' p = some (v, t.usedUp names, w'.clearId v) := by
  have hnot : ∀ u ∈ t.volumes, ¬ p u = true := fun u hu => by
    rw [hothers u hu]
    exact Bool.false_ne_true
  have hfind : (t.volumes ++ [v]).find? p = some v := by
    rw [List.find?_append, List.find?_eq_none.2 hnot]
    simp [hp]
  have herase : (t.volumes ++ [v]).eraseP p = t.volumes := by
    rw [List.eraseP_append_right _ hnot, List.eraseP_cons_of_pos hp, List.append_nil]
  rw [h.table, removeFirst?, hfind, herase]
  rfl

end Mounted

/-! ### Removing -/

/-- Table and world answer as they did before; the next id and a number of made-up names have been
used up. -/
structure Restored (names : Nat) (t : MountTable) (w : World σ) (t' : MountTable)
    (w' : World σ) : Prop where
  table : t' = t.usedUp names
  ids : ∀ u, w'.idOf u = w.idOf u
  volumes : (t'.snapshot w').1 = (t.snapshot w).1
  find : ∀ name, (t'.find w' name).1 = (t.find w name).1
  findId : ∀ id, (t'.findId w' id).1 = (t.findId w id).1
  system : (t'.systemVolume w').1 = (t.systemVolume w).1
  resolve : ∀ path, t'.resolve w'.graph path = t.resolve w.graph path

namespace Mounted

variable {ds : List DriverHandle} {names : Nat} {t t' : MountTable} {w w' : World σ}
  {v : VolumeHandle}

/-- With the id of the new volume gone, everything is as it was before. -/
theorem restored (h : Mounted ds names t w t' w' v)
    (hresolve : ∀ path, (t.usedUp names).resolve w'.graph path = t.resolve w.graph path)
    {w'' : World σ} (hgraph : w''.graph = w'.graph)
    (hids : ∀ u, w''.idOf u = (w'.clearId v).idOf u) :
    Restored names t w (t.usedUp names) w'' := by
  have hsame : ∀ u, w''.idOf u = w.idOf u := by
    intro u
    rw [hids, World.idOf_clearId]
    split
    next hu => exact (World.idOf_of_next_le (hu ▸ h.new)).symm
    next hne => rw [h.ids, if_neg hne]
  refine ⟨rfl, hsame, rfl, fun _ => rfl, fun id => ?_, rfl, fun path => ?_⟩
  · show t.volumes.find? _ = t.volumes.find? _
    congr 1
    funext u
    rw [hsame]
  · rw [hgraph]
    exact hresolve path

theorem restored_of_unregister (h : Mounted ds names t w t' w' v)
    (hresolve : ∀ path, (t.usedUp names).resolve w'.graph path = t.resolve w.graph path)
    (hknown : ∀ u ∈ t.volumes, u.cell.index < w.cells.next) :
    (t'.handle w' (.unregister v)).1 = .volume (.ok v) ∧
      Restored names t w (t'.handle w' (.unregister v)).2.1
        (t'.handle w' (.unregister v)).2.2 := by
  -- the other volumes were shared before, so none of them is this one
  have hothers : ∀ u ∈ t.volumes, decide (u.Same v) = false := fun u hu =>
    decide_eq_false fun hsame => VolumeHandle.not_same_of_lt h.new (hknown u hu) hsame.symm
  have hpick := h.removeFirst?_eq (decide_eq_true rfl) hothers
  have hanswer : t'.handle w' (.unregister v) =
      (.volume (.ok v), t.usedUp names, w'.clearId v) := by
    rw [MountTable.handle, unregister, hpick]
  rw [hanswer]
  exact ⟨rfl, h.restored hresolve rfl fun _ => rfl⟩

theorem restored_of_unmount (h : Mounted ds names t w t' w' v)
    (hresolve : ∀ path, (t.usedUp names).resolve w'.graph path = t.resolve w.graph path)
    (hname : ∀ u ∈ t.volumes, u.name ≠ v.name) :
    (t'.handle w' (.unmount v.name)).1 = .volume (.ok v) ∧
      Restored names t w (t'.handle w' (.unmount v.name)).2.1
        (t'.handle w' (.unmount v.name)).2.2 := by
  have hothers : ∀ u ∈ t.volumes, decide (u.name = v.name) = false := fun u hu =>
    decide_eq_false (hname u hu)
  have hpick := h.removeFirst?_eq (decide_eq_true rfl) hothers
  obtain ⟨w'', hunmount, hgraph, hcells, _⟩ := unmount_of_removeFirst? hpick
  have hanswer : t'.handle w' (.unmount v.name) = (.volume (.ok v), t.usedUp names, w'') := by
    rw [MountTable.handle, hunmount]
  rw [hanswer]
  refine ⟨rfl, h.restored hresolve hgraph fun u => ?_⟩
  rw [World.idOf, World.cell?, hcells, World.idOf, World.cell?]

end Mounted

/-- A mount or a registration whose mount point is new is seen under the name of the volume alone,
and taking the volume out again, by identity or by a name that no other volume has, restores all
answers of the table. -/
theorem mount_and_removal {held : Graph → σ → Prop} (hheld : DriverModel.Referring held)
    {own : CellId → σ → Prop} (hown : DriverModel.Keeps Graph.Continues own) {t : MountTable}
    {w : World σ} (ht : t.Attained held w) {request : Request} (hmounts : request.mounts = true)
    (hquiet : w.Houses (request.consulted t) own) {v : VolumeHandle}
    (hok : (t.handle w request).1 = .volume (.ok v))
    (hfresh : ∀ n, v.volume.mountPoint = some n → ¬ t.Reaches w.graph n) :
    let t' := (t.handle w request).2.1
    let w' := (t.handle w request).2.2
    let unregistered := t'.handle w' (.unregister v)
    let unmounted := t'.handle w' (.unmount v.name)
    (∀ path, v.name ∉ Path.components path →
      t'.resolve w'.graph path = t.resolve w.graph path) ∧
    (∀ name, name ≠ v.name ∨ (t.find w name).1.isSome → (t'.find w' name).1 = (t.find w name).1) ∧
    (unregistered.1 = .volume (.ok v) ∧
      Restored request.namesMade t w unregistered.2.1 unregistered.2.2) ∧
    ((t.find w v.name).1 = none → unmounted.1 = .volume (.ok v) ∧
      Restored request.namesMade t w unmounted.2.1 unmounted.2.2) := by
  intro t' w' unregistered unmounted
  have hmounted := Mounted.of_handle t w hmounts hok
  have hgrounded := ht.grounded hheld
  have hresolve : ∀ path,
      (t.usedUp request.namesMade).resolve w'.graph path = t.resolve w.graph path := fun path =>
    hmounted.resolve_congr hgrounded hown hquiet hfresh rfl fun _ _ => rfl
  refine ⟨fun path hpath => ?_, fun name hname => ?_,
    hmounted.restored_of_unregister hresolve ht.known, fun hnone =>
    hmounted.restored_of_unmount hresolve (named?_eq_none_iff.1 hnone)⟩
  · have hroot : t'.root = t.root := (congrArg MountTable.root hmounted.table).trans rfl
    refine hmounted.resolve_congr hgrounded hown hquiet hfresh hroot fun component hmem => ?_
    have hne : v.name ≠ component := fun he => hpath (he ▸ hmem)
    rw [mountPoint?, hmounted.named?_eq, if_neg hne, Option.or_none, mountPoint?]
  · show t'.named? name = t.named? name
    rw [hmounted.named?_eq]
    rcases hname with hne | hsome
    · rw [if_neg (Ne.symm hne), Option.or_none]
    · exact Option.or_of_isSome hsome

end MountTable

/-! ### A volume that comes and goes -/

namespace RoundTripExample

/-- A root, a device, and a driver that mounts everything on a new directory. -/
def world : World ScriptedDriver where
  graph := (Graph.empty.push (.newDirectory "/")).push (.newImage "disk" [])
  drivers := Store.empty.push { format := "fat", identify := .always, mount := .directory }

def drivers : Registry := ⟨[⟨"fat", ⟨0⟩⟩]⟩

/-- The volume that the first mount without a name brings. -/
def volume : VolumeHandle := ⟨⟨"fat", "volume0", some ⟨2⟩⟩, ⟨0⟩⟩

theorem attained : (MountTable.create ⟨0⟩ drivers).Attained
    (fun g (d : ScriptedDriver) => d.Holds g) world := by
  refine .create ⟨?_, fun i state hstate => ?_⟩ (Nat.zero_lt_succ 1)
  · exact (Graph.closed_empty.pushNewDirectory "/").push fun _ hm => (List.not_mem_nil hm).elim
  · rw [world, Store.get?_push] at hstate
    split at hstate
    · obtain rfl := Option.some.inj hstate
      exact fun _ hn => (List.not_mem_nil hn).elim
    · cases (Store.get?_empty i).symm.trans hstate

theorem housed : world.Houses drivers.drivers fun _ d => d.Quiet := by
  intro driver hdriver state hstate
  obtain rfl := List.mem_singleton.1 hdriver
  obtain rfl := Option.some.inj hstate
  rfl

/-- The device is mounted without a name; then the volume is unregistered, and all that is left of
it is that its id and its name are used up. -/
theorem volume_comes_and_goes :
    let t := MountTable.create ⟨0⟩ drivers
    let mounted := t.handle world (.mount ⟨1⟩ none)
    let unregistered := mounted.2.1.handle mounted.2.2 (.unregister volume)
    mounted.1 = .volume (.ok volume) ∧ unregistered.1 = .volume (.ok volume) ∧
      MountTable.Restored 1 t world unregistered.2.1 unregistered.2.2 := by
  have hfresh : ∀ n, volume.volume.mountPoint = some n →
      ¬ (MountTable.create ⟨0⟩ drivers).Reaches world.graph n := by
    intro n hn hreached
    obtain rfl := Option.some.inj hn
    have hgrounded := attained.grounded ScriptedDriver.referring_holds
    exact Nat.lt_irrefl 2 (hgrounded.issued_of_reaches hreached)
  have hmounts : Request.mounts (.mount ⟨1⟩ none) = true := rfl
  have hok : ((MountTable.create ⟨0⟩ drivers).handle world (.mount ⟨1⟩ none)).1 =
      .volume (.ok volume) := rfl
  obtain ⟨_, _, hunregistered, _⟩ := MountTable.mount_and_removal ScriptedDriver.referring_holds
    ScriptedDriver.keeps_quiet attained hmounts housed hok hfresh
  exact ⟨hok, hunregistered⟩

end RoundTripExample

end VolumeService
