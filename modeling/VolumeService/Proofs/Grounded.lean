import VolumeService.Proofs.Chronicle

/-! # Nodes that are mentioned have been made

Nodes are spoken of by identity, so a node could name one that has yet to be made.  In a history
that goes about its business none does.

* **Closed graphs** (`Graph.Closed`).  Whatever a node names, as a child or as its parent, was made
  at some time; it may be gone by now.  So looking and going up lead to nodes that were made.
* **Referring drivers** (`DriverModel.Referring held`).  A driver may hold on to nodes that were
  made, which is what `held` says of its state.  A call about such a device leaves a closed graph
  that forgets no node, and a volume that it builds starts at a node of that graph.
* **Grounded tables** (`MountTable.Grounded`).  The graph is closed, all drivers hold on to nodes
  that were made, and so were the root and the mount points of the listed volumes.  Every request
  about such nodes keeps a table grounded (`Grounded.handle`).
* **Attained tables** (`MountTable.Attained`).  A table is made over a grounded world and answers
  requests; in between anything may happen elsewhere, at other tables for instance, that does not
  speak of nodes which were not made.  All these states are grounded (`Attained.grounded`). -/

namespace VolumeService

/-- The nodes that a node names. -/
def Node.mentions (node : Node) : List NodeId := node.content.holds ++ node.parent.toList

/-! ### Closed graphs -/

namespace Graph

/-- Every node that was ever made in `g` was made in `g'`. -/
def Precedes (g g' : Graph) : Prop := ∀ n, g.Issued n → g'.Issued n

theorem Precedes.refl (g : Graph) : g.Precedes g := fun _ h => h

theorem Precedes.trans {g₁ g₂ g₃ : Graph} (h₁ : g₁.Precedes g₂) (h₂ : g₂.Precedes g₃) :
    g₁.Precedes g₃ := fun n h => h₂ n (h₁ n h)

theorem precedes_push (g : Graph) (node : Node) : g.Precedes (g.push node) :=
  fun _ h => ((Continues.refl g).push node).issued h

theorem issued_fresh_push (g : Graph) (node : Node) : (g.push node).Issued g.fresh := by
  show g.nodes.next < (g.nodes.push node).next
  rw [Store.next_push]
  exact Nat.lt_succ_self _

theorem issued_modify (g : Graph) (n m : NodeId) (f : Node → Node) :
    (g.modify n f).Issued m ↔ g.Issued m := by
  show m.index < (g.nodes.modify n.index f).next ↔ m.index < g.nodes.next
  rw [Store.next_modify]

theorem precedes_modify (g : Graph) (n : NodeId) (f : Node → Node) : g.Precedes (g.modify n f) :=
  fun m h => (g.issued_modify n m f).2 h

/-- Every node that a node of the graph names was made at some time. -/
def Closed (g : Graph) : Prop :=
  ∀ n node, g.node? n = some node → ∀ m ∈ node.mentions, g.Issued m

namespace Closed

variable {g : Graph}

theorem push (h : g.Closed) {node : Node} (hnode : ∀ m ∈ node.mentions, (g.push node).Issued m) :
    (g.push node).Closed := by
  intro n node' hn m hm
  rw [node?_push] at hn
  split at hn
  · obtain rfl := Option.some.inj hn
    exact hnode m hm
  · exact g.precedes_push node m (h n node' hn m hm)

theorem modify (h : g.Closed) {n : NodeId} {f : Node → Node}
    (hf : ∀ node, g.node? n = some node → ∀ m ∈ (f node).mentions, g.Issued m) :
    (g.modify n f).Closed := by
  intro k node' hk m hm
  rw [issued_modify]
  rw [node?_modify] at hk
  split at hk
  next he =>
    subst he
    obtain ⟨node, hnode, rfl⟩ := Option.map_eq_some_iff.1 hk
    exact hf node hnode m hm
  next => exact h k node' hk m hm

theorem reparent (h : g.Closed) (n : NodeId) {parent : NodeId} (hparent : g.Issued parent) :
    (g.reparent n parent).Closed := by
  refine h.modify fun node hnode m hm => ?_
  rcases List.mem_append.1 hm with hheld | hlink
  · exact h n node hnode m (List.mem_append_left _ hheld)
  · rw [List.mem_singleton.1 hlink]
    exact hparent

theorem setChildren (h : g.Closed) (n : NodeId) {children : Directory NodeId}
    (hchildren : ∀ entry ∈ children.entries, g.Issued entry.2) :
    (g.setChildren n children).Closed := by
  refine h.modify fun node hnode m hm => ?_
  rcases List.mem_append.1 hm with hheld | hlink
  · obtain ⟨entry, hentry, rfl⟩ := List.mem_map.1 hheld
    exact hchildren entry hentry
  · exact h n node hnode m (List.mem_append_right _ hlink)

/-- The children of a directory were made at some time. -/
theorem issued_of_directory? (h : g.Closed) {n : NodeId} {children : Directory NodeId}
    (hn : g.directory? n = some children) :
    ∀ entry ∈ children.entries, g.Issued entry.2 := by
  intro entry hentry
  unfold directory? content? at hn
  split at hn
  next held he =>
    obtain rfl := Option.some.inj hn
    obtain ⟨node, hnode, hcontent⟩ := Option.map_eq_some_iff.1 he
    refine h n node hnode _ (List.mem_append_left _ ?_)
    rw [hcontent]
    exact List.mem_map_of_mem hentry
  next => cases hn

/-- Looking leads to nodes that were made. -/
theorem issued_of_lookup (h : g.Closed) {n m : NodeId} {name : String}
    (hm : g.lookup n name = .ok m) : g.Issued m := by
  unfold lookup content? at hm
  split at hm
  next children he =>
    split at hm
    next child hfind =>
      obtain rfl := Except.ok.inj hm
      have hdir : g.directory? n = some children := by
        rw [directory?, content?, he]
      exact h.issued_of_directory? hdir _ (Directory.mem_entries_iff.2 hfind)
    next => cases hm
  next listing links he =>
    -- a fixed directory answers with its first link of the name, which its content holds
    obtain ⟨node, hnode, hcontent⟩ := Option.map_eq_some_iff.1 he
    refine h n node hnode m (List.mem_append_left _ ?_)
    rw [hcontent]
    cases hlink : links.lookup name with
    | none =>
        rw [hlink] at hm
        cases hm
    | some answer =>
        rw [hlink] at hm
        obtain rfl : answer = .ok m := hm
        obtain ⟨before, after, rfl, _⟩ := List.lookup_eq_some_iff.1 hlink
        exact List.mem_filterMap.2 ⟨(name, .ok m), List.mem_append_cons_self, rfl⟩
  next => cases hm
  next => cases hm

theorem issued_of_link? (h : g.Closed) {n m : NodeId} (hm : g.link? n = some m) :
    g.Issued m := by
  obtain ⟨node, hnode, hparent⟩ := Option.bind_eq_some_iff.1 hm
  refine h n node hnode m (List.mem_append_right _ ?_)
  rw [hparent]
  exact List.mem_singleton_self m

/-- Going up leads to nodes that were made. -/
theorem issued_of_parent? (h : g.Closed) {n m : NodeId} (hm : g.parent? n = some m) :
    g.Issued m := h.issued_of_link? (Option.filter_eq_some_iff.1 hm).1

end Closed

end Graph

/-! ### Drivers that hold on to nodes -/

variable {σ : Type}

/-- After a call of a driver: the graph is closed and forgets no node, and the driver holds on to
nodes of it. -/
structure DriverModel.Leaves (held : Graph → σ → Prop) (g g' : Graph) (state : σ) : Prop where
  precedes : g.Precedes g'
  closed : g'.Closed
  held : held g' state

/-- Drivers that hold on to nodes that were made, and build volumes on such nodes. -/
structure DriverModel.Referring [DriverModel σ] (held : Graph → σ → Prop) : Prop where
  mono : ∀ {g g' : Graph} {state : σ}, g.Precedes g' → held g state → held g' state
  identify : ∀ {g : Graph} {state : σ} {device : NodeId}, g.Closed → held g state →
    g.Issued device →
      Leaves held g (DriverModel.identify state g device).2.2
        (DriverModel.identify state g device).2.1
  mount : ∀ {g : Graph} {state : σ} {device : NodeId} (name : String), g.Closed → held g state →
    g.Issued device →
      Leaves held g (DriverModel.mount state g device name).2.2
        (DriverModel.mount state g device name).2.1 ∧
      ∀ volume n, (DriverModel.mount state g device name).1 = .ok volume →
        volume.mountPoint = some n → (DriverModel.mount state g device name).2.2.Issued n

/-- The graph is closed, and all drivers hold on to nodes that were made. -/
structure World.Grounded (held : Graph → σ → Prop) (w : World σ) : Prop where
  closed : w.graph.Closed
  drivers : ∀ i state, w.drivers.get? i = some state → held w.graph state

namespace World

variable {held : Graph → σ → Prop} {w w' : World σ}

theorem Grounded.of_eq (h : w.Grounded held) (hgraph : w'.graph = w.graph)
    (hdrivers : w'.drivers = w.drivers) : w'.Grounded held := by
  obtain ⟨hclosed, hheld⟩ := h
  rw [← hgraph] at hclosed hheld
  rw [← hdrivers] at hheld
  exact ⟨hclosed, hheld⟩

variable [DriverModel σ]

/-- A call of one driver keeps the hold of the others. -/
theorem Grounded.moved (hheld : DriverModel.Referring held) (h : w.Grounded held) {i : Nat}
    {state : σ} (hleft : DriverModel.Leaves held w.graph w'.graph state)
    (hdrivers : w'.drivers = w.drivers.modify i fun _ => state) : w'.Grounded held where
  closed := hleft.closed
  drivers := by
    intro j other hother
    rw [hdrivers, Store.get?_modify] at hother
    split at hother
    · obtain ⟨_, _, rfl⟩ := Option.map_eq_some_iff.1 hother
      exact hleft.held
    · exact hheld.mono hleft.precedes (h.drivers j other hother)

theorem Grounded.identify (hheld : DriverModel.Referring held) (h : w.Grounded held)
    (driver : DriverHandle) {device : NodeId} (hdevice : w.graph.Issued device) :
    (w.identify driver device).2.Grounded held ∧
      w.graph.Precedes (w.identify driver device).2.graph := by
  unfold World.identify
  split
  next => exact ⟨h, .refl _⟩
  next state hstate =>
    have hleft := hheld.identify h.closed (h.drivers _ state hstate) hdevice
    exact ⟨h.moved hheld hleft rfl, hleft.precedes⟩

theorem Grounded.mountVia (hheld : DriverModel.Referring held) (h : w.Grounded held)
    (driver : DriverHandle) {device : NodeId} (hdevice : w.graph.Issued device) (name : String) :
    (w.mountVia driver device name).2.Grounded held ∧
      w.graph.Precedes (w.mountVia driver device name).2.graph ∧
      ∀ volume n, (w.mountVia driver device name).1 = .ok volume → volume.mountPoint = some n →
        (w.mountVia driver device name).2.graph.Issued n := by
  unfold World.mountVia
  split
  next =>
    refine ⟨h, .refl _, fun volume n hanswer => ?_⟩
    cases hanswer
  next state hstate =>
    obtain ⟨hleft, hpoint⟩ := hheld.mount name h.closed (h.drivers _ state hstate) hdevice
    exact ⟨h.moved hheld hleft rfl, hleft.precedes, hpoint⟩

/-- Probing a device that was made keeps a world grounded. -/
theorem Probes.grounded (hheld : DriverModel.Referring held) {ds : List DriverHandle}
    {device : NodeId} (h : w.Probes ds device w') (hw : w.Grounded held)
    (hdevice : w.graph.Issued device) : w'.Grounded held ∧ w.graph.Precedes w'.graph := by
  -- no call forgets a node, so each call finds the device among those that were made
  induction h with
  | refl => exact ⟨hw, .refl _⟩
  | @identify w₁ driver _ _ ih =>
      obtain ⟨hw₁, hprecedes⟩ := ih
      obtain ⟨hw₂, hcall⟩ := hw₁.identify hheld driver (hprecedes device hdevice)
      exact ⟨hw₂, hprecedes.trans hcall⟩
  | @mount w₁ driver _ _ name ih =>
      obtain ⟨hw₁, hprecedes⟩ := ih
      obtain ⟨hw₂, hcall, _⟩ := hw₁.mountVia hheld driver (hprecedes device hdevice) name
      exact ⟨hw₂, hprecedes.trans hcall⟩
  | notify _ notice ih => exact ⟨ih.1.of_eq rfl rfl, ih.2⟩

theorem Surveys.grounded (hheld : DriverModel.Referring held) {ds : List DriverHandle}
    (h : w.Surveys ds w') (hw : w.Grounded held) :
    w'.Grounded held ∧ w.graph.Precedes w'.graph := by
  induction h with
  | refl => exact ⟨hw, .refl _⟩
  | probe _ hdevice hprobes ih =>
      obtain ⟨hw₁, hprecedes⟩ := ih
      obtain ⟨hw₂, hprobed⟩ := hprobes.grounded hheld hw₁ (.of_has hdevice)
      exact ⟨hw₂, hprecedes.trans hprobed⟩
  | notify _ notice ih => exact ⟨ih.1.of_eq rfl rfl, ih.2⟩

/-- A volume built from a device that was made starts at a node that was made. -/
theorem Builds.grounded (hheld : DriverModel.Referring held) {ds : List DriverHandle}
    {device : NodeId} {name : String} {volume : Volume} (h : w.Builds ds device name volume w')
    (hw : w.Grounded held) (hdevice : w.graph.Issued device) :
    w'.Grounded held ∧ w.graph.Precedes w'.graph ∧
      ∀ n, volume.mountPoint = some n → w'.graph.Issued n := by
  obtain ⟨driver, _, hcall⟩ := h
  have hmount := hw.mountVia hheld driver hdevice name
  rw [hcall] at hmount
  obtain ⟨hw', hprecedes, hpoint⟩ := hmount
  exact ⟨hw', hprecedes, fun n => hpoint volume n rfl⟩

theorem Grounded.linkMountPoint (hheld : DriverModel.Referring held) (h : w.Grounded held)
    (volume : Volume) {parent : NodeId} (hparent : w.graph.Issued parent) :
    (w.linkMountPoint volume parent).Grounded held ∧
      w.graph.Precedes (w.linkMountPoint volume parent).graph := by
  unfold World.linkMountPoint
  split
  next n _ =>
    have hprecedes : w.graph.Precedes (w.graph.reparent n parent) := w.graph.precedes_modify n _
    exact ⟨⟨h.closed.reparent n hparent, fun i state hstate =>
      hheld.mono hprecedes (h.drivers i state hstate)⟩, hprecedes⟩
  next => exact ⟨h, .refl _⟩

end World

/-! ### Tables -/

/-- The world is grounded, and the root and all mount points were made. -/
structure MountTable.Grounded (held : Graph → σ → Prop) (t : MountTable) (w : World σ) : Prop where
  world : w.Grounded held
  root : w.graph.Issued t.root
  mountPoints : ∀ v ∈ t.volumes, ∀ n, v.volume.mountPoint = some n → w.graph.Issued n

/-- The nodes that a request speaks of. -/
def Request.mentions : Request → List NodeId
  | .mount device _ => [device]
  | .mountUsing device _ _ => [device]
  | .register volume => volume.mountPoint.toList
  | .identify device => [device]
  | _ => []

namespace MountTable.Grounded

variable {held : Graph → σ → Prop} {t t' : MountTable} {w w' : World σ}

/-- A table that keeps its root and gets no volume stays grounded while its world does. -/
theorem mono (h : t.Grounded held w) (hw : w'.Grounded held)
    (hprecedes : w.graph.Precedes w'.graph) (hroot : t'.root = t.root)
    (hvolumes : ∀ v ∈ t'.volumes, v ∈ t.volumes) : t'.Grounded held w' where
  world := hw
  root := by
    rw [hroot]
    exact hprecedes t.root h.root
  mountPoints v hv n hn := hprecedes n (h.mountPoints v (hvolumes v hv) n hn)

/-- What touches neither nodes nor drivers keeps a table grounded. -/
theorem of_eq (h : t.Grounded held w) (hgraph : w'.graph = w.graph)
    (hdrivers : w'.drivers = w.drivers) (hroot : t'.root = t.root)
    (hvolumes : ∀ v ∈ t'.volumes, v ∈ t.volumes) : t'.Grounded held w' := by
  refine h.mono (h.world.of_eq hgraph hdrivers) ?_ hroot hvolumes
  rw [hgraph]
  exact .refl _

theorem of_claimName (h : t.Grounded held w) {name? : Option String} {name : String}
    (hname : t.claimName name? = some (name, t')) : t'.Grounded held w := by
  obtain rfl := table_of_claimName hname
  exact ⟨h.world, h.root, h.mountPoints⟩

theorem removeFirst? (h : t.Grounded held w) {p : VolumeHandle → Bool} {v : VolumeHandle}
    (hremoved : t.removeFirst? w p = some (v, t', w')) : t'.Grounded held w' := by
  obtain ⟨_, _, rfl, rfl⟩ := erase_of_removeFirst? hremoved
  exact h.of_eq rfl rfl rfl fun _ => List.mem_of_mem_erase

theorem handOut (h : t.Grounded held w) (found : Option VolumeHandle) :
    t.Grounded held (MountTable.handOut found w).2 := by
  cases found with
  | none => exact h
  | some v => exact h.of_eq rfl rfl rfl fun _ hv => hv

theorem snapshot (h : t.Grounded held w) (list : List VolumeHandle) :
    t.Grounded held (list.foldl World.retain w) := by
  induction list generalizing w with
  | nil => exact h
  | cons v rest ih => exact ih (h.of_eq rfl rfl rfl fun _ hv => hv)

variable [DriverModel σ]

/-- A registered volume starts at a node that was made. -/
theorem register (hheld : DriverModel.Referring held) (h : t.Grounded held w) {volume : Volume}
    (hpoint : ∀ n, volume.mountPoint = some n → w.graph.Issued n) :
    (t.register w volume).2.1.Grounded held (t.register w volume).2.2 := by
  have hshared : (w.share (some t.nextId)).Grounded held := h.world.of_eq rfl rfl
  obtain ⟨hlinked, hprecedes⟩ := hshared.linkMountPoint hheld volume h.root
  refine ⟨hlinked.of_eq rfl rfl, hprecedes t.root h.root, fun v hv n hn => hprecedes n ?_⟩
  rcases List.mem_append.1 hv with hold | hlast
  · exact h.mountPoints v hold n hn
  · rw [List.mem_singleton.1 hlast] at hn
    exact hpoint n hn

theorem afterMount (hheld : DriverModel.Referring held) (h : t.Grounded held w) {volume : Volume}
    (hpoint : ∀ n, volume.mountPoint = some n → w.graph.Issued n) (device : NodeId) :
    (t.afterMount w device volume).1.Grounded held (t.afterMount w device volume).2 :=
  (h.register hheld hpoint).of_eq rfl rfl rfl fun _ hv => hv

theorem of_mountOutcome (hheld : DriverModel.Referring held) (h : t.Grounded held w)
    {ds : List DriverHandle} {device : NodeId} (hdevice : w.graph.Issued device)
    {name? : Option String} {result : Except ServiceError VolumeHandle × MountTable × World σ}
    (houtcome : MountOutcome ds t w device name? result) : result.2.1.Grounded held result.2.2 := by
  cases houtcome with
  | refused _ hw =>
      obtain ⟨hw', hprecedes⟩ := hw.grounded hheld h.world hdevice
      exact h.mono hw' hprecedes rfl fun _ hv => hv
  | failed hname hw =>
      obtain ⟨hw', hprecedes⟩ := hw.grounded hheld h.world hdevice
      exact (h.of_claimName hname).mono hw' hprecedes rfl fun _ hv => hv
  | registered hname hw hbuilt _ =>
      obtain ⟨hw₁, hprobed⟩ := hw.grounded hheld h.world hdevice
      obtain ⟨hw', hcall, hpoint⟩ := hbuilt.grounded hheld hw₁ (hprobed device hdevice)
      have hclaimed := (h.of_claimName hname).mono hw' (hprobed.trans hcall) rfl fun _ hv => hv
      exact hclaimed.afterMount hheld hpoint device

theorem of_bootOutcome (hheld : DriverModel.Referring held) (h : t.Grounded held w)
    {result : Option (Except ServiceError VolumeHandle) × MountTable × World σ}
    (houtcome : BootOutcome t w result) : result.2.1.Grounded held result.2.2 := by
  cases houtcome with
  | already _ => exact h.of_eq rfl rfl rfl fun _ hv => hv
  | unfinished _ hw =>
      obtain ⟨hw', hprecedes⟩ := hw.grounded hheld h.world
      exact h.mono hw' hprecedes rfl fun _ hv => hv
  | failed _ _ hw =>
      obtain ⟨hw', hprecedes⟩ := hw.grounded hheld h.world
      exact h.mono hw' hprecedes rfl fun _ hv => hv
  | @mounted _ _ w' device _ volume _ hw hdevice hprobes hbuilt _ =>
      obtain ⟨hw₁, hsurveyed⟩ := hw.grounded hheld h.world
      obtain ⟨hw₂, hprobed⟩ := hprobes.grounded hheld hw₁ (.of_has hdevice)
      obtain ⟨hw', hcall, hpoint⟩ := hbuilt.grounded hheld hw₂ (hprobed device (.of_has hdevice))
      have hready : t.Grounded held w' :=
        h.mono hw' ((hsurveyed.trans hprobed).trans hcall) rfl fun _ hv => hv
      exact (hready.afterMount hheld hpoint device).of_eq rfl rfl rfl fun _ hv => hv

/-- A request that speaks only of nodes that were made keeps a table grounded. -/
theorem handle (hheld : DriverModel.Referring held) (h : t.Grounded held w) (request : Request)
    (hrequest : ∀ n ∈ request.mentions, w.graph.Issued n) :
    (t.handle w request).2.1.Grounded held (t.handle w request).2.2 := by
  cases request with
  | mount device name? =>
      exact h.of_mountOutcome hheld (hrequest device (List.mem_singleton_self _))
        (t.mount_outcome w device name?)
  | mountUsing device driver name? =>
      exact h.of_mountOutcome hheld (hrequest device (List.mem_singleton_self _))
        (t.mountUsing_outcome w device (List.mem_singleton_self driver) name?)
  | unmount name =>
      rw [MountTable.handle, unmount]
      split
      next => exact h.of_eq rfl rfl rfl fun _ hv => hv
      next v t₁ w₁ hremoved =>
        have hw₁ := h.removeFirst? hremoved
        dsimp only
        split <;> exact hw₁.of_eq rfl rfl rfl fun _ hv => hv
  | register volume =>
      exact h.register hheld fun n hn => hrequest n (Option.mem_toList.2 hn)
  | unregister v =>
      rw [MountTable.handle, unregister]
      split
      next => exact h.of_eq rfl rfl rfl fun _ hv => hv
      next hremoved => exact h.removeFirst? hremoved
  | addDriver driver =>
      rw [MountTable.handle, addDriver, Registry.register]
      split <;> exact h.of_eq rfl rfl rfl fun _ hv => hv
  | bootScan limit =>
      have hscan := h.of_bootOutcome hheld (t.bootScan_outcome w limit)
      rw [MountTable.handle]
      generalize t.bootScan w limit = result at hscan
      obtain ⟨answer, t', w'⟩ := result
      cases answer <;> exact hscan
  | systemVolume => exact h.handOut t.system
  | find name => exact h.handOut (t.named? name)
  | findId id => exact h.handOut (t.withId? w id)
  | resolve path => exact h
  | root => exact h
  | volumes => exact h.snapshot t.volumes
  | identify device =>
      obtain ⟨hw', hprecedes⟩ := (w.probes_identifyFirst device t.drivers.drivers).grounded hheld
        h.world (hrequest device (List.mem_singleton_self _))
      exact h.mono hw' hprecedes rfl fun _ hv => hv
  | findDriver name => exact h
  | drivers => exact h

end MountTable.Grounded

/-! ### Tables as they can come to be -/

variable [DriverModel σ]

/-- The states of a table and its world that can come about: the table is made, it answers requests
that speak of nodes which were made, and in between anything may happen elsewhere, to nodes, drivers
and shared volumes, that forgets none of them. -/
inductive MountTable.Attained (held : Graph → σ → Prop) : MountTable → World σ → Prop where
  | create {root : NodeId} {drivers : Registry} {w : World σ} (hworld : w.Grounded held)
      (hroot : w.graph.Issued root) : Attained held (.create root drivers) w
  | ask {t : MountTable} {w : World σ} (h : Attained held t w) (request : Request)
      (hrequest : ∀ n ∈ request.mentions, w.graph.Issued n) :
      Attained held (t.handle w request).2.1 (t.handle w request).2.2
  | elsewhere {t : MountTable} {w w' : World σ} (h : Attained held t w)
      (hworld : w'.Grounded held) (hprecedes : w.graph.Precedes w'.graph)
      (hcells : w.cells.next ≤ w'.cells.next) : Attained held t w'

namespace MountTable.Attained

variable {held : Graph → σ → Prop} {t : MountTable} {w : World σ}

theorem grounded (hheld : DriverModel.Referring held) (h : t.Attained held w) :
    t.Grounded held w := by
  induction h with
  | create hworld hroot =>
      refine ⟨hworld, hroot, fun v hv => ?_⟩
      cases hv
  | ask _ request hrequest ih => exact ih.handle hheld request hrequest
  | elsewhere _ hworld hprecedes _ ih => exact ih.mono hworld hprecedes rfl fun _ hv => hv

/-- The listed volumes have been shared. -/
theorem known (h : t.Attained held w) : ∀ v ∈ t.volumes, v.cell.index < w.cells.next := by
  induction h with
  | create =>
      intro v hv
      cases hv
  | @ask t w _ request _ ih =>
      intro v hv
      -- a volume that comes has a new cell, and the others were shared before
      have hchange := Change.of_handle t w request
      generalize request.registered? t (t.handle w request).1 = entered at hchange
      generalize request.removed? (t.handle w request).1 = left at hchange
      cases hchange with
      | kept hkept =>
          rw [hkept.volumes] at hv
          exact Nat.lt_of_lt_of_le (ih v hv) hkept.cells
      | registered hnew hcells hvolumes _ _ =>
          rw [hvolumes] at hv
          rcases List.mem_append.1 hv with hold | hlast
          · exact Nat.lt_trans (Nat.lt_of_lt_of_le (ih v hold) hnew) hcells
          · rw [List.mem_singleton.1 hlast]
            exact hcells
      | removed _ hvolumes _ hcells _ =>
          rw [hvolumes] at hv
          exact Nat.lt_of_lt_of_le (ih v (List.mem_of_mem_erase hv)) hcells
  | elsewhere _ _ _ hcells ih => exact fun v hv => Nat.lt_of_lt_of_le (ih v hv) hcells

end MountTable.Attained

end VolumeService
