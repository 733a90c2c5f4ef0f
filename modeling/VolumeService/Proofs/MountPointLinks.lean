import VolumeService.Proofs.Chronicle
import VolumeService.Proofs.MountNames
import VolumeService.Proofs.RootParent
import VolumeService.Proofs.RoundTrip

/-! # Mount points stay linked to the root

Registering a volume points its mount point at the root, and nothing that a table does points it
anywhere else again.

* **Kept links** (`Graph.LinksKept`).  Between two graphs the nodes of a set, as far as they were
  made before and are still there, name the same parents.
* **One request** (`MountTable.Entered`).  All that a request does to the graph, besides what
  drivers do to it, is to link the mount point of the volume that it registers, if it registers
  one.  After a driver that fails, or that gives its volume another name, the graph is as the driver
  left it (`MountTable.graph_mountUsing_of_not_built`).
* **A run** (`Chronicle.Links`).  Between two moments of a chronicle the mount points of the volumes
  registered meanwhile come to be linked to the root, and all other nodes keep their links.  This is
  true of each move by which nobody but the table links nodes of the set, and of one run after
  another (`Links.trans`).  Removals have no part in it. -/

namespace VolumeService

/-! ### Kept links -/

namespace Graph

/-- The nodes of a set that were made in `g` and are there in `g'` were there in `g`, and name the
same parents. -/
structure LinksKept (points : NodeId → Prop) (g g' : Graph) : Prop where
  precedes : g.Precedes g'
  links : ∀ n, points n → g.Issued n → g'.has n = true →
    g.has n = true ∧ g'.link? n = g.link? n

namespace LinksKept

variable {points points' : NodeId → Prop} {g g₁ g₂ : Graph}

theorem refl (points : NodeId → Prop) (g : Graph) : g.LinksKept points g :=
  ⟨.refl g, fun _ _ _ hn => ⟨hn, rfl⟩⟩

theorem trans (h₁ : g.LinksKept points g₁) (h₂ : g₁.LinksKept points g₂) :
    g.LinksKept points g₂ := by
  refine ⟨h₁.precedes.trans h₂.precedes, fun n hpoint hissued hn => ?_⟩
  obtain ⟨hn₁, hlink₂⟩ := h₂.links n hpoint (h₁.precedes n hissued) hn
  obtain ⟨hn₀, hlink₁⟩ := h₁.links n hpoint hissued hn₁
  exact ⟨hn₀, hlink₂.trans hlink₁⟩

theorem mono (h : g.LinksKept points g₁) (hle : ∀ n, points' n → points n) :
    g.LinksKept points' g₁ :=
  ⟨h.precedes, fun n hpoint => h.links n (hle n hpoint)⟩

/-- What leaves all nodes alone that were ever made keeps all links. -/
theorem of_continues (h : g.Continues g₁) : g.LinksKept points g₁ := by
  refine ⟨fun _ => h.issued, fun n _ hissued hn => ?_⟩
  have hsame := h.same n hissued
  rw [has, hsame] at hn
  exact ⟨hn, by rw [link?, hsame, link?]⟩

end LinksKept

/-- A node that is linked to a living parent has it. -/
theorem parent?_of_link? {g : Graph} {n parent : NodeId} (h : g.link? n = some parent)
    (hparent : g.has parent = true) : g.parent? n = some parent := by
  rw [parent?, h, Option.filter_some_pos hparent]

end Graph

variable {σ : Type}

namespace World

/-- Linking a mount point keeps all links but that. -/
theorem linksKept_linkMountPoint (w : World σ) (volume : Volume) (parent : NodeId) :
    w.graph.LinksKept (fun n => volume.mountPoint ≠ some n)
      (w.linkMountPoint volume parent).graph := by
  refine ⟨?_, fun n hpoint _ hn => ?_⟩
  · unfold linkMountPoint
    split
    · exact fun _ => (w.graph.precedes_modify _ _ _)
    · exact .refl _
  · rw [has_linkMountPoint] at hn
    exact ⟨hn, by rw [Graph.link?, node?_linkMountPoint hpoint, Graph.link?]⟩

/-- A mount point that is there is linked. -/
theorem link?_linkMountPoint (w : World σ) {volume : Volume} {n : NodeId}
    (h : volume.mountPoint = some n) (parent : NodeId)
    (hn : (w.linkMountPoint volume parent).graph.has n = true) :
    (w.linkMountPoint volume parent).graph.link? n = some parent := by
  rw [has_linkMountPoint] at hn
  unfold linkMountPoint
  rw [h]
  exact (Graph.link?_reparent ..).trans (if_pos ⟨rfl, hn⟩)

end World

/-! ### One request -/

namespace MountTable

theorem graph_handOut (found : Option VolumeHandle) (w : World σ) :
    (handOut found w).2.graph = w.graph := by
  cases found <;> rfl

theorem graph_foldl_retain (w : World σ) (list : List VolumeHandle) :
    (list.foldl World.retain w).graph = w.graph := by
  induction list generalizing w with
  | nil => rfl
  | cons v rest ih => exact ih (w.retain v)

/-- Of the graph nothing changed but what drivers of `ds` did, and then the link of the mount point
of the volume that was registered, if one was; the root is as it was. -/
structure Entered [DriverModel σ] (ds : List DriverHandle) (t : MountTable) (w : World σ)
    (entered : Option VolumeHandle) (t' : MountTable) (w' : World σ) : Prop where
  root : t'.root = t.root
  graph : ∃ w₁, w.Consults ds w₁ ∧
    w'.graph = (entered.elim w₁ fun v => w₁.linkMountPoint v.volume t.root).graph

namespace Entered

variable [DriverModel σ] {ds : List DriverHandle} {t t' : MountTable} {w w' : World σ}

theorem of_consults (hroot : t'.root = t.root) (h : w.Consults ds w') :
    Entered ds t w none t' w' := ⟨hroot, w', h, rfl⟩

theorem of_graph_eq (hroot : t'.root = t.root) (hgraph : w'.graph = w.graph) :
    Entered ds t w none t' w' := ⟨hroot, w, .refl, hgraph⟩

theorem of_afterMount {w₁ : World σ} (hroot : t'.root = t.root) (h : w.Consults ds w₁)
    (device : NodeId) (volume : Volume) :
    Entered ds t w (some (w₁.handleFor volume)) (t'.afterMount w₁ device volume).1
      (t'.afterMount w₁ device volume).2 := by
  refine ⟨hroot, w₁, h, ?_⟩
  rw [← hroot]
  exact w₁.graph_linkMountPoint_share _ volume t'.root

theorem of_mountOutcome {device : NodeId} {name? : Option String}
    {result : Except ServiceError VolumeHandle × MountTable × World σ}
    (h : MountOutcome ds t w device name? result) :
    Entered ds t w result.1.toOption result.2.1 result.2.2 := by
  cases h with
  | refused _ hw => exact .of_consults rfl hw.consults
  | failed hname hw =>
      obtain rfl := table_of_claimName hname
      exact .of_consults rfl hw.consults
  | @registered _ t₁ _ w₁ volume hname hw hbuilt _ =>
      have hroot : t₁.root = t.root := by rw [table_of_claimName hname]
      exact .of_afterMount hroot (hbuilt.probes hw).consults device volume

theorem of_bootScan (t : MountTable) (w : World σ) (limit : Nat) :
    Entered t.drivers.drivers t w
      (if t.system.isSome then none else (t.bootScan w limit).1.bind Except.toOption)
      (t.bootScan w limit).2.1 (t.bootScan w limit).2.2 := by
  have h := t.bootScan_outcome w limit
  generalize t.bootScan w limit = result at h
  cases h with
  | already hsystem =>
      rw [hsystem]
      exact .of_graph_eq rfl rfl
  | unfinished hsystem hw =>
      rw [hsystem]
      exact .of_consults rfl hw.consults
  | failed hsystem _ hw =>
      rw [hsystem]
      exact .of_consults rfl hw.consults
  | @mounted _ _ w₁ device _ volume hsystem hw hdevice hprobes hbuilt _ =>
      rw [hsystem]
      have hsurvey := (hw.probe hdevice (hbuilt.probes hprobes)).consults
      exact ⟨rfl, (of_afterMount (Eq.refl t.root) hsurvey device volume).graph⟩

/-- Whatever a table is asked, it links nothing but the mount point of the volume that it
registers. -/
theorem of_handle (t : MountTable) (w : World σ) (request : Request) :
    Entered (request.consulted t) t w (request.registered? t (t.handle w request).1)
      (t.handle w request).2.1 (t.handle w request).2.2 := by
  cases request with
  | mount device name? => exact of_mountOutcome (t.mount_outcome w device name?)
  | mountUsing device driver name? =>
      exact of_mountOutcome (t.mountUsing_outcome w device (List.mem_singleton_self driver) name?)
  | unmount name =>
      rw [handle, unmount]
      split
      next => exact .of_graph_eq rfl rfl
      next hpick =>
        obtain ⟨_, _, rfl, rfl⟩ := erase_of_removeFirst? hpick
        dsimp only
        split <;> exact .of_graph_eq rfl rfl
  | register volume => exact ⟨rfl, w, .refl, w.graph_linkMountPoint_share _ volume t.root⟩
  | unregister v =>
      rw [handle, unregister]
      split
      next => exact .of_graph_eq rfl rfl
      next hpick =>
        obtain ⟨_, _, rfl, rfl⟩ := erase_of_removeFirst? hpick
        exact .of_graph_eq rfl rfl
  | addDriver driver =>
      rw [handle, addDriver, Registry.register]
      split <;> exact .of_graph_eq rfl rfl
  | bootScan limit =>
      have h := of_bootScan t w limit
      rw [handle]
      generalize t.bootScan w limit = result at h ⊢
      obtain ⟨answer, t', w'⟩ := result
      cases answer <;> exact h
  | systemVolume => exact .of_graph_eq rfl (graph_handOut t.system w)
  | find name => exact .of_graph_eq rfl (graph_handOut (t.named? name) w)
  | findId id => exact .of_graph_eq rfl (graph_handOut (t.withId? w id) w)
  | resolve path => exact .of_graph_eq rfl rfl
  | root => exact .of_graph_eq rfl rfl
  | volumes => exact .of_graph_eq rfl (graph_foldl_retain w t.volumes)
  | identify device =>
      exact .of_consults rfl (w.consults_identifyFirst device t.drivers.drivers)
  | findDriver name => exact .of_graph_eq rfl rfl
  | drivers => exact .of_graph_eq rfl rfl

/-- All other nodes are linked as drivers left them. -/
theorem exists_link?_eq {entered : Option VolumeHandle} (h : Entered ds t w entered t' w') :
    ∃ w₁, w.Consults ds w₁ ∧ ∀ n, (∀ v, entered = some v → v.volume.mountPoint ≠ some n) →
      w'.graph.link? n = w₁.graph.link? n := by
  obtain ⟨_, w₁, hconsults, hgraph⟩ := h
  refine ⟨w₁, hconsults, fun n hn => ?_⟩
  rw [hgraph]
  cases entered with
  | none => rfl
  | some v =>
      have hnode := World.node?_linkMountPoint (hn v rfl) (w := w₁) t.root
      rw [Option.elim_some, Graph.link?, hnode, Graph.link?]

end Entered

/-- A mount whose driver fails, or gives its volume another name, leaves the graph as the driver
left it. -/
theorem graph_mountUsing_of_not_built [DriverModel σ] {t t' : MountTable} {w w₁ : World σ}
    {device : NodeId} {driver : DriverHandle} {name? : Option String} {name : String}
    (hdevice : w.graph.isDevice device = true) (hidentify : w.identify driver device = (true, w₁))
    (hname : t.claimName name? = some (name, t'))
    (hnot : ∀ volume, (w₁.mountVia driver device name).1 = .ok volume → volume.name ≠ name) :
    (t.mountUsing w device driver name?).1 = .error .mountFailed ∧
      (t.mountUsing w device driver name?).2.2.graph =
        (w₁.mountVia driver device name).2.graph := by
  rw [mountUsing_eq_build hdevice (congrArg Prod.fst hidentify) hname, hidentify, build]
  generalize w₁.mountVia driver device name = call at hnot ⊢
  obtain ⟨answer, w₂⟩ := call
  cases answer with
  | error cause => exact ⟨rfl, rfl⟩
  | ok volume =>
      dsimp only
      rw [adopt_of_name_ne t' w₂ device driver (hnot volume rfl)]
      exact ⟨rfl, rfl⟩

/-- The path of a slash, a plain name and a step up leads through the mount point of that name to
its parent. -/
theorem resolve_up_from_mountPoint {t : MountTable} {g : Graph} {name : String}
    (hname : Path.Plain name) {n parent : NodeId} (h : t.mountPoint? name = some n)
    (hparent : g.parent? n = some parent) :
    t.resolve g ("/" ++ name ++ "/..") = .ok parent := by
  have ⟨_, _, hdot, hdotdot⟩ := hname
  have hsplit : "/" ++ name ++ "/.." = "/" ++ name ++ "/" ++ ".." :=
    (@String.append_assoc ("/" ++ name) "/" "..").symm
  rw [hsplit, resolve, if_pos (Path.isAbsolute_append
    (Path.isAbsolute_append (Path.isAbsolute_slash name) "/") ".."),
    Path.components_append_slash, Path.components_slash_of_plain hname, Path.components_dotdot,
    List.singleton_append, Namespace.walk, if_neg hdot, if_neg hdotdot,
    enter_root_of_mountPoint? h]
  dsimp only
  rw [Namespace.walk_dotdot, hparent]
  rfl

end MountTable

/-! ### A run -/

/-- The node where a registered volume is mounted, if there is one. -/
def Registration.mountPoint (entry : Registration) : Option NodeId := entry.volume.volume.mountPoint

namespace Chronicle

/-- The mount point of a registered volume, if it is in the set, was made, and while it is there it
is linked to the root. -/
def Anchored (points : NodeId → Prop) (c : Chronicle σ) (entry : Registration) : Prop :=
  ∀ n, entry.mountPoint = some n → points n → c.world.graph.Issued n ∧
    (c.world.graph.has n = true → c.world.graph.link? n = some c.table.root)

/-- From `c` to `c'` these registrations came to the ledger: the nodes of the set where none of them
is mounted kept their links, and the others are linked to the root. -/
structure Links (points : NodeId → Prop) (newer : List Registration) (c c' : Chronicle σ) :
    Prop where
  root : c'.table.root = c.table.root
  ledger : c'.ledger = c.ledger ++ newer
  kept : c.world.graph.LinksKept
    (fun n => points n ∧ ∀ entry ∈ newer, entry.mountPoint ≠ some n) c'.world.graph
  anchored : ∀ entry ∈ newer, c'.Anchored points entry

namespace Links

variable {points : NodeId → Prop} {newer latest : List Registration} {c c₁ c₂ : Chronicle σ}

theorem refl (points : NodeId → Prop) (c : Chronicle σ) : Links points [] c c where
  root := rfl
  ledger := (List.append_nil _).symm
  kept := .refl ..
  anchored _ hentry := absurd hentry List.not_mem_nil

/-- A mount point stays anchored: it keeps its link, or it is linked to the same root once more. -/
theorem stays_anchored (h : Links points newer c c₁) {entry : Registration}
    (hentry : c.Anchored points entry) : c₁.Anchored points entry := by
  intro n hn hpoint
  obtain ⟨hissued, hlink⟩ := hentry n hn hpoint
  by_cases hnewer : ∃ other ∈ newer, other.mountPoint = some n
  · obtain ⟨other, hother, hsame⟩ := hnewer
    exact h.anchored other hother n hsame hpoint
  · have hspared : points n ∧ ∀ other ∈ newer, other.mountPoint ≠ some n :=
      ⟨hpoint, fun other hother hsame => hnewer ⟨other, hother, hsame⟩⟩
    refine ⟨h.kept.precedes n hissued, fun hhas => ?_⟩
    obtain ⟨hhad, hsame⟩ := h.kept.links n hspared hissued hhas
    rw [hsame, hlink hhad, h.root]

theorem trans (h₁ : Links points newer c c₁) (h₂ : Links points latest c₁ c₂) :
    Links points (newer ++ latest) c c₂ where
  root := h₂.root.trans h₁.root
  ledger := by rw [h₂.ledger, h₁.ledger, List.append_assoc]
  kept := by
    have hfirst : ∀ n, (points n ∧ ∀ entry ∈ newer ++ latest, entry.mountPoint ≠ some n) →
        points n ∧ ∀ entry ∈ newer, entry.mountPoint ≠ some n :=
      fun n h => ⟨h.1, fun entry hentry => h.2 entry (List.mem_append_left _ hentry)⟩
    have hsecond : ∀ n, (points n ∧ ∀ entry ∈ newer ++ latest, entry.mountPoint ≠ some n) →
        points n ∧ ∀ entry ∈ latest, entry.mountPoint ≠ some n :=
      fun n h => ⟨h.1, fun entry hentry => h.2 entry (List.mem_append_right _ hentry)⟩
    exact (h₁.kept.mono hfirst).trans (h₂.kept.mono hsecond)
  anchored entry hentry := by
    rcases List.mem_append.1 hentry with hold | hlast
    · exact h₂.stays_anchored (h₁.anchored entry hold)
    · exact h₂.anchored entry hlast

end Links

/-- A name that leads to a mount point leads to that of a registered volume. -/
theorem Sound.exists_entry_of_mountPoint? {c : Chronicle σ} (h : c.Sound) {name : String}
    {n : NodeId} (hn : c.table.mountPoint? name = some n) :
    ∃ entry ∈ c.ledger, entry.mountPoint = some n := by
  obtain ⟨v, hv, hpoint⟩ := Option.bind_eq_some_iff.1 hn
  obtain ⟨⟨entry, hentry, rfl⟩, _⟩ :=
    h.mem_volumes_iff.1 (MountTable.mem_volumes_of_named? hv)
  exact ⟨entry, hentry, hpoint⟩

variable [DriverModel σ]

/-- Nobody but the table links nodes of the set in this move: nothing that happens elsewhere does,
and the drivers that the table consults are in states of `own`.  The mount point of a volume that is
registered was made. -/
def Undisturbed (points : NodeId → Prop) (own : CellId → σ → Prop) (c : Chronicle σ) :
    Move σ → Prop
  | .deed deed => c.world.graph.LinksKept points (deed.apply c.world).graph
  | .ask request => c.world.Houses (request.consulted c.table) own ∧
    ∀ v, request.registered? c.table (c.table.handle c.world request).1 = some v →
      ∀ n, v.volume.mountPoint = some n → (c.table.handle c.world request).2.2.graph.Issued n

/-- Nobody but the table links nodes of the set in these moves. -/
def UndisturbedAll (points : NodeId → Prop) (own : CellId → σ → Prop) (c : Chronicle σ) :
    List (Move σ) → Prop
  | [] => True
  | move :: rest => c.Undisturbed points own move ∧ (c.step move).UndisturbedAll points own rest

theorem undisturbedAll_append {points : NodeId → Prop} {own : CellId → σ → Prop}
    {c : Chronicle σ} {before after : List (Move σ)} :
    c.UndisturbedAll points own (before ++ after) ↔
      c.UndisturbedAll points own before ∧ (c.run before).UndisturbedAll points own after := by
  induction before generalizing c with
  | nil => exact (and_iff_right trivial).symm
  | cons move rest ih =>
      rw [List.cons_append, UndisturbedAll, UndisturbedAll, ih, and_assoc]
      rfl

theorem run_append (c : Chronicle σ) (before after : List (Move σ)) :
    c.run (before ++ after) = (c.run before).run after := List.foldl_append

section

variable {points : NodeId → Prop} {own : CellId → σ → Prop}
  (hown : DriverModel.Keeps (Graph.LinksKept points) own) {c : Chronicle σ}
include hown

/-- A move links the mount point of the volume that it registers, and no other node of the set. -/
theorem Links.step {move : Move σ} (h : c.Undisturbed points own move) :
    ∃ newer, Links points newer c (c.step move) := by
  cases move with
  | deed deed =>
      refine ⟨[], rfl, (List.append_nil _).symm, h.mono fun _ hn => hn.1, fun entry hentry => ?_⟩
      exact absurd hentry List.not_mem_nil
  | ask request =>
      obtain ⟨hhouses, hmade⟩ := h
      obtain ⟨hroot, w₁, hconsults, hgraph⟩ :=
        MountTable.Entered.of_handle c.table c.world request
      have hkept := (hconsults.keeps (Graph.LinksKept.refl points) Graph.LinksKept.trans hown
        hhouses).2
      rw [Chronicle.step]
      generalize c.table.handle c.world request = answer at hmade hroot hgraph ⊢
      obtain ⟨reply, t', w'⟩ := answer
      dsimp only at hmade hroot hgraph ⊢
      cases hentered : request.registered? c.table reply with
      | none =>
          rw [hentered] at hgraph
          refine ⟨[], hroot, rfl, ?_, fun entry hentry => absurd hentry List.not_mem_nil⟩
          rw [hgraph]
          exact hkept.mono fun _ hn => hn.1
      | some v =>
          rw [hentered] at hgraph
          refine ⟨[⟨v, w'.idOf v⟩], hroot, rfl, ?_, fun entry hentry n hn _ => ?_⟩
          · rw [hgraph]
            exact (hkept.mono fun _ hn => hn.1).trans
              ((w₁.linksKept_linkMountPoint v.volume c.table.root).mono fun n hn =>
                hn.2 _ (List.mem_singleton_self _))
          · obtain rfl := List.mem_singleton.1 hentry
            refine ⟨hmade v hentered n hn, fun hhas => ?_⟩
            dsimp only at hhas ⊢
            rw [hgraph] at hhas ⊢
            rw [hroot]
            exact w₁.link?_linkMountPoint hn c.table.root hhas

/-- Moves that nobody disturbs link the mount points of the volumes that they register, and no other
nodes of the set. -/
theorem Links.run {moves : List (Move σ)} (h : c.UndisturbedAll points own moves) :
    ∃ newer, Links points newer c (c.run moves) := by
  induction moves generalizing c with
  | nil => exact ⟨[], .refl points c⟩
  | cons move rest ih =>
      obtain ⟨newer, hfirst⟩ := Links.step hown h.1
      obtain ⟨latest, hrest⟩ := ih h.2
      exact ⟨newer ++ latest, hfirst.trans hrest⟩

end

/-- **Mount points stay linked to the root.**  In a run in which nobody but the table links nodes of
a set, the mount point of every volume that was ever registered, listed or not, is linked to the
root, as far as it is in the set, and has the root as its parent while that lives; so a name that
leads to it, and a step up, lead back to the root.  All other nodes of the set keep their links at
all times.  Besides the mount point of the volume that it registers, a request leaves all nodes
linked as drivers left them; so does a mount whose driver fails after it has built its volume, or
gives it another name. -/
theorem mount_points_stay_linked {points : NodeId → Prop} {own : CellId → σ → Prop}
    (hown : DriverModel.Keeps (Graph.LinksKept points) own) (root : NodeId) (drivers : Registry)
    (w : World σ) (moves : List (Move σ))
    (h : (start root drivers w).UndisturbedAll points own moves) :
    let c := (start root drivers w).run moves
    (∀ entry ∈ c.ledger, ∀ n, entry.mountPoint = some n → points n →
      c.world.graph.has n = true → c.world.graph.link? n = some root ∧
        (c.world.graph.has root = true → c.world.graph.parent? n = some root)) ∧
    (∀ name n, Path.Plain name → c.table.mountPoint? name = some n → points n →
      c.world.graph.has n = true → c.world.graph.has root = true →
        c.table.resolve c.world.graph ("/" ++ name ++ "/..") = .ok root) ∧
    (∀ before after, moves = before ++ after →
      let earlier := (start root drivers w).run before
      ∃ newer, c.ledger = earlier.ledger ++ newer ∧
        ∀ n, points n → earlier.world.graph.Issued n →
          (∀ entry ∈ newer, entry.mountPoint ≠ some n) → c.world.graph.has n = true →
            c.world.graph.link? n = earlier.world.graph.link? n) ∧
    (∀ request,
      let answer := c.table.handle c.world request
      ∃ w', c.world.Consults (request.consulted c.table) w' ∧
        ∀ n, (∀ v, request.registered? c.table answer.1 = some v → v.volume.mountPoint ≠ some n) →
          answer.2.2.graph.link? n = w'.graph.link? n) ∧
    (∀ device driver name? name t' w₁, c.world.graph.isDevice device = true →
      c.world.identify driver device = (true, w₁) → c.table.claimName name? = some (name, t') →
      (∀ volume, (w₁.mountVia driver device name).1 = .ok volume → volume.name ≠ name) →
        let answer := c.table.mountUsing c.world device driver name?
        answer.1 = .error .mountFailed ∧
          answer.2.2.graph = (w₁.mountVia driver device name).2.graph) := by
  intro c
  obtain ⟨newer, hlinks⟩ := Links.run hown h
  have hroot : c.table.root = root := hlinks.root
  have hanchored : ∀ entry ∈ c.ledger, c.Anchored points entry := by
    have hledger : c.ledger = newer := hlinks.ledger
    rw [hledger]
    exact hlinks.anchored
  have hlinked : ∀ entry ∈ c.ledger, ∀ n, entry.mountPoint = some n → points n →
      c.world.graph.has n = true → c.world.graph.link? n = some root := by
    intro entry hentry n hn hpoint hhas
    rw [← hroot]
    exact (hanchored entry hentry n hn hpoint).2 hhas
  refine ⟨fun entry hentry n hn hpoint hhas => ?_, fun name n hname hn hpoint hhas hlives => ?_,
    fun before after hsplit => ?_,
    fun request => (MountTable.Entered.of_handle c.table c.world request).exists_link?_eq,
    fun device driver name? name t' w₁ hdevice hidentify hname hnot =>
      MountTable.graph_mountUsing_of_not_built hdevice hidentify hname hnot⟩
  · have hlink := hlinked entry hentry n hn hpoint hhas
    exact ⟨hlink, Graph.parent?_of_link? hlink⟩
  · have hsound : c.Sound := sound_run (.start root drivers w) moves
    obtain ⟨entry, hentry, hmounted⟩ := hsound.exists_entry_of_mountPoint? hn
    exact MountTable.resolve_up_from_mountPoint hname hn
      (Graph.parent?_of_link? (hlinked entry hentry n hmounted hpoint hhas) hlives)
  · subst hsplit
    obtain ⟨later, hlater⟩ := Links.run hown (undisturbedAll_append.1 h).2
    rw [← run_append] at hlater
    exact ⟨later, hlater.ledger, fun n hpoint hissued hnewer hhas =>
      (hlater.kept.links n ⟨hpoint, hnewer⟩ hissued hhas).2⟩

end Chronicle

/-- Drivers that leave all nodes alone that were ever made keep all links. -/
theorem DriverModel.Keeps.linksKept [DriverModel σ] {own : CellId → σ → Prop}
    (h : DriverModel.Keeps Graph.Continues own) (points : NodeId → Prop) :
    DriverModel.Keeps (Graph.LinksKept points) own where
  identify g device hown := (h.identify g device hown).imp_right .of_continues
  mount g device name hown := (h.mount g device name hown).imp_right .of_continues

/-! ### A volume that is gone, and its mount point -/

namespace MountPointExample

/-- A root, a device, and a driver that mounts everything on a new directory. -/
def world : World ScriptedDriver where
  graph := (Graph.empty.push (.newDirectory "/")).push (.newImage "disk" [])
  drivers := Store.empty.push { format := "fat", identify := .always, mount := .directory }

def drivers : Registry := ⟨[⟨"fat", ⟨0⟩⟩]⟩

/-- The device is mounted as `data`, and the volume unmounted. -/
def moves : List (Move ScriptedDriver) :=
  [.ask (.mount ⟨1⟩ (some "data")), .ask (.unmount "data")]

/-- The directory that the driver makes for the volume. -/
def point : NodeId := ⟨2⟩

theorem undisturbed : (Chronicle.start ⟨0⟩ drivers world).UndisturbedAll (· = point)
    (fun _ d => d.Quiet) moves := by
  refine ⟨⟨fun driver hmem state hstate => ?_, fun v hv n hn => ?_⟩,
    ⟨fun driver hmem => absurd hmem List.not_mem_nil, fun v hv => ?_⟩, trivial⟩
  · obtain rfl := List.mem_singleton.1 hmem
    obtain rfl := Option.some.inj hstate
    rfl
  · obtain rfl := Option.some.inj hv
    obtain rfl := Option.some.inj hn
    exact Nat.lt_succ_self 2
  · cases hv

/-- The volume is not listed any more, and its mount point still has the root as its parent. -/
theorem unmounted_point_is_linked :
    let c := (Chronicle.start ⟨0⟩ drivers world).run moves
    c.table.volumes = [] ∧ c.world.graph.parent? point = some ⟨0⟩ := by
  have hlinked := Chronicle.mount_points_stay_linked
    (ScriptedDriver.keeps_quiet.linksKept (· = point)) ⟨0⟩ drivers world moves undisturbed
  obtain ⟨_, hparent⟩ := hlinked.1 ⟨⟨⟨"fat", "data", some point⟩, ⟨0⟩⟩, some .first⟩
    (List.mem_singleton_self _) point rfl rfl rfl
  exact ⟨rfl, hparent rfl⟩

end MountPointExample

end VolumeService
