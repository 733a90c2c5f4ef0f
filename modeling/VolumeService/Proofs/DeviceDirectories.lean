import VolumeService.Proofs.CallSequences
import VolumeService.Proofs.DirectoryOrder
import VolumeService.Proofs.NodeHistories

/-! # What a device directory takes

A device directory is made with a list of further devices, and these are entered one by one until
one is refused.

* **Entering nodes** (`DeviceDir.addAll_fst`).  A directory takes nodes one after the other exactly
  if their names are distinct and free.  Each name that is entered is taken for those behind it, so
  the names that are free change along the induction, and the condition on the rest with them.
* **What is entered** is listed under its name (`DeviceDir.addAll_perm`) and linked to the directory
  (`DeviceDir.link?_of_addAll`); nodes keep their names and kinds (`DeviceDir.stable_addAll`).
* **Built-in devices** are entered first, under the names `null` and `zero`, so that these are taken
  for further devices (`DeviceDir.create_perm`).
* So whether a list of devices is taken is up to its names, and neither that nor what the directory
  shows is up to its order (`DeviceDir.takes_distinct_free_names`). -/

namespace VolumeService

namespace Graph

/-- Entering a child leaves all nodes in place, under their names and of their kinds. -/
theorem stable_of_add {g g' : Graph} {dir child : NodeId} (h : g.add dir child = .ok g') :
    g.Stable g' := by
  obtain ⟨children, hdir, _, rfl⟩ := add_eq_ok_iff.1 h
  have hset : g.Stable (g.setChildren dir (children.insert (g.name child) child)) := by
    intro n hn
    refine ⟨?_, name_setChildren .., ?_⟩
    · rw [setChildren, has_modify, hn]
    · rw [kind_eq, content?_setChildren, kind_eq]
      split
      next he =>
        rw [← he.1, content?_of_directory? hdir]
        rfl
      next => rfl
  exact hset.trans (.of_reparent _ child dir)

/-- What is listed is found under its name. -/
theorem lookup_of_mem {g : Graph} {dir n : NodeId} {children : Directory NodeId} {name : String}
    (h : g.directory? dir = some children) (hentry : (name, n) ∈ children.entries) :
    g.lookup dir name = .ok n := by
  rw [lookup_of_directory? h, Directory.mem_entries_iff.1 hentry]

end Graph

namespace DeviceDir

/-! ### Entering nodes -/

theorem stable_addAll (g : Graph) (dir : NodeId) (nodes : List NodeId) :
    g.Stable (addAll g dir nodes).2 := by
  induction nodes generalizing g with
  | nil => exact .refl g
  | cons child rest ih =>
      rw [addAll]
      cases hadd : g.add dir child with
      | error e => exact .refl g
      | ok g' => exact (Graph.stable_of_add hadd).trans (ih g')

@[simp] theorem name_addAll (g : Graph) (dir : NodeId) (nodes : List NodeId) (n : NodeId) :
    (addAll g dir nodes).2.name n = g.name n := by
  induction nodes generalizing g with
  | nil => rfl
  | cons child rest ih =>
      rw [addAll]
      cases hadd : g.add dir child with
      | error e => rfl
      | ok g' => exact (ih g').trans (Graph.name_of_add hadd n)

/-- Nodes are entered exactly if no two of them have the same name and the directory has none of
their names. -/
theorem addAll_fst {g : Graph} {dir : NodeId} {children : Directory NodeId}
    (h : g.directory? dir = some children) (nodes : List NodeId) :
    (addAll g dir nodes).1 =
      if (nodes.map g.name).Nodup ∧ ∀ name ∈ nodes.map g.name, children.contains name = false then
        .ok ()
      else .error .alreadyExists := by
  induction nodes generalizing g children with
  | nil => rfl
  | cons child rest ih =>
      rw [addAll]
      rcases Graph.add_cases h child with ⟨g₁, hadd, hfree, hdir⟩ | ⟨hadd, htaken⟩
      · have hnames : rest.map g₁.name = rest.map g.name :=
          List.map_congr_left fun n _ => Graph.name_of_add hadd n
        -- a name is free for the rest if it was free before and is not the one just entered
        have hfreeNow : ∀ name, (children.insert (g.name child) child).contains name = false ↔
            name ≠ g.name child ∧ children.contains name = false := by
          intro name
          rw [← Bool.not_eq_true, ← Bool.not_eq_true, children.contains_insert, not_or]
        rw [hadd]
        dsimp only
        rw [ih hdir, hnames]
        refine if_congr ?_ rfl rfl
        simp only [hfreeNow, List.map_cons, List.nodup_cons, List.forall_mem_cons, hfree, true_and]
        constructor
        · rintro ⟨hnodup, hall⟩
          exact ⟨⟨fun hmem => (hall _ hmem).1 rfl, hnodup⟩, fun name hmem => (hall name hmem).2⟩
        · rintro ⟨⟨hnew, hnodup⟩, hall⟩
          refine ⟨hnodup, fun name hmem => ⟨?_, hall name hmem⟩⟩
          rintro rfl
          exact hnew hmem
      · rw [hadd]
        refine (if_neg fun hall => ?_).symm
        have hfree := hall.2 _ (List.mem_cons_self ..)
        rw [htaken] at hfree
        cases hfree

/-- Nodes that were entered into a directory are listed there under their names. -/
theorem addAll_perm {g g' : Graph} {dir : NodeId} {nodes : List NodeId}
    {children : Directory NodeId} (h : g.directory? dir = some children)
    (hadd : addAll g dir nodes = (.ok (), g')) :
    ∃ children', g'.directory? dir = some children' ∧
      children'.entries.Perm (children.entries ++ nodes.map fun n => (g.name n, n)) := by
  induction nodes generalizing g children with
  | nil =>
      obtain ⟨-, rfl⟩ := Prod.mk.inj hadd
      refine ⟨children, h, ?_⟩
      rw [List.map_nil, List.append_nil]
  | cons child rest ih =>
      rcases Graph.add_cases h child with ⟨g₁, hchild, hnew, hdirectory⟩ | ⟨hchild, _⟩
      · rw [addAll, hchild] at hadd
        obtain ⟨children', hchildren', hperm⟩ := ih hdirectory hadd
        refine ⟨children', hchildren', hperm.trans ?_⟩
        simp only [Graph.name_of_add hchild, List.map_cons]
        exact ((Directory.perm_insert hnew child).append_right _).trans List.perm_middle.symm
      · rw [addAll, hchild] at hadd
        cases (Prod.mk.inj hadd).1

/-- Nodes that were entered name the directory as their parent, and so do those that did before. -/
theorem link?_of_addAll {g g' : Graph} {dir n : NodeId} {nodes : List NodeId}
    (hadd : addAll g dir nodes = (.ok (), g')) (hhas : g.has n = true)
    (hn : n ∈ nodes ∨ g.link? n = some dir) : g'.link? n = some dir := by
  induction nodes generalizing g with
  | nil =>
      obtain ⟨-, rfl⟩ := Prod.mk.inj hadd
      exact hn.resolve_left List.not_mem_nil
  | cons child rest ih =>
      rw [addAll] at hadd
      cases hchild : g.add dir child with
      | error e =>
          rw [hchild] at hadd
          cases (Prod.mk.inj hadd).1
      | ok g₁ =>
          rw [hchild] at hadd
          refine ih hadd ((Graph.has_of_add hchild n).trans hhas) ?_
          rw [Graph.link?_of_add hchild]
          by_cases he : child = n
          · rw [if_pos ⟨he, hhas⟩]
            exact .inr rfl
          · rw [if_neg fun h => he h.1]
            exact hn.imp_left fun hmem => (List.mem_cons.1 hmem).resolve_left (Ne.symm he)

/-! ### Built-in devices -/

/-- The built-in devices of the device directory that is made next. -/
def builtIn (g : Graph) : List NodeId := [⟨g.nodes.next + 1⟩, ⟨g.nodes.next + 2⟩]

theorem newDevices_eq (g : Graph) : newDevices g = builtIn g := by
  rw [newDevices, builtIn, Graph.fresh, Graph.fresh, Graph.next_push, Graph.next_push,
    Graph.next_push]

theorem node?_builtIn (g : Graph) :
    (builtIn g).map (layOut g).node? = [some .newNull, some .newZero] := by
  rw [← newDevices_eq]
  exact (node?_layOut g).2

theorem names_builtIn (g : Graph) : (builtIn g).map (layOut g).name = ["null", "zero"] := by
  calc (builtIn g).map (layOut g).name
      = ((builtIn g).map (layOut g).node?).map fun node => (node.map Node.name).getD "" := by
        rw [List.map_map]
        rfl
    _ = ["null", "zero"] := by
        rw [node?_builtIn]
        rfl

theorem directory?_layOut (g : Graph) : (layOut g).directory? g.fresh = some .empty := by
  rw [Graph.directory?, Graph.content?, (node?_layOut g).1]
  rfl

/-- The built-in devices are entered: their names do not collide. -/
theorem addAll_builtIn (g : Graph) :
    addAll (layOut g) g.fresh (builtIn g) = (.ok (), (create g).2) := by
  have hfst := addAll_fst (directory?_layOut g) (builtIn g)
  rw [names_builtIn, if_pos ⟨by decide, fun _ _ => rfl⟩] at hfst
  rw [create_snd, newDevices_eq]
  exact Prod.ext hfst rfl

theorem name_create (g : Graph) (n : NodeId) : (create g).2.name n = (layOut g).name n := by
  rw [create_snd, name_addAll]

/-- A new device directory lists its built-in devices. -/
theorem create_perm (g : Graph) :
    ∃ children, (create g).2.directory? g.fresh = some children ∧
      children.entries.Perm ((builtIn g).map fun n => ((layOut g).name n, n)) :=
  addAll_perm (directory?_layOut g) (addAll_builtIn g)

/-- In a new device directory the names of the built-in devices are taken, and no others. -/
theorem contains_created {g : Graph} {children : Directory NodeId}
    (h : (create g).2.directory? g.fresh = some children) (name : String) :
    children.contains name = true ↔ name = "null" ∨ name = "zero" := by
  obtain ⟨created, hcreated, hperm⟩ := create_perm g
  obtain rfl := Option.some.inj (hcreated.symm.trans h)
  have hlisted : created.names.Perm ["null", "zero"] := by
    refine (hperm.map _).trans (.of_eq ?_)
    rw [List.map_map, ← names_builtIn]
    rfl
  rw [← Directory.mem_names_iff, hlisted.mem_iff]
  simp

/-! ### Further devices -/

/-- Laying a device directory out leaves the nodes there are in place, under their names. -/
theorem stable_layOut (g : Graph) : g.Stable (layOut g) :=
  .of_extends (continues_layOut g).extends

theorem createWith_fst (g : Graph) (devices : List NodeId) :
    (createWith g devices).1 =
      (addAll (create g).2 g.fresh devices).1.map fun _ => g.fresh := by
  rw [createWith]
  dsimp only
  split
  next hadd =>
    rw [show addAll (create g).2 g.fresh devices = _ from hadd]
    rfl
  next hadd =>
    rw [show addAll (create g).2 g.fresh devices = _ from hadd]
    rfl

/-- A device directory is made exactly if the names of the devices are distinct and those of the
built-in devices are not among them. -/
theorem createWith_answer {g : Graph} {devices : List NodeId}
    (hthere : ∀ n ∈ devices, g.has n = true) :
    (createWith g devices).1 =
      if (devices.map g.name).Nodup ∧ "null" ∉ devices.map g.name ∧ "zero" ∉ devices.map g.name then
        .ok g.fresh
      else .error .alreadyExists := by
  obtain ⟨children, hchildren, _⟩ := create_perm g
  have hnames : devices.map (create g).2.name = devices.map g.name :=
    List.map_congr_left fun n hn => (name_create g n).trans (stable_layOut g n (hthere n hn)).2.1
  have hfree : (∀ name ∈ devices.map g.name, children.contains name = false) ↔
      "null" ∉ devices.map g.name ∧ "zero" ∉ devices.map g.name := by
    simp only [← Bool.not_eq_true, contains_created hchildren, not_or]
    constructor
    · exact fun hall => ⟨fun hmem => (hall _ hmem).1 rfl, fun hmem => (hall _ hmem).2 rfl⟩
    · rintro ⟨hnull, hzero⟩ name hmem
      exact ⟨fun he => hnull (he ▸ hmem), fun he => hzero (he ▸ hmem)⟩
  rw [createWith_fst, addAll_fst hchildren, hnames]
  simp only [hfree]
  split <;> rfl

/-- A device directory that was made is the next new node, and all devices were entered. -/
theorem addAll_of_createWith {g g' : Graph} {dev : NodeId} {devices : List NodeId}
    (h : createWith g devices = (.ok dev, g')) :
    dev = g.fresh ∧ addAll (create g).2 g.fresh devices = (.ok (), g') := by
  have hfst := createWith_fst g devices
  have hsnd := createWith_snd g devices
  rw [h] at hfst hsnd
  generalize addAll (create g).2 g.fresh devices = call at hfst hsnd ⊢
  obtain ⟨answer, made⟩ := call
  cases answer with
  | error e => cases hfst
  | ok _ =>
      obtain rfl := Except.ok.inj hfst
      obtain rfl : g' = made := hsnd
      exact ⟨rfl, rfl⟩

section made

variable {g g' : Graph} {dev : NodeId} {devices : List NodeId}

theorem eq_of_createWith (h : createWith g devices = (.ok dev, g')) :
    g' = (addAll (create g).2 g.fresh devices).2 := by
  rw [← createWith_snd, h]

/-- Nodes keep the names that they were made with. -/
theorem name_of_createWith (h : createWith g devices = (.ok dev, g')) (n : NodeId) :
    g'.name n = (layOut g).name n := by
  rw [eq_of_createWith h, name_addAll, name_create]

/-- A device directory lists its built-in devices and those that it was made with. -/
theorem createWith_perm (h : createWith g devices = (.ok dev, g')) :
    ∃ children, g'.directory? dev = some children ∧
      children.entries.Perm ((builtIn g ++ devices).map fun n => (g'.name n, n)) := by
  obtain ⟨rfl, hadd⟩ := addAll_of_createWith h
  obtain ⟨created, hcreated, hperm⟩ := create_perm g
  obtain ⟨children, hchildren, hperm'⟩ := addAll_perm hcreated hadd
  refine ⟨children, hchildren, hperm'.trans ?_⟩
  simp only [name_of_createWith h, name_create, List.map_append]
  exact hperm.append_right _

theorem names_of_createWith (hthere : ∀ n ∈ devices, g.has n = true)
    (h : createWith g devices = (.ok dev, g')) :
    (builtIn g ++ devices).map g'.name = "null" :: "zero" :: devices.map g.name := by
  have hbuiltIn : (builtIn g).map g'.name = ["null", "zero"] := by
    rw [← names_builtIn]
    exact List.map_congr_left fun n _ => name_of_createWith h n
  have hdevices : devices.map g'.name = devices.map g.name :=
    List.map_congr_left fun n hn =>
      (name_of_createWith h n).trans (stable_layOut g n (hthere n hn)).2.1
  rw [List.map_append, hbuiltIn, hdevices]
  rfl

theorem has_created (hthere : ∀ n ∈ devices, g.has n = true) {n : NodeId}
    (hn : n ∈ builtIn g ++ devices) : (create g).2.has n = true := by
  have hlaidOut : (layOut g).has n = true := by
    rcases List.mem_append.1 hn with hbuiltIn | hdevice
    · exact (unlinked_newDevices (newDevices_eq g ▸ hbuiltIn)).1
    · exact (stable_layOut g).has (hthere n hdevice)
  rw [create_snd]
  exact (stable_addAll _ _ _).has hlaidOut

/-- The built-in devices and the others are found under their names and linked to the directory. -/
theorem seated_of_createWith (hthere : ∀ n ∈ devices, g.has n = true)
    (h : createWith g devices = (.ok dev, g')) {n : NodeId} (hn : n ∈ builtIn g ++ devices) :
    g'.lookup dev (g'.name n) = .ok n ∧ g'.parent? n = some dev := by
  obtain ⟨children, hchildren, hperm⟩ := createWith_perm h
  obtain ⟨rfl, hadd⟩ := addAll_of_createWith h
  refine ⟨Graph.lookup_of_mem hchildren (hperm.mem_iff.2 (List.mem_map_of_mem hn)), ?_⟩
  have hentered : n ∈ devices ∨ (create g).2.link? n = some g.fresh := by
    refine (List.mem_append.1 hn).symm.imp_right fun hbuiltIn => ?_
    have hhas : (layOut g).has n = true := (unlinked_newDevices (newDevices_eq g ▸ hbuiltIn)).1
    exact link?_of_addAll (addAll_builtIn g) hhas (.inl hbuiltIn)
  rw [Graph.parent?, link?_of_addAll hadd (has_created hthere hn) hentered, Option.filter_some,
    if_pos (Graph.has_of_directory? hchildren)]

/-- What a device directory shows that was made with a list of devices. -/
structure Furnished (g : Graph) (devices : List NodeId) (dev : NodeId) (g' : Graph) : Prop where
  /-- It lists `null`, `zero` and the names of the devices, in byte order. -/
  listing : ∃ lines : List Line, (∀ i, g'.lineAt dev i = .ok lines[i]?) ∧
    (lines.map Line.name).Perm ("null" :: "zero" :: devices.map g.name) ∧
    (lines.map Line.name).Pairwise Name.Before
  /-- A line is of the kind of the node under its name. -/
  kinds : ∀ i line, g'.lineAt dev i = .ok (some line) →
    ∃ n, g'.lookup dev line.name = .ok n ∧ line.kind = g'.kind n
  /-- The devices are there under their names, and the directory is their parent. -/
  devices : ∀ n ∈ devices, g'.lookup dev (g.name n) = .ok n ∧ g'.parent? n = some dev
  /-- So are new built-in devices. -/
  builtIn : ∀ device ∈ [("null", Content.null), ("zero", Content.zero)],
    ∃ n, g'.lookup dev device.1 = .ok n ∧ g'.parent? n = some dev ∧
      g'.content? n = some device.2 ∧ g.has n = false

theorem kind_of_createWith (h : createWith g devices = (.ok dev, g')) {n : NodeId}
    (hhas : (create g).2.has n = true) : g'.kind n = (create g).2.kind n := by
  rw [eq_of_createWith h]
  exact (stable_addAll _ g.fresh devices n hhas).2.2

/-- A new built-in device is entered as it was laid out. -/
theorem seated_of_layOut (hthere : ∀ n ∈ devices, g.has n = true)
    (h : createWith g devices = (.ok dev, g')) {n : NodeId} (hn : n ∈ builtIn g) {node : Node}
    (hnode : (layOut g).node? n = some node) :
    g'.lookup dev node.name = .ok n ∧ g'.parent? n = some dev ∧
      g'.content? n = some node.content ∧ g.has n = false := by
  have hname : g'.name n = node.name := by
    rw [name_of_createWith h, Graph.name, hnode]
    rfl
  have hnew : g.nodes.next < n.index := by
    simp only [builtIn, List.mem_cons, List.not_mem_nil, or_false] at hn
    rcases hn with rfl | rfl
    · exact Nat.lt_succ_self _
    · exact Nat.lt_succ_of_lt (Nat.lt_succ_self _)
  have hne : n ≠ g.fresh := by
    rintro rfl
    exact Nat.lt_irrefl _ hnew
  have hcontent : g'.content? n = (layOut g).content? n := by
    rw [eq_of_createWith h, content?_addAll_of_ne hne, create_snd, content?_addAll_of_ne hne]
  obtain ⟨hlookup, hparent⟩ := seated_of_createWith hthere h (List.mem_append_left devices hn)
  refine ⟨hname ▸ hlookup, hparent, ?_, ?_⟩
  · rw [hcontent, Graph.content?, hnode]
    rfl
  · refine Bool.eq_false_iff.2 fun hhas => ?_
    exact Nat.lt_asymm hnew (Graph.Issued.of_has hhas)

theorem furnished_of_createWith (hthere : ∀ n ∈ devices, g.has n = true)
    (h : createWith g devices = (.ok dev, g')) : Furnished g devices dev g' := by
  obtain ⟨children, hchildren, hperm⟩ := createWith_perm h
  have hnames := names_of_createWith hthere h
  have hlines : (children.entries.map fun entry => (⟨entry.1, g'.kind entry.2⟩ : Line)).map
      Line.name = children.names := by
    rw [List.map_map]
    rfl
  refine ⟨⟨_, fun i => ?_, ?_, hlines ▸ children.names_sorted⟩, fun i line hline => ?_,
    fun n hn => ?_, fun device hdevice => ?_⟩
  · rw [Graph.lineAt_of_directory? hchildren, List.getElem?_map]
    rfl
  · rw [hlines, ← hnames]
    refine (hperm.map _).trans (.of_eq ?_)
    rw [List.map_map]
    rfl
  · rw [Graph.lineAt_of_directory? hchildren] at hline
    obtain ⟨entry, hentry, rfl⟩ := Option.map_eq_some_iff.1 (Except.ok.inj hline)
    exact ⟨entry.2, Graph.lookup_of_mem hchildren (List.mem_of_getElem? hentry), rfl⟩
  · rw [← (name_of_createWith h n).trans (stable_layOut g n (hthere n hn)).2.1]
    exact seated_of_createWith hthere h (List.mem_append_right _ hn)
  · have hnodes := node?_builtIn g
    obtain ⟨hnull, hrest⟩ := List.cons.inj hnodes
    obtain ⟨hzero, -⟩ := List.cons.inj hrest
    rcases List.mem_cons.1 hdevice with rfl | hdevice
    · exact ⟨_, seated_of_layOut hthere h (List.mem_cons_self ..) hnull⟩
    · obtain rfl := List.mem_singleton.1 hdevice
      exact ⟨_, seated_of_layOut hthere h (List.mem_cons_of_mem _ (List.mem_cons_self ..)) hzero⟩

/-- Entered in another order, the same devices make the same directory. -/
theorem directory?_of_perm {devices' : List NodeId} {g'' : Graph}
    (hdevices : devices.Perm devices') (h : createWith g devices = (.ok dev, g'))
    (h' : createWith g devices' = (.ok dev, g'')) : g''.directory? dev = g'.directory? dev := by
  obtain ⟨children, hchildren, hperm⟩ := createWith_perm h
  obtain ⟨children', hchildren', hperm'⟩ := createWith_perm h'
  simp only [name_of_createWith h] at hperm
  simp only [name_of_createWith h'] at hperm'
  have hentries : children'.entries.Perm children.entries :=
    (hperm'.trans ((hdevices.symm.append_left _).map _)).trans hperm.symm
  rw [hchildren, hchildren']
  exact congrArg some (Directory.ext_entries
    (Directory.eq_of_perm children'.sorted children.sorted hentries))

/-- What a directory lists is up to its children and their kinds. -/
theorem lineAt_of_perm {devices' : List NodeId} {g'' : Graph}
    (hthere : ∀ n ∈ devices, g.has n = true) (hdevices : devices.Perm devices')
    (h : createWith g devices = (.ok dev, g')) (h' : createWith g devices' = (.ok dev, g''))
    (i : Nat) : g''.lineAt dev i = g'.lineAt dev i := by
  obtain ⟨children, hchildren, hperm⟩ := createWith_perm h
  have hchildren' := (directory?_of_perm hdevices h h').trans hchildren
  rw [Graph.lineAt_of_directory? hchildren, Graph.lineAt_of_directory? hchildren']
  cases hentry : children.nth? i with
  | none => rfl
  | some entry =>
      have hmem := hperm.mem_iff.1 (List.mem_of_getElem? hentry)
      obtain ⟨n, hn, rfl⟩ := List.mem_map.1 hmem
      have hhas := has_created hthere hn
      simp only [Option.map_some, kind_of_createWith h hhas, kind_of_createWith h' hhas]

end made

/-- **Device lists.**  A device directory is made with a list of devices exactly if no two of them
have the same name and none is called `null` or `zero`; otherwise the answer is that a name exists
already.  What is made shows these devices and the built-in ones, and no others.  In another order
the devices are taken or refused alike, and what is made lists and finds the same. -/
theorem takes_distinct_free_names {g : Graph} {devices : List NodeId}
    (hthere : ∀ n ∈ devices, g.has n = true) :
    let names := devices.map g.name
    let made := createWith g devices
    ((∃ dev, made.1 = .ok dev) ↔ names.Nodup ∧ "null" ∉ names ∧ "zero" ∉ names) ∧
    (¬ (names.Nodup ∧ "null" ∉ names ∧ "zero" ∉ names) → made.1 = .error .alreadyExists) ∧
    (∀ dev, made.1 = .ok dev → g.has dev = false ∧ Furnished g devices dev made.2) ∧
    ∀ devices', devices.Perm devices' →
      (createWith g devices').1 = made.1 ∧
      ∀ dev, made.1 = .ok dev →
        (∀ i, (createWith g devices').2.lineAt dev i = made.2.lineAt dev i) ∧
        ∀ name, (createWith g devices').2.lookup dev name = made.2.lookup dev name := by
  intro names made
  have hanswer : made.1 = if names.Nodup ∧ "null" ∉ names ∧ "zero" ∉ names then .ok g.fresh
      else .error .alreadyExists := createWith_answer hthere
  have hmade : ∀ dev, made.1 = .ok dev → createWith g devices = (.ok dev, made.2) :=
    fun dev hdev => Prod.ext hdev rfl
  refine ⟨⟨?_, fun hnames => ?_⟩, fun hnames => ?_, fun dev hdev => ⟨?_, ?_⟩,
    fun devices' hperm => ?_⟩
  · rintro ⟨dev, hdev⟩
    by_contra hnames
    rw [hanswer, if_neg hnames] at hdev
    cases hdev
  · exact ⟨g.fresh, hanswer.trans (if_pos hnames)⟩
  · exact hanswer.trans (if_neg hnames)
  · obtain ⟨rfl, -⟩ := addAll_of_createWith (hmade dev hdev)
    exact Bool.eq_false_iff.2 fun hhas => Graph.not_issued_fresh g (.of_has hhas)
  · exact furnished_of_createWith hthere (hmade dev hdev)
  · have hthere' : ∀ n ∈ devices', g.has n = true := fun n hn => hthere n (hperm.mem_iff.2 hn)
    have hnames : (devices'.map g.name).Perm names := (hperm.map _).symm
    have hsame : (createWith g devices').1 = made.1 := by
      rw [createWith_answer hthere', hanswer]
      simp only [hnames.nodup_iff, hnames.mem_iff]
    refine ⟨hsame, fun dev hdev => ?_⟩
    have hmade' : createWith g devices' = (.ok dev, (createWith g devices').2) :=
      Prod.ext (hsame.trans hdev) rfl
    refine ⟨lineAt_of_perm hthere hperm (hmade dev hdev) hmade', fun name => ?_⟩
    obtain ⟨children, hchildren, -⟩ := createWith_perm (hmade dev hdev)
    rw [Graph.lookup_of_directory? hchildren, Graph.lookup_of_directory?
      ((directory?_of_perm hperm (hmade dev hdev) hmade').trans hchildren)]

end DeviceDir

/-! ### Two disks, in either order, and one too many -/

namespace DeviceListExample

/-- Two disks of different names, and a second one called `é`. -/
def graph : Graph :=
  ((Graph.empty.push (.newImage "é" [])).push (.newImage "mem" [1])).push (.newImage "é" [2])

/-- Two disks are taken and found, whichever is given first, and the second `é` is refused. -/
theorem disks_are_taken :
    ((∀ n ∈ [⟨0⟩, ⟨1⟩], graph.has n = true) ∧ ∀ n ∈ [⟨0⟩, ⟨1⟩, ⟨2⟩], graph.has n = true) ∧
      (DeviceDir.createWith graph [⟨0⟩, ⟨1⟩]).1 = .ok ⟨3⟩ ∧
      (DeviceDir.createWith graph [⟨0⟩, ⟨1⟩]).2.lookup ⟨3⟩ "é" = .ok ⟨0⟩ ∧
      (DeviceDir.createWith graph [⟨1⟩, ⟨0⟩]).2.lookup ⟨3⟩ "é" = .ok ⟨0⟩ ∧
      (DeviceDir.createWith graph [⟨0⟩, ⟨1⟩, ⟨2⟩]).1 = .error .alreadyExists := by
  have htwo : ∀ n ∈ [⟨0⟩, ⟨1⟩], graph.has n = true := by decide
  have hthree : ∀ n ∈ [⟨0⟩, ⟨1⟩, ⟨2⟩], graph.has n = true := by decide
  obtain ⟨-, -, hmade, horder⟩ := DeviceDir.takes_distinct_free_names htwo
  obtain ⟨-, hrefused, -⟩ := DeviceDir.takes_distinct_free_names hthree
  have hdev : (DeviceDir.createWith graph [⟨0⟩, ⟨1⟩]).1 = .ok ⟨3⟩ := rfl
  have hfound : (DeviceDir.createWith graph [⟨0⟩, ⟨1⟩]).2.lookup ⟨3⟩ "é" = .ok ⟨0⟩ :=
    ((hmade _ hdev).2.devices ⟨0⟩ (List.mem_cons_self ..)).1
  refine ⟨⟨htwo, hthree⟩, hdev, hfound, ?_, hrefused (by decide)⟩
  obtain ⟨-, hsame⟩ := horder [⟨1⟩, ⟨0⟩] (.swap ..)
  exact ((hsame _ hdev).2 "é").trans hfound

end DeviceListExample

end VolumeService
