import VolumeService.Proofs.Membership
import VolumeService.Proofs.MountNames

/-! # The earliest volume of a name

Names of volumes need not differ, and whoever asks for one by name gets the one that was mounted
first.

* **Namesakes** (`MountTable.namesakes`) are the volumes of a name in mount order.  A search finds
  the first of them (`named?_eq_some_iff`), an unmount takes out the first of them
  (`unmount_of_named?`), and a path that starts with the name goes on from where the first of them
  is mounted, even if that is nowhere (`resolve_of_components_cons`).
* **The queue.**  So unmounting a name again and again brings its namesakes in mount order and then
  fails (`handleAll_replicate_unmount`).
* **Reserved components.**  A walk takes `.` and `..` for itself, and so they stand for no volume
  in a path, although volumes may have these names
  (`FirstOfNameExample.volume_dot_is_passed_by`). -/

namespace VolumeService

namespace MountTable

/-- The volumes of a name in mount order. -/
def namesakes (t : MountTable) (name : String) : List VolumeHandle :=
  t.volumes.filter fun v => decide (v.name = name)

/-! ### Who is found -/

/-- The volume that a search finds is at the least position among those of its name. -/
theorem named?_eq_some_iff {t : MountTable} {name : String} {v : VolumeHandle} :
    t.named? name = some v ↔ ∃ i : Nat, t.volumes[i]? = some v ∧ v.name = name ∧
      ∀ j < i, ∀ u : VolumeHandle, t.volumes[j]? = some u → u.name ≠ name := by
  rw [named?, List.find?_eq_some_iff_getElem]
  simp only [decide_eq_true_eq, Bool.not_eq_true', decide_eq_false_iff_not]
  constructor
  · rintro ⟨hname, i, hi, hv, hbefore⟩
    refine ⟨i, List.getElem?_eq_some_iff.2 ⟨hi, hv⟩, hname, fun j hj u hu => ?_⟩
    obtain ⟨_, rfl⟩ := List.getElem?_eq_some_iff.1 hu
    exact hbefore j hj
  · rintro ⟨i, hv, hname, hbefore⟩
    obtain ⟨hi, hv⟩ := List.getElem?_eq_some_iff.1 hv
    exact ⟨hname, i, hi, hv, fun j hj =>
      hbefore j hj _ (List.getElem?_eq_getElem (Nat.lt_trans hj hi))⟩

theorem head?_namesakes (t : MountTable) (name : String) :
    (t.namesakes name).head? = t.named? name := by
  rw [namesakes, named?, List.head?_filter]

theorem without_eq_self {t : MountTable} {name : String} (h : t.named? name = none) :
    t.without name = t := by
  have hall : t.volumes.filter (fun v => decide (v.name ≠ name)) = t.volumes :=
    List.filter_eq_self.2 fun v hv => decide_eq_true (named?_eq_none_iff.1 h v hv)
  rw [without, hall]

variable {σ : Type}

/-- Unmounting a name that no volume has fails and changes nothing but the log. -/
theorem unmount_of_named?_eq_none {t : MountTable} {name : String} (h : t.named? name = none)
    (w : World σ) :
    t.unmount w name = (.error .noSuchVolume, t, w.notify (.noSuchVolume name)) := by
  have hnone : t.removeFirst? w (fun u => decide (u.name = name)) = none :=
    congrArg (Option.map _) h
  rw [unmount, hnone]

/-- Unmounting takes the first of the namesakes out of the list, and only its id away. -/
theorem unmount_of_named? {t : MountTable} {name : String} {v : VolumeHandle}
    (h : t.named? name = some v) (w : World σ) :
    ∃ before after w', t.volumes = before ++ v :: after ∧ (∀ u ∈ before, u.name ≠ name) ∧
      t.unmount w name = (.ok v, { t with volumes := before ++ after }, w') ∧
      ∀ u, w'.idOf u = if v.Same u then none else w.idOf u := by
  have hsome : t.removeFirst? w (fun u => decide (u.name = name)) =
      some (v, { t with volumes := t.volumes.eraseP fun u => decide (u.name = name) },
        w.clearId v) := congrArg (Option.map _) h
  obtain ⟨before, after, hsplit, hbefore, _, ht, _⟩ := split_of_removeFirst? hsome
  obtain ⟨w', hunmount, _, hcells, _⟩ := unmount_of_removeFirst? hsome
  refine ⟨before, after, w', hsplit, fun u hu => of_decide_eq_false (hbefore u hu), ?_, fun u => ?_⟩
  · rw [hunmount, ht]
  · rw [World.idOf, World.cell?, hcells]
    exact w.idOf_clearId v u

/-- An unmount answers what a search finds. -/
theorem unmount_fst (t : MountTable) (w : World σ) (name : String) :
    (t.unmount w name).1 =
      match t.named? name with
      | some v => .ok v
      | none => .error .noSuchVolume := by
  cases hfound : t.named? name with
  | none => rw [unmount_of_named?_eq_none hfound]
  | some v =>
      obtain ⟨_, _, _, _, _, hunmount, _⟩ := unmount_of_named? hfound w
      rw [hunmount]

/-- A path that starts with a name goes on from the mount point of the first volume of that name,
and from the child of the root if no volume has the name or the first one is mounted nowhere. -/
theorem resolve_of_components_cons (t : MountTable) (g : Graph) {path name : String}
    {rest : List String} (habsolute : Path.isAbsolute path = true)
    (hpath : Path.components path = name :: rest) (hdot : name ≠ ".") (hdotdot : name ≠ "..") :
    t.resolve g path =
      match (t.named? name).bind fun v => v.volume.mountPoint with
      | some mountPoint => Namespace.walk g.parent? (t.enter g) mountPoint rest
      | none => (g.lookup t.root name).bind fun n =>
          Namespace.walk g.parent? (t.enter g) n rest := by
  rw [resolve, if_pos habsolute, hpath, Namespace.walk, if_neg hdot, if_neg hdotdot]
  change _ = match t.mountPoint? name with | some _ => _ | none => _
  cases hmount : t.mountPoint? name with
  | some mountPoint => rw [enter_root_of_mountPoint? hmount]
  | none =>
      rw [enter_of_mountPoint?_eq_none hmount]
      cases g.lookup t.root name <;> rfl

/-- A path that starts with a reserved component asks for no volume. -/
theorem resolve_of_components_reserved (t : MountTable) (g : Graph) {path name : String}
    {rest : List String} (habsolute : Path.isAbsolute path = true)
    (hpath : Path.components path = name :: rest) :
    (name = "." → t.resolve g path = Namespace.walk g.parent? (t.enter g) t.root rest) ∧
    (name = ".." → t.resolve g path =
      Namespace.walk g.parent? (t.enter g) ((g.parent? t.root).getD t.root) rest) := by
  rw [resolve, if_pos habsolute, hpath]
  constructor
  · rintro rfl
    exact Namespace.walk_dot ..
  · rintro rfl
    exact Namespace.walk_dotdot ..

/-! ### Unmounting a name again and again -/

variable [DriverModel σ]

/-- Unmounting a name once more than there are volumes of it brings these in mount order and then
fails.  The other volumes stay listed, in their order and with their ids. -/
theorem handleAll_replicate_unmount {t : MountTable}
    (hnodup : (t.volumes.map VolumeHandle.cell).Nodup) (w : World σ) (name : String) :
    let run := t.handleAll w (List.replicate ((t.namesakes name).length + 1) (.unmount name))
    run.1 = (t.namesakes name).map (fun v => Reply.volume (.ok v)) ++
        [.volume (.error .noSuchVolume)] ∧
      run.2.1 = t.without name ∧
      ∀ u ∈ t.volumes, u.name ≠ name → run.2.2.idOf u = w.idOf u := by
  induction hqueue : t.namesakes name generalizing t w with
  | nil =>
      have hnone : t.named? name = none := by rw [← head?_namesakes, hqueue, List.head?_nil]
      simp only [List.length_nil, List.replicate_succ, List.replicate_zero, handleAll, handle,
        unmount_of_named?_eq_none hnone]
      exact ⟨rfl, (without_eq_self hnone).symm, fun _ _ _ => rfl⟩
  | cons v later ih =>
      have hfirst : t.named? name = some v := by rw [← head?_namesakes, hqueue, List.head?_cons]
      obtain ⟨before, after, w', hsplit, hbefore, hunmount, hids⟩ := unmount_of_named? hfirst w
      have hname : v.name = name := name_of_named? hfirst
      -- without the first of the namesakes, the others wait in the same order
      have hlater :
          ({ t with volumes := before ++ after } : MountTable).namesakes name = later := by
        have hnil : before.filter (fun u => decide (u.name = name)) = [] := by
          simpa using hbefore
        rw [namesakes, hsplit, List.filter_append, hnil, List.nil_append,
          List.filter_cons_of_pos (by simpa using hname)] at hqueue
        rw [namesakes, List.filter_append, hnil, List.nil_append, List.tail_eq_of_cons_eq hqueue]
      have hwithout : ({ t with volumes := before ++ after } : MountTable).without name =
          t.without name := by
        simp [without, hsplit, hname]
      have hsub : (before ++ after).Sublist t.volumes := by
        rw [hsplit]
        exact (List.sublist_cons_self v after).append_left before
      obtain ⟨hreplies, htable, hrest⟩ := ih (hnodup.sublist (hsub.map _)) w' hlater
      rw [List.length_cons, List.replicate_succ, handleAll, handle, hunmount]
      refine ⟨?_, ?_, fun u hu hne => ?_⟩
      · exact congrArg (Reply.volume (.ok v) :: ·) hreplies
      · exact htable.trans hwithout
      · have hmem : u ∈ before ++ after := by
          have huv : u ≠ v := fun he => hne (he ▸ hname)
          simpa [hsplit, huv] using hu
        have hother : ¬ v.Same u := fun hsame =>
          hne (List.inj_on_of_nodup_map hnodup (mem_volumes_of_named? hfirst) hu hsame ▸ hname)
        exact (hrest u hmem hne).trans ((hids u).trans (if_neg hother))

end MountTable

/-! ### In every state of a system -/

/-- In every state that a system can come to, all operations by name pick the same volume of a
table: the one at the least position among those of the name.  A search and an unmount answer it,
and a path that starts with the name goes on from its mount point, or from the child of the root if
it has none; only `.` and `..` stand in a path for the node itself and its parent.  Unmounting the
name again and again brings its volumes in mount order and then fails, and the others stay as they
are. -/
theorem Census.earliest_of_name [DriverModel σ] (moves : List (System.Move σ)) {target : Target}
    {t : MountTable} (ht : (({} : Census σ).run moves).system.tableOf target = some t)
    (name : String) :
    let w := (({} : Census σ).run moves).system.world
    (∀ v, (t.find w name).1 = some v ↔ ∃ i : Nat, t.volumes[i]? = some v ∧ v.name = name ∧
      ∀ j < i, ∀ u : VolumeHandle, t.volumes[j]? = some u → u.name ≠ name) ∧
    ((t.find w name).1 = none ↔ ∀ v ∈ t.volumes, v.name ≠ name) ∧
    (t.unmount w name).1 =
      (match (t.find w name).1 with
        | some v => .ok v
        | none => .error .noSuchVolume) ∧
    (∀ (path : String) (rest : List String), Path.isAbsolute path = true →
      Path.components path = name :: rest → name ≠ "." → name ≠ ".." →
      t.resolve w.graph path =
        match (t.find w name).1.bind fun v => v.volume.mountPoint with
        | some mountPoint => Namespace.walk w.graph.parent? (t.enter w.graph) mountPoint rest
        | none => (w.graph.lookup t.root name).bind fun n =>
            Namespace.walk w.graph.parent? (t.enter w.graph) n rest) ∧
    (∀ (path : String) (rest : List String), Path.isAbsolute path = true →
      Path.components path = name :: rest →
      (name = "." →
        t.resolve w.graph path = Namespace.walk w.graph.parent? (t.enter w.graph) t.root rest) ∧
      (name = ".." →
        t.resolve w.graph path = Namespace.walk w.graph.parent? (t.enter w.graph)
          ((w.graph.parent? t.root).getD t.root) rest)) ∧
    let run := t.handleAll w (List.replicate ((t.namesakes name).length + 1) (.unmount name))
    run.1 = (t.namesakes name).map (fun v => Reply.volume (.ok v)) ++
        [.volume (.error .noSuchVolume)] ∧
      run.2.1 = t.without name ∧
      ∀ u ∈ t.volumes, u.name ≠ name → run.2.2.idOf u = w.idOf u := by
  intro w
  have hsound : (({} : Census σ).run moves).Sound := sound_run sound_empty moves
  have hnodup : (t.volumes.map VolumeHandle.cell).Nodup := by
    rw [← System.volumesOf_eq ht]
    exact hsound.nodup (some target)
  exact ⟨fun v => t.named?_eq_some_iff, t.named?_eq_none_iff, t.unmount_fst w name,
    fun path rest habsolute hpath hdot hdotdot =>
      t.resolve_of_components_cons w.graph habsolute hpath hdot hdotdot,
    fun path rest habsolute hpath => t.resolve_of_components_reserved w.graph habsolute hpath,
    t.handleAll_replicate_unmount hnodup w name⟩

/-! ### Two volumes of one name, and one called `.` -/

namespace FirstOfNameExample

/-- A root and a directory of a name. -/
def graph (name : String) : Graph :=
  (Graph.empty.push (.newDirectory "/")).push (.newDirectory name)

/-- A table over the root gets volumes. -/
def moves (name : String) (volumes : List Volume) : List (System.Move ScriptedDriver) :=
  .deed (.setGraph (graph name)) :: .openTable ⟨0⟩ ⟨[]⟩ ::
    volumes.map fun volume => .ask (.table ⟨0⟩) (.register volume)

/-- Two volumes are called `data`, and the later one is mounted. -/
def twins : List (System.Move ScriptedDriver) :=
  moves "data" [.treeless "fat" "data", .treeless "fat" "logs", ⟨"fat", "data", some ⟨1⟩⟩]

def twinTable : MountTable :=
  { MountTable.create ⟨0⟩ ⟨[]⟩ with
    volumes := [⟨.treeless "fat" "data", ⟨0⟩⟩, ⟨.treeless "fat" "logs", ⟨1⟩⟩,
      ⟨⟨"fat", "data", some ⟨1⟩⟩, ⟨2⟩⟩]
    nextId := VolumeId.first.advance 3 }

/-- The earlier one is found and unmounted, and its name does not lead to the later one. -/
theorem earlier_twin_is_picked :
    let w := (({} : Census ScriptedDriver).run twins).system.world
    (({} : Census ScriptedDriver).run twins).system.tableOf (.table ⟨0⟩) = some twinTable ∧
    (twinTable.unmount w "data").1 = .ok ⟨.treeless "fat" "data", ⟨0⟩⟩ ∧
    twinTable.resolve w.graph "/data" = .error .notFound := by
  intro w
  have htable : (({} : Census ScriptedDriver).run twins).system.tableOf (.table ⟨0⟩) =
      some twinTable := rfl
  obtain ⟨_, _, hunmount, hpath, _⟩ := Census.earliest_of_name twins htable "data"
  refine ⟨htable, hunmount, ?_⟩
  rw [hpath "/data" [] (by decide) (by decide) (by decide) (by decide)]
  rfl

/-- A volume is called `.`, and it is mounted. -/
def reserved : List (System.Move ScriptedDriver) := moves "." [⟨"fat", ".", some ⟨1⟩⟩]

def reservedTable : MountTable :=
  { MountTable.create ⟨0⟩ ⟨[]⟩ with
    volumes := [⟨⟨"fat", ".", some ⟨1⟩⟩, ⟨0⟩⟩]
    nextId := VolumeId.first.next }

/-- It is found under its name, and the path `/.` leads to the root instead of its mount point. -/
theorem volume_dot_is_passed_by :
    let w := (({} : Census ScriptedDriver).run reserved).system.world
    (({} : Census ScriptedDriver).run reserved).system.tableOf (.table ⟨0⟩) =
      some reservedTable ∧
    (reservedTable.find w ".").1 = some ⟨⟨"fat", ".", some ⟨1⟩⟩, ⟨0⟩⟩ ∧
    Path.components "/." = ["."] ∧
    reservedTable.resolve w.graph "/." = .ok ⟨0⟩ := by
  refine ⟨rfl, rfl, ?_, rfl⟩
  decide

end FirstOfNameExample

end VolumeService
