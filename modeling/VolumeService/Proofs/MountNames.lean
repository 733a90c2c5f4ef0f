import VolumeService.Driver.Scripted
import VolumeService.MountTable.Request

/-! # Under which names mounted volumes are reached

Volumes may have any name, paths are made of components, and so not every name can be walked to.

* **Plain names** (`Path.Plain`).  The path of a slash and a plain name leads to the mount point of
  the earliest volume of that name.
* **Other names** are empty, contain a slash, or are `.` or `..`.  No walk enters such a name, so
  the same path leads where it would lead if no volume had that name
  (`resolve_without_of_not_plain`).
* Both together: `reached_under_own_name`.  That mounting accepts names which are not plain is shown
  by `volume_with_slash_is_not_reached`. -/

namespace VolumeService

namespace MountTable

/-- The table without the volumes of a name. -/
def without (t : MountTable) (name : String) : MountTable :=
  { t with volumes := t.volumes.filter fun v => decide (v.name ≠ name) }

theorem mountPoint?_without_of_ne (t : MountTable) {name other : String} (h : other ≠ name) :
    (t.without name).mountPoint? other = t.mountPoint? other := by
  have hfind : (t.without name).named? other = t.named? other := by
    unfold named? without
    rw [List.find?_filter]
    congr 1
    funext v
    by_cases hv : v.name = other <;> simp [hv, h]
  rw [mountPoint?, hfind, mountPoint?]

/-- The volumes of a name make no difference to paths without that name among the components that
are entered. -/
theorem resolve_without (t : MountTable) (g : Graph) {path name : String}
    (h : ∀ component ∈ Path.components path, component ≠ "." → component ≠ ".." →
      component ≠ name) :
    (t.without name).resolve g path = t.resolve g path := by
  have henter : ∀ n, True → ∀ component ∈ Path.components path, component ≠ "." →
      component ≠ ".." → (t.without name).enter g n component = t.enter g n component := by
    intro n _ component hmem hdot hdotdot
    have hne := h component hmem hdot hdotdot
    rw [enter, mountPoint?_without_of_ne t hne]
    rfl
  unfold resolve
  split
  · exact Namespace.walk_congr (fun _ _ _ _ => trivial) (fun _ _ _ _ _ => trivial)
      (fun _ _ => rfl) henter trivial
  · rfl

/-- A name that is not plain is entered by no walk. -/
theorem resolve_without_of_not_plain (t : MountTable) (g : Graph) {name : String}
    (h : ¬ Path.Plain name) (path : String) :
    (t.without name).resolve g path = t.resolve g path := by
  refine t.resolve_without g fun component hmem hdot hdotdot => ?_
  rintro rfl
  obtain ⟨hne, hslash⟩ := Path.slash_notMem_of_mem_components hmem
  exact h ⟨hne, hslash, hdot, hdotdot⟩

/-- A plain name leads from the root to the mount point that it stands for. -/
theorem resolve_slash_of_plain {t : MountTable} {name : String} (hname : Path.Plain name)
    {n : NodeId} (h : t.mountPoint? name = some n) (g : Graph) :
    t.resolve g ("/" ++ name) = .ok n := by
  have ⟨_, _, hdot, hdotdot⟩ := hname
  rw [resolve, if_pos (Path.isAbsolute_slash name), Path.components_slash_of_plain hname,
    Namespace.walk, if_neg hdot, if_neg hdotdot, enter_root_of_mountPoint? h]
  rfl

/-- The path of a slash and the name of a mounted volume, the earliest of that name, leads to its
mount point if the name is plain; otherwise it leads where it would lead without any volume of that
name. -/
theorem reached_under_own_name (t : MountTable) (g : Graph) {v : VolumeHandle} {n : NodeId}
    (hv : t.named? v.name = some v) (hn : v.volume.mountPoint = some n) :
    (Path.Plain v.name → t.resolve g ("/" ++ v.name) = .ok n) ∧
    (¬ Path.Plain v.name →
      t.resolve g ("/" ++ v.name) = (t.without v.name).resolve g ("/" ++ v.name)) := by
  have hmounted : t.mountPoint? v.name = some n := by
    rw [mountPoint?, hv]
    exact hn
  exact ⟨fun hplain => resolve_slash_of_plain hplain hmounted g,
    fun hplain => (t.resolve_without_of_not_plain g hplain _).symm⟩

end MountTable

/-! ### A volume under a plain name and one under a name with a slash -/

namespace MountNameExample

/-- A root, a device, and a driver that mounts everything on a new directory. -/
def world : World ScriptedDriver where
  graph := (Graph.empty.push (.newDirectory "/")).push (.newImage "disk" [])
  drivers := Store.empty.push { format := "fat", identify := .always, mount := .directory }

def table : MountTable := .create ⟨0⟩ ⟨[⟨"fat", ⟨0⟩⟩]⟩

/-- What mounting the device under a name brings. -/
def mounted (name : String) : Reply × MountTable × World ScriptedDriver :=
  table.handle world (.mount ⟨1⟩ (some name))

/-- The volume that it brings. -/
def volume (name : String) : VolumeHandle := ⟨⟨"fat", name, some ⟨2⟩⟩, ⟨0⟩⟩

/-- The volume `data` is reached at `/data`. -/
theorem volume_data_is_reached :
    (mounted "data").2.1.named? "data" = some (volume "data") ∧ Path.Plain "data" ∧
      (mounted "data").2.1.resolve (mounted "data").2.2.graph "/data" = .ok ⟨2⟩ := by
  have hnamed : (mounted "data").2.1.named? (volume "data").name = some (volume "data") := rfl
  have hplain : Path.Plain "data" := by decide
  have hreached :=
    (mounted "data").2.1.reached_under_own_name (mounted "data").2.2.graph hnamed rfl
  exact ⟨hnamed, hplain, hreached.1 hplain⟩

/-- A mount accepts the name `a/b`, and `/a/b` does not lead to the volume. -/
theorem volume_with_slash_is_not_reached :
    (mounted "a/b").1 = .volume (.ok (volume "a/b")) ∧
      (mounted "a/b").2.1.named? "a/b" = some (volume "a/b") ∧
      (volume "a/b").volume.mountPoint = some ⟨2⟩ ∧
      (mounted "a/b").2.1.resolve (mounted "a/b").2.2.graph "/a/b" = .error .notFound :=
  ⟨rfl, rfl, rfl, rfl⟩

end MountNameExample

end VolumeService
