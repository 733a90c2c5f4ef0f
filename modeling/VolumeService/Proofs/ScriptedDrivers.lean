import VolumeService.Driver.Scripted
import VolumeService.Proofs.Consultation

/-! # Scripted drivers keep to themselves

A scripted driver without effects (`Quiet`) changes nothing that was made before it is asked:
what it builds is made of new nodes (`onNewDirectory_continues`), and nothing else that it does
touches the graph.  So quiet drivers keep all that was ever made (`keeps_quiet`) and are confined
(`confined_quiet`). -/

namespace VolumeService

variable {g₀ g g' : Graph}

theorem Graph.Continues.add (h : g₀.Continues g) {dir child : NodeId} (hdir : ¬ g₀.Issued dir)
    (hchild : ¬ g₀.Issued child) (hadd : g.add dir child = .ok g') : g₀.Continues g' := by
  unfold Graph.add at hadd
  split at hadd
  next => cases hadd
  next children _ =>
    split at hadd
    next => cases hadd
    next =>
      obtain rfl := Except.ok.inj hadd
      exact (h.modify hdir _).modify hchild _

namespace MountRule

theorem addEmptyDirectories_continues {dir : NodeId} {names : List String} (h : g₀.Continues g)
    (hdir : ¬ g₀.Issued dir) (hadd : addEmptyDirectories dir g names = .ok g') :
    g₀.Continues g' := by
  induction names generalizing g with
  | nil =>
      obtain rfl := Except.ok.inj hadd
      exact h
  | cons name rest ih =>
      rw [addEmptyDirectories] at hadd
      split at hadd
      next g₁ he =>
        have hpush := h.push (.newDirectory name)
        exact ih (hpush.add hdir h.not_issued_fresh he) hadd
      next => cases hadd

theorem onNewDirectory_continues (g : Graph) (format name : String) (childNames : List String) :
    g.Continues (onNewDirectory g format name childNames).2 := by
  unfold onNewDirectory
  dsimp only
  split
  next after he =>
    exact addEmptyDirectories_continues ((Graph.Continues.refl g).push _) g.not_issued_fresh he
  next => exact .refl g

theorem build_continues (rule : MountRule NodeId) (g : Graph) (format : String) (dev : NodeId)
    (name : String) : g.Continues (rule.build g format dev name).2 := by
  cases rule with
  | directory => exact onNewDirectory_continues g format name []
  | children names => exact onNewDirectory_continues g format name names
  | renamedDirectory other => exact onNewDirectory_continues g format other []
  | treeless => exact .refl g
  | renamed other => exact .refl g
  | fails cause => exact .refl g
  | node n => exact .refl g
  | device => exact .refl g

end MountRule

namespace ScriptedDriver

/-- A scripted driver that changes no directory when it is asked. -/
def Quiet (d : ScriptedDriver) : Prop := d.effects = []

instance (d : ScriptedDriver) : Decidable d.Quiet := inferInstanceAs (Decidable (d.effects = []))

theorem affect_of_quiet {d : ScriptedDriver} (h : d.Quiet) (g : Graph) (probe : Nat) :
    d.affect g probe = g := by
  rw [affect, show d.effects = [] from h]
  rfl

theorem keeps_quiet : DriverModel.Keeps Graph.Continues fun (_ : CellId) d => Quiet d where
  identify := by
    intro _ d g _ hd
    refine ⟨hd, ?_⟩
    have haffect := affect_of_quiet hd g (d.probes + 1)
    rw [show (DriverModel.identify d g _).2.2 = d.affect g (d.probes + 1) from rfl, haffect]
    exact .refl g
  mount := by
    intro _ d g device name hd
    exact ⟨hd, d.mount.build_continues g d.format device name⟩

theorem confined_quiet : DriverModel.Confined fun (_ : CellId) d => Quiet d := keeps_quiet.confined

end ScriptedDriver

end VolumeService
