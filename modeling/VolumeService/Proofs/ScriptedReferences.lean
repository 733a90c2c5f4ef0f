import VolumeService.Driver.Scripted
import VolumeService.Proofs.Grounded

/-! # Scripted drivers speak of nodes that were made

A scripted driver names nodes in its rule for building and in its effects.  As long as these were
made (`Holds`), so was everything that it enters into directories and builds volumes on, whatever
its rules are: scripted drivers are referring (`referring_holds`). -/

namespace VolumeService

variable {g g' : Graph}

/-! ### Changes of directories -/

namespace Graph

theorem closed_empty : Graph.empty.Closed := by
  intro n node hn
  cases (Store.get?_empty n.index).symm.trans hn

/-- A new directory names no node. -/
theorem Closed.pushNewDirectory (h : g.Closed) (name : String) :
    (g.push (.newDirectory name)).Closed := h.push fun _ hm => (List.not_mem_nil hm).elim

/-- Entering a node that was made into a directory that was made. -/
theorem Closed.add (h : g.Closed) {dir child : NodeId} (hdir : g.Issued dir)
    (hchild : g.Issued child) (hadd : g.add dir child = .ok g') : g'.Closed ∧ g.Precedes g' := by
  unfold Graph.add at hadd
  split at hadd
  next => cases hadd
  next children hchildren =>
    split at hadd
    next => cases hadd
    next =>
      obtain rfl := Except.ok.inj hadd
      have hentries : ∀ entry ∈ (children.insert (g.name child) child).entries,
          g.Issued entry.2 := by
        rintro ⟨name, n⟩ hentry
        rw [Directory.mem_entries_iff, Directory.find?_insert] at hentry
        split at hentry
        next =>
          obtain rfl := Option.some.inj hentry
          exact hchild
        next =>
          exact h.issued_of_directory? hchildren _ (Directory.mem_entries_iff.2 hentry)
      have hset := g.precedes_modify dir fun node =>
        { node with content := .directory (children.insert (g.name child) child) }
      exact ⟨(h.setChildren dir hentries).reparent child (hset dir hdir),
        hset.trans (precedes_modify _ child _)⟩

theorem Closed.remove (h : g.Closed) {dir child : NodeId} {name : String}
    (hremove : g.remove dir name = .ok (child, g')) : g'.Closed ∧ g.Precedes g' := by
  unfold Graph.remove at hremove
  split at hremove
  next => cases hremove
  next children hchildren =>
    split at hremove
    next => cases hremove
    next =>
      obtain ⟨_, rfl⟩ := Prod.mk.inj (Except.ok.inj hremove)
      refine ⟨h.setChildren dir fun entry hentry => ?_, precedes_modify _ dir _⟩
      exact h.issued_of_directory? hchildren entry (List.mem_of_mem_filter hentry)

end Graph

theorem Edit.apply_closed (edit : Edit NodeId) (h : g.Closed)
    (hedit : ∀ n ∈ edit.holds, g.Issued n) : (edit.apply g).Closed ∧ g.Precedes (edit.apply g) := by
  cases edit with
  | add dir child =>
      rw [apply]
      cases hadd : g.add dir child with
      | error _ => exact ⟨h, .refl g⟩
      | ok g' => exact h.add (hedit dir (by simp [holds])) (hedit child (by simp [holds])) hadd
  | remove dir name =>
      rw [apply]
      cases hremove : g.remove dir name with
      | error _ => exact ⟨h, .refl g⟩
      | ok removed => exact h.remove hremove

/-! ### New directories -/

namespace MountRule

theorem addEmptyDirectories_closed {dir : NodeId} {names : List String} (h : g.Closed)
    (hdir : g.Issued dir) (hadd : addEmptyDirectories dir g names = .ok g') :
    g'.Closed ∧ g.Precedes g' := by
  induction names generalizing g with
  | nil =>
      obtain rfl := Except.ok.inj hadd
      exact ⟨h, .refl g⟩
  | cons name rest ih =>
      rw [addEmptyDirectories] at hadd
      split at hadd
      next g₁ he =>
        have hpush := g.precedes_push (.newDirectory name)
        obtain ⟨hclosed₁, hprecedes₁⟩ :=
          (h.pushNewDirectory name).add (hpush dir hdir) (g.issued_fresh_push _) he
        obtain ⟨hclosed', hprecedes'⟩ := ih hclosed₁ (hprecedes₁ dir (hpush dir hdir)) hadd
        exact ⟨hclosed', (hpush.trans hprecedes₁).trans hprecedes'⟩
      next => cases hadd

theorem onNewDirectory_closed (h : g.Closed) (format name : String) (childNames : List String) :
    let built := onNewDirectory g format name childNames
    built.2.Closed ∧ g.Precedes built.2 ∧
      ∀ volume n, built.1 = .ok volume → volume.mountPoint = some n → built.2.Issued n := by
  have hpush := g.precedes_push (.newDirectory name)
  unfold onNewDirectory
  dsimp only
  split
  next after he =>
    obtain ⟨hclosed', hprecedes'⟩ :=
      addEmptyDirectories_closed (h.pushNewDirectory name) (g.issued_fresh_push _) he
    refine ⟨hclosed', hpush.trans hprecedes', fun volume n hok hn => ?_⟩
    obtain rfl := Except.ok.inj hok
    obtain rfl := Option.some.inj hn
    exact hprecedes' _ (g.issued_fresh_push _)
  next =>
    refine ⟨h, .refl g, fun volume n hok => ?_⟩
    cases hok

/-- What a rule builds starts at a new node, at the device, or at the node that it holds. -/
theorem build_closed (rule : MountRule NodeId) (h : g.Closed)
    (hrule : ∀ n ∈ rule.holds, g.Issued n) (format : String) {dev : NodeId} (hdev : g.Issued dev)
    (name : String) :
    let built := rule.build g format dev name
    built.2.Closed ∧ g.Precedes built.2 ∧
      ∀ volume n, built.1 = .ok volume → volume.mountPoint = some n → built.2.Issued n := by
  -- most rules leave the graph alone and differ in what they answer
  have hstay : ∀ answer : Except NodeError Volume,
      (∀ volume n, answer = .ok volume → volume.mountPoint = some n → g.Issued n) →
      g.Closed ∧ g.Precedes g ∧
        ∀ volume n, answer = .ok volume → volume.mountPoint = some n → g.Issued n :=
    fun _ hanswer => ⟨h, .refl g, hanswer⟩
  cases rule with
  | directory => exact onNewDirectory_closed h format name []
  | children names => exact onNewDirectory_closed h format name names
  | renamedDirectory other => exact onNewDirectory_closed h format other []
  | treeless =>
      refine hstay _ fun volume n hok hn => ?_
      obtain rfl := Except.ok.inj hok
      cases hn
  | renamed other =>
      refine hstay _ fun volume n hok hn => ?_
      obtain rfl := Except.ok.inj hok
      cases hn
  | fails cause =>
      refine hstay _ fun volume n hok => ?_
      cases hok
  | node held =>
      refine hstay _ fun volume n hok hn => ?_
      obtain rfl := Except.ok.inj hok
      obtain rfl := Option.some.inj hn
      exact hrule held (List.mem_singleton_self held)
  | device =>
      refine hstay _ fun volume n hok hn => ?_
      obtain rfl := Except.ok.inj hok
      obtain rfl := Option.some.inj hn
      exact hdev

end MountRule

/-! ### Drivers -/

namespace ScriptedDriver

/-- The nodes that a scripted driver names were made. -/
def Holds (g : Graph) (d : ScriptedDriver) : Prop := ∀ n ∈ d.holds, g.Issued n

theorem affect_closed (d : ScriptedDriver) (h : g.Closed) (hd : d.Holds g) (probe : Nat) :
    (d.affect g probe).Closed ∧ g.Precedes (d.affect g probe) := by
  have heffects : ∀ effect ∈ d.effects.filter (·.probe = probe), ∀ n ∈ effect.edit.holds,
      g.Issued n := by
    intro effect heffect n hn
    refine hd n (List.mem_append_right _ (List.mem_flatMap.2 ⟨effect, ?_, hn⟩))
    exact List.mem_of_mem_filter heffect
  unfold affect
  -- the effects come one after the other; what they name was made before the first
  clear hd
  generalize d.effects.filter (·.probe = probe) = effects at heffects
  induction effects generalizing g with
  | nil => exact ⟨h, .refl g⟩
  | cons effect rest ih =>
      obtain ⟨hclosed, hprecedes⟩ :=
        effect.edit.apply_closed h (heffects effect (List.mem_cons_self ..))
      obtain ⟨hclosed', hprecedes'⟩ := ih hclosed fun other hother n hn =>
        hprecedes n (heffects other (List.mem_cons_of_mem _ hother) n hn)
      exact ⟨hclosed', hprecedes.trans hprecedes'⟩

theorem referring_holds : DriverModel.Referring fun g (d : ScriptedDriver) => d.Holds g where
  mono hprecedes hd n hn := hprecedes n (hd n hn)
  identify := by
    intro g d device h hd _
    obtain ⟨hclosed, hprecedes⟩ := d.affect_closed h hd (d.probes + 1)
    exact ⟨hprecedes, hclosed, fun n hn => hprecedes n (hd n hn)⟩
  mount := by
    intro g d device name h hd hdevice
    have hrule : ∀ n ∈ d.mount.holds, g.Issued n := fun n hn => hd n (List.mem_append_left _ hn)
    obtain ⟨hclosed, hprecedes, hpoint⟩ := d.mount.build_closed h hrule d.format hdevice name
    exact ⟨⟨hprecedes, hclosed, fun n hn => hprecedes n (hd n hn)⟩, hpoint⟩

end ScriptedDriver

end VolumeService
