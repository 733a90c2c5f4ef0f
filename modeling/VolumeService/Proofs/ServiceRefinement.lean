import VolumeService.Driver.Scripted
import VolumeService.Service.Functions

/-! # The shared service is one mount table

What callers see of the shared service, from the start of the process on, is one mount table.

* **Acts** (`Service.Act`).  Callers make the table, make requests through the functions of the
  service, and look at the table; and other things happen to the world.  A run gives the outcome of
  each act (`Service.run`).
* **The reference** (`MountTable.serveAll`) is a table of one's own: requests and looks go to it,
  and making it once more is the one act that panics.
* **Before and after** (`Service.step_empty`, `Service.step_holding`).  The lock is free between
  acts.  Without a table all acts panic and change nothing; with one each does what it does to a
  table of one's own.
* So a run is a silence and then the run of one table (`Service.refines_one_table`), and acts that
  panic may as well be left out (`Service.run_survivors`). -/

namespace VolumeService

/-- Did the call end in a panic? -/
def Outcome.isPanic {α : Type} : Outcome α → Bool
  | .panic _ => true
  | _ => false

namespace Service

variable {σ α : Type}

/-- What can happen next to the shared service and its world. -/
inductive Act (σ α : Type) where
  | init (root : NodeId) (drivers : Registry)
  | ask (request : Request)
  | look (read : MountTable → World σ → α × World σ)
  /-- Something else happens to the world. -/
  | meanwhile (change : World σ → World σ)

/-- What an act answers. -/
inductive Answer (α : Type) where
  | done
  | reply (reply : Reply)
  | seen (a : α)

def Act.isInit : Act σ α → Bool
  | init _ _ => true
  | _ => false

/-- What an act but `init` answers while there is no table. -/
def Act.refused : Act σ α → Outcome (Answer α)
  | meanwhile _ => .value .done
  | _ => .panic .notInitialized

/-- What an act does to the world without the service. -/
def Act.outside (act : Act σ α) (w : World σ) : World σ :=
  match act with
  | meanwhile change => change w
  | _ => w

/-- The service between acts, with a table or without. -/
def holding (t? : Option MountTable) : Service := ⟨.named "VOLUMES" t?⟩

variable [DriverModel σ]

/-- One act on the service. -/
def step (s : Service) (w : World σ) : Act σ α → Outcome (Answer α) × Service × World σ
  | .init root drivers =>
    let call := s.init root drivers
    (call.1.map fun _ => .done, call.2, w)
  | .ask request => answering .reply (s.perform w request)
  | .look read => answering .seen (s.look w read)
  | .meanwhile change => (.value .done, s, change w)

/-- Acts one after the other. -/
def run (s : Service) (w : World σ) :
    List (Act σ α) → List (Outcome (Answer α)) × Service × World σ
  | [] => ([], s, w)
  | act :: rest =>
    let first := s.step w act
    let more := first.2.1.run first.2.2 rest
    (first.1 :: more.1, more.2)

end Service

open Service (Act Answer)

namespace MountTable

variable {σ α : Type} [DriverModel σ]

/-- One act on a table of one's own.  It cannot be made once more. -/
def serve (t : MountTable) (w : World σ) : Act σ α → Outcome (Answer α) × MountTable × World σ
  | .init _ _ => (.panic .alreadyInitialized, t, w)
  | .ask request =>
    let answer := t.handle w request
    (.value (.reply answer.1), answer.2)
  | .look read =>
    let seen := read t w
    (.value (.seen seen.1), t, seen.2)
  | .meanwhile change => (.value .done, t, change w)

def serveAll (t : MountTable) (w : World σ) :
    List (Act σ α) → List (Outcome (Answer α)) × MountTable × World σ
  | [] => ([], t, w)
  | act :: rest =>
    let first := t.serve w act
    let more := first.2.1.serveAll first.2.2 rest
    (first.1 :: more.1, more.2)

end MountTable

namespace Service

variable {σ α : Type} [DriverModel σ]

/-! ### One act -/

/-- Without a table every act but `init` is refused. -/
theorem step_empty (w : World σ) {act : Act σ α} (h : act.isInit = false) :
    (holding none).step w act = (act.refused, holding none, act.outside w) := by
  cases act with
  | init root drivers => cases h
  | ask request =>
      rw [step, perform_eq_call]
      rfl
  | look read => rfl
  | meanwhile change => rfl

theorem step_init (w : World σ) (root : NodeId) (drivers : Registry) :
    (holding none).step w (.init root drivers : Act σ α) =
      (.value .done, holding (some (.create root drivers)), w) := rfl

/-- With a table every act does what it does to a table of one's own. -/
theorem step_holding (t : MountTable) (w : World σ) (act : Act σ α) :
    (holding (some t)).step w act =
      ((t.serve w act).1, holding (some (t.serve w act).2.1), (t.serve w act).2.2) := by
  cases act with
  | init root drivers => rfl
  | ask request =>
      rw [step, perform_eq_call]
      rfl
  | look read => rfl
  | meanwhile change => rfl

omit [DriverModel σ] in
theorem Act.refused_ne_waits (act : Act σ α) : act.refused ≠ .waits := by
  cases act <;> simp [refused]

omit [DriverModel σ] in
theorem Act.outside_of_isPanic {act : Act σ α} (h : act.refused.isPanic = true) (w : World σ) :
    act.outside w = w := by
  cases act with
  | meanwhile change => cases h
  | _ => rfl

theorem serve_ne_waits (t : MountTable) (w : World σ) (act : Act σ α) :
    (t.serve w act).1 ≠ .waits := by
  cases act <;> simp [MountTable.serve]

/-- The one act that panics on a table of one's own changes nothing. -/
theorem serve_of_isPanic {t : MountTable} {w : World σ} {act : Act σ α}
    (h : (t.serve w act).1.isPanic = true) : (t.serve w act).2 = (t, w) := by
  cases act with
  | init root drivers => rfl
  | _ => cases h

/-- Between acts the lock is free, no act waits, and one that panics changes nothing. -/
theorem step_cases (t? : Option MountTable) (w : World σ) (act : Act σ α) :
    ∃ outcome t'? w', (holding t?).step w act = (outcome, holding t'?, w') ∧ outcome ≠ .waits ∧
      (outcome.isPanic = true → t'? = t? ∧ w' = w) := by
  cases t? with
  | some t =>
      refine ⟨_, _, _, step_holding t w act, serve_ne_waits t w act, fun h => ?_⟩
      rw [serve_of_isPanic h]
      exact ⟨rfl, rfl⟩
  | none =>
      cases hinit : act.isInit with
      | false =>
          exact ⟨_, _, _, step_empty w hinit, act.refused_ne_waits,
            fun h => ⟨rfl, act.outside_of_isPanic h w⟩⟩
      | true =>
          cases act with
          | init root drivers =>
              exact ⟨_, _, _, step_init w root drivers, by simp, fun h => by cases h⟩
          | _ => cases hinit

/-! ### Runs -/

theorem run_append (s : Service) (w : World σ) (first second : List (Act σ α)) :
    s.run w (first ++ second) =
      ((s.run w first).1 ++ ((s.run w first).2.1.run (s.run w first).2.2 second).1,
        ((s.run w first).2.1.run (s.run w first).2.2 second).2) := by
  induction first generalizing s w with
  | nil => rfl
  | cons act rest ih =>
      rw [List.cons_append, run, ih]
      rfl

/-- Without a table a run is silent. -/
theorem run_empty (w : World σ) {acts : List (Act σ α)} (h : ∀ act ∈ acts, act.isInit = false) :
    (holding none).run w acts =
      (acts.map Act.refused, holding none, acts.foldl (fun w act => act.outside w) w) := by
  induction acts generalizing w with
  | nil => rfl
  | cons act rest ih =>
      obtain ⟨hact, hrest⟩ := List.forall_mem_cons.1 h
      rw [run, step_empty w hact, ih _ hrest]
      rfl

/-- With a table a run is that of a table of one's own. -/
theorem run_holding (t : MountTable) (w : World σ) (acts : List (Act σ α)) :
    (holding (some t)).run w acts =
      ((t.serveAll w acts).1, holding (some (t.serveAll w acts).2.1), (t.serveAll w acts).2.2) := by
  induction acts generalizing t w with
  | nil => rfl
  | cons act rest ih =>
      rw [run, step_holding, ih]
      rfl

/-- Between acts the lock is free, and none of them waits. -/
theorem run_cases (t? : Option MountTable) (w : World σ) (acts : List (Act σ α)) :
    (∃ t'?, ((holding t?).run w acts).2.1 = holding t'?) ∧
      .waits ∉ ((holding t?).run w acts).1 := by
  induction acts generalizing t? w with
  | nil => exact ⟨⟨t?, rfl⟩, List.not_mem_nil⟩
  | cons act rest ih =>
      obtain ⟨outcome, t'?, w', hstep, hwaits, _⟩ := step_cases t? w act
      obtain ⟨hfree, hrest⟩ := ih t'? w'
      rw [run, hstep]
      refine ⟨hfree, fun hmem => ?_⟩
      rcases List.mem_cons.1 hmem with he | hmem
      · exact hwaits he.symm
      · exact hrest hmem

/-- Without the acts that panic, a run answers the same otherwise and ends the same. -/
theorem run_survivors (t? : Option MountTable) (w : World σ) (acts : List (Act σ α)) :
    (holding t?).run w
        (((acts.zip ((holding t?).run w acts).1).filter fun act => !act.2.isPanic).map Prod.fst) =
      (((holding t?).run w acts).1.filter fun outcome => !outcome.isPanic,
        ((holding t?).run w acts).2) := by
  induction acts generalizing t? w with
  | nil => rfl
  | cons act rest ih =>
      obtain ⟨outcome, t'?, w', hstep, _, hpanic⟩ := step_cases t? w act
      have hrest := ih t'? w'
      rw [run, hstep]
      dsimp only
      rw [List.zip_cons_cons]
      cases houtcome : outcome.isPanic with
      | true =>
          obtain ⟨rfl, rfl⟩ := hpanic houtcome
          rw [List.filter_cons_of_neg (by simp [houtcome]),
            List.filter_cons_of_neg (by simp [houtcome])]
          exact hrest
      | false =>
          rw [List.filter_cons_of_pos (by simp [houtcome]),
            List.filter_cons_of_pos (by simp [houtcome]), List.map_cons, run, hstep]
          dsimp only
          rw [hrest]

/-- The service, from the start of the process on, is one mount table.

Until the table is made every call panics and has no effect.  From then on each act answers what it
answers on a table of one's own over the same root with the same drivers, and table, world, log and
driver calls are those of that table; making the table once more panics and changes nothing.
Between acts the lock is free, and no act waits; and if the acts that panic are left out, the others
answer the same and the end is the same. -/
theorem refines_one_table (before after : List (Act σ α)) (root : NodeId) (drivers : Registry)
    (w : World σ) (hbefore : ∀ act ∈ before, act.isInit = false) :
    let early := fresh.run w before
    let reference := (MountTable.create root drivers).serveAll early.2.2 after
    early = (before.map Act.refused, fresh, before.foldl (fun w act => act.outside w) w) ∧
    fresh.run w (before ++ .init root drivers :: after) =
      (early.1 ++ .value .done :: reference.1, holding (some reference.2.1), reference.2.2) ∧
    ∀ acts : List (Act σ α),
      let all := fresh.run w acts
      all.2.1.volumes.locked = false ∧ .waits ∉ all.1 ∧
      fresh.run w (((acts.zip all.1).filter fun act => !act.2.isPanic).map Prod.fst) =
        (all.1.filter fun outcome => !outcome.isPanic, all.2) := by
  intro early reference
  have hearly : early = (before.map Act.refused, fresh, _) := run_empty w hbefore
  refine ⟨hearly, ?_, fun acts => ?_⟩
  · have hfresh : early.2.1 = holding none := congrArg (fun result => result.2.1) hearly
    rw [run_append]
    change (early.1 ++ (early.2.1.run early.2.2 _).1, (early.2.1.run early.2.2 _).2) = _
    rw [hfresh, run, step_init]
    dsimp only
    rw [run_holding]
  · obtain ⟨⟨t?, hfree⟩, hwaits⟩ := run_cases none w acts
    refine ⟨?_, hwaits, run_survivors none w acts⟩
    exact (congrArg (fun s => s.volumes.locked) hfree).trans rfl

end Service

/-! ### A call too early, a table, and a second attempt to make one -/

namespace ServiceExample

def early : List (Act ScriptedDriver Nat) := [.ask (.find "data")]

def late : List (Act ScriptedDriver Nat) :=
  [.ask (.register (.treeless "fat" "data")), .init ⟨1⟩ ⟨[]⟩, .look fun t w => (t.size, w)]

/-- The early call and the second attempt panic, and the volume stays registered. -/
theorem outcomes_of_one_table :
    (∀ act ∈ early, act.isInit = false) ∧
    (Service.fresh.run {} (early ++ .init ⟨0⟩ ⟨[]⟩ :: late)).1 =
      [.panic .notInitialized, .value .done,
        .value (.reply (.volume (.ok ⟨.treeless "fat" "data", ⟨0⟩⟩))),
        .panic .alreadyInitialized, .value (.seen 1)] := by
  have hearly : ∀ act ∈ early, act.isInit = false := by decide
  obtain ⟨_, hrun, _⟩ := Service.refines_one_table early late ⟨0⟩ ⟨[]⟩ {} hearly
  rw [hrun]
  exact ⟨hearly, rfl⟩

end ServiceExample

end VolumeService
