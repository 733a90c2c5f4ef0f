import VolumeService.Proofs.CallSequences
import VolumeService.Proofs.Chronicle
import VolumeService.Proofs.DependableMounts

/-! # Made-up names

A mount that is given no name makes one up, from `volume` and the next number.

* **Who makes up a name** (`Request.draws`).  A mount without a name, of a character device that its
  driver recognises whenever it is asked.  Nothing else uses up a number, and what the driver then
  does with the name makes no difference.
* **What drivers are told** (`namesAsked`) is read off the trace, so that a name counts even if
  nothing is mounted under it.
* **Runs** (`Chronicle.madeUpNames`).  The names of all mounts without a name, in order, are
  `volume0`, `volume1` and so on, one for each mount that makes up a name.  The numbers are machine
  words, so that they are all different as long as there are no more names than words.
* **Size** (`size_anonymousName_lt`).  A number that fits into a machine word makes a short name.
* All together: `Chronicle.made_up_names_in_order`. -/

namespace VolumeService

open Session (driverCalls)

variable {σ : Type}

/-! ### How long made-up names are -/

theorem utf8ByteSize_ofList_le (chars : List Char) :
    (String.ofList chars).utf8ByteSize ≤ 4 * chars.length := by
  induction chars with
  | nil => simp
  | cons c rest ih =>
      have hc := c.utf8Size_le_four
      rw [String.ofList_cons, String.utf8ByteSize_append, String.utf8ByteSize_singleton,
        List.length_cons]
      omega

/-- Numbers that fit into a machine word make names below the limit. -/
theorem size_anonymousName_lt {k : Nat} (h : k < UInt64.size) :
    Name.size (anonymousName k) < maxNameSize := by
  have hword : UInt64.size < 10 ^ 20 := by decide
  have hdigits : (Nat.toDigits 10 k).length ≤ 20 := by
    apply (Nat.length_toDigits_le_iff (by decide) (by decide)).2
    omega
  have hnumber := utf8ByteSize_ofList_le (Nat.toDigits 10 k)
  have hsize : Name.size (anonymousName k) =
      anonymousStem.utf8ByteSize + (String.ofList (Nat.toDigits 10 k)).utf8ByteSize := by
    simp [Name.size, anonymousName, toString, Nat.repr]
  have hstem : anonymousStem.utf8ByteSize = 6 := by decide
  have hlimit : maxNameSize = 255 := rfl
  omega

/-! ### Names that drivers are told -/

/-- The names that drivers were told to mount under, in order. -/
def namesAsked (trace : List Event) : List String :=
  trace.filterMap fun
    | .mount _ _ name => some name
    | _ => none

theorem namesAsked_append (first second : List Event) :
    namesAsked (first ++ second) = namesAsked first ++ namesAsked second := List.filterMap_append

theorem namesAsked_driverCalls (trace : List Event) :
    namesAsked (driverCalls trace) = namesAsked trace := by
  induction trace with
  | nil => rfl
  | cons event rest ih => cases event <;> simp_all [namesAsked, driverCalls]

namespace World

/-- Without a call of a driver, no name is told to one. -/
theorem Idle.namesAsked_eq {w w' : World σ} (h : w.Idle w') :
    namesAsked w'.trace = namesAsked w.trace := by
  rw [← namesAsked_driverCalls, h.calls, namesAsked_driverCalls]

variable [DriverModel σ]

theorem namesAsked_identify (w : World σ) (driver : DriverHandle) (device : NodeId) :
    namesAsked (w.identify driver device).2.trace = namesAsked w.trace := by
  unfold identify
  split
  next => rfl
  next => exact (namesAsked_append ..).trans (List.append_nil _)

theorem namesAsked_identifyFirst (w : World σ) (device : NodeId) (drivers : List DriverHandle) :
    namesAsked (w.identifyFirst device drivers).2.trace = namesAsked w.trace := by
  induction drivers generalizing w with
  | nil => rfl
  | cons driver rest ih =>
      have hfirst := w.namesAsked_identify driver device
      rw [identifyFirst]
      split
      next he => rw [← hfirst, he]
      next he => rw [ih, ← hfirst, he]

/-- A driver that recognises a device is there, and is told the name to mount it under. -/
theorem namesAsked_mountVia {w : World σ} {driver : DriverHandle} {device : NodeId}
    (h : (w.identify driver device).1 = true) (name : String) :
    namesAsked ((w.identify driver device).2.mountVia driver device name).2.trace =
      namesAsked w.trace ++ [name] := by
  have hsame := w.namesAsked_identify driver device
  obtain ⟨state, hstate⟩ :
      ∃ state, (w.identify driver device).2.drivers.get? driver.cell.index = some state := by
    cases hbefore : w.drivers.get? driver.cell.index with
    | none => simp [identify, hbefore] at h
    | some state => simp [identify, hbefore]
  rw [mountVia, hstate, ← hsame]
  exact namesAsked_append ..

end World

namespace MountTable

/-- What a driver answers to a mount uses up no number and tells no driver anything; what comes of
it has the name asked for. -/
theorem names_of_build [DriverModel σ] (t : MountTable) (w : World σ) (device : NodeId)
    (driver : DriverHandle) (name : String) :
    (t.build w device driver name).2.1.nextSuffix = t.nextSuffix ∧
      namesAsked (t.build w device driver name).2.2.trace =
        namesAsked (w.mountVia driver device name).2.trace ∧
      ∀ v, (t.build w device driver name).1.toOption = some v → v.name = name := by
  rw [build]
  generalize w.mountVia driver device name = call
  obtain ⟨answer, w₁⟩ := call
  cases answer with
  | error cause =>
      refine ⟨rfl, (w₁.idle_notify _).namesAsked_eq, fun v hv => ?_⟩
      cases hv
  | ok volume =>
      dsimp only
      by_cases hvolume : volume.name = name
      · rw [adopt_of_name_eq t w₁ device driver hvolume]
        refine ⟨rfl, (World.idle_afterMount ..).namesAsked_eq, fun v hv => ?_⟩
        rw [← Option.some.inj hv]
        exact hvolume
      · rw [adopt_of_name_ne t w₁ device driver hvolume]
        refine ⟨rfl, (w₁.idle_notify _).namesAsked_eq, fun v hv => ?_⟩
        cases hv

/-- Between two states the next made-up name was used up and told to a driver, and what was mounted,
if anything, has this name. -/
structure DrewName (t : MountTable) (w : World σ) (mounted? : Option VolumeHandle)
    (t' : MountTable) (w' : World σ) : Prop where
  nextSuffix : t'.nextSuffix = t.nextSuffix + 1
  told : namesAsked w'.trace = namesAsked w.trace ++ [anonymousName t.nextSuffix.toNat]
  named : ∀ v, mounted? = some v → v.name = anonymousName t.nextSuffix.toNat

/-- Between two states no made-up name was used up, no driver was told a name, and nothing was
mounted. -/
structure DrewNothing (t : MountTable) (w : World σ) (mounted? : Option VolumeHandle)
    (t' : MountTable) (w' : World σ) : Prop where
  nextSuffix : t'.nextSuffix = t.nextSuffix
  told : namesAsked w'.trace = namesAsked w.trace
  nothing : mounted? = none

section

variable {t t' : MountTable} {w w₁ w' : World σ} {mounted? : Option VolumeHandle}

/-- Questions to drivers before a mount make no difference to the names. -/
theorem DrewName.of_asked (hasked : namesAsked w₁.trace = namesAsked w.trace)
    (h : DrewName t w₁ mounted? t' w') : DrewName t w mounted? t' w' :=
  ⟨h.nextSuffix, hasked ▸ h.told, h.named⟩

theorem DrewNothing.of_asked (hasked : namesAsked w₁.trace = namesAsked w.trace)
    (h : DrewNothing t w₁ mounted? t' w') : DrewNothing t w mounted? t' w' :=
  ⟨h.nextSuffix, hasked ▸ h.told, h.nothing⟩

/-- A report that nothing was mounted. -/
theorem DrewNothing.of_notify (t : MountTable) (w : World σ) (notice : Notice) :
    DrewNothing t w none t (w.notify notice) :=
  ⟨rfl, (w.idle_notify notice).namesAsked_eq, rfl⟩

end

end MountTable

/-! ### Which requests make up a name -/

/-- Is the node a character device, and does the driver recognise it? -/
def World.passes [DriverModel σ] (w : World σ) (device : NodeId) (driver : DriverHandle) : Bool :=
  w.graph.isDevice device && (w.identify driver device).1

namespace Request

/-- Is a request a mount without a name? -/
def isAnonymous : Request → Bool
  | mount _ none => true
  | mountUsing _ _ none => true
  | _ => false

/-- Is a request a mount without a name that gets past the checks of the device and all questions to
drivers? -/
def draws [DriverModel σ] (t : MountTable) (w : World σ) : Request → Bool
  | mount device none =>
    w.graph.isDevice device &&
      match w.identifyFirst device t.drivers.drivers with
      | (some driver, w) => w.passes device driver
      | (none, _) => false
  | mountUsing device driver none => w.passes device driver
  | _ => false

theorem draws_of_named [DriverModel σ] (t : MountTable) (w : World σ) {request : Request}
    (h : request.isAnonymous = false) : request.draws t w = false := by
  unfold draws
  split
  next => cases h
  next => cases h
  next => rfl

end Request

namespace MountTable

variable [DriverModel σ]

/-- A mount without a name that gets past the checks tells its driver the next made-up name,
whatever comes of it. -/
theorem mountUsing_draws (t : MountTable) {w : World σ} {device : NodeId} {driver : DriverHandle}
    (h : w.passes device driver = true) :
    DrewName t w (t.mountUsing w device driver none).1.toOption
      (t.mountUsing w device driver none).2.1 (t.mountUsing w device driver none).2.2 := by
  obtain ⟨hdevice, hidentify⟩ := Bool.and_eq_true_iff.1 h
  have htold := World.namesAsked_mountVia hidentify (anonymousName t.nextSuffix.toNat)
  obtain ⟨hnext, hsame, hname⟩ := names_of_build { t with nextSuffix := t.nextSuffix + 1 }
    (w.identify driver device).2 device driver (anonymousName t.nextSuffix.toNat)
  have hbuild : t.mountUsing w device driver none =
      { t with nextSuffix := t.nextSuffix + 1 }.build (w.identify driver device).2 device driver
        (anonymousName t.nextSuffix.toNat) := mountUsing_eq_build hdevice hidentify t.claimName_none
  rw [hbuild]
  exact ⟨hnext, hsame.trans htold, hname⟩

theorem mountUsing_draws_nothing (t : MountTable) {w : World σ} {device : NodeId}
    {driver : DriverHandle} (h : w.passes device driver = false) :
    DrewNothing t w (t.mountUsing w device driver none).1.toOption
      (t.mountUsing w device driver none).2.1 (t.mountUsing w device driver none).2.2 := by
  have hasked := w.namesAsked_identify driver device
  rw [World.passes] at h
  unfold mountUsing
  cases hdevice : w.graph.isDevice device with
  | false => exact .of_notify t w _
  | true =>
      rw [hdevice, Bool.true_and] at h
      generalize w.identify driver device = call at h hasked
      obtain ⟨_, w₁⟩ := call
      subst h
      exact .of_asked hasked (.of_notify t w₁ _)

theorem mount_anonymous (t : MountTable) (w : World σ) (device : NodeId) :
    ((Request.mount device none).draws t w = true →
      DrewName t w (t.mount w device none).1.toOption (t.mount w device none).2.1
        (t.mount w device none).2.2) ∧
    ((Request.mount device none).draws t w = false →
      DrewNothing t w (t.mount w device none).1.toOption (t.mount w device none).2.1
        (t.mount w device none).2.2) := by
  have hasked := w.namesAsked_identifyFirst device t.drivers.drivers
  rw [Request.draws]
  unfold mount
  cases hdevice : w.graph.isDevice device with
  | false =>
      refine ⟨fun h => ?_, fun _ => .of_notify t w _⟩
      cases h
  | true =>
      generalize w.identifyFirst device t.drivers.drivers = found at hasked ⊢
      obtain ⟨driver?, w₁⟩ := found
      cases driver? with
      | none =>
          refine ⟨fun h => ?_, fun _ => .of_asked hasked (.of_notify t w₁ _)⟩
          cases h
      | some driver =>
          rw [Bool.true_and]
          exact ⟨fun h => .of_asked hasked (t.mountUsing_draws h),
            fun h => .of_asked hasked (t.mountUsing_draws_nothing h)⟩

/-- A mount without a name draws a made-up name if it gets past all checks, and nothing
otherwise. -/
theorem handle_anonymous (t : MountTable) (w : World σ) {request : Request}
    (hanonymous : request.isAnonymous = true) :
    (request.draws t w = true →
      DrewName t w (t.handle w request).1.volume? (t.handle w request).2.1
        (t.handle w request).2.2) ∧
    (request.draws t w = false →
      DrewNothing t w (t.handle w request).1.volume? (t.handle w request).2.1
        (t.handle w request).2.2) := by
  cases request with
  | mountUsing device driver name? =>
      cases name? with
      | some name => cases hanonymous
      | none => exact ⟨t.mountUsing_draws, t.mountUsing_draws_nothing⟩
  | mount device name? =>
      cases name? with
      | some name => cases hanonymous
      | none => exact t.mount_anonymous w device
  | _ => cases hanonymous

/-- A mount under a given name uses up no made-up one. -/
theorem nextSuffix_of_mountOutcome {ds : List DriverHandle} {t : MountTable} {w : World σ}
    {device : NodeId} {name : String}
    {result : Except ServiceError VolumeHandle × MountTable × World σ}
    (h : MountOutcome ds t w device (some name) result) :
    result.2.1.nextSuffix = t.nextSuffix := by
  cases h with
  | refused _ _ => rfl
  | failed hname _ =>
      rw [table_of_claimName hname]
      exact UInt64.add_zero t.nextSuffix
  | registered hname _ _ _ =>
      rw [table_of_claimName hname]
      exact UInt64.add_zero t.nextSuffix

theorem nextSuffix_bootScan (t : MountTable) (w : World σ) (limit : Nat) :
    (t.bootScan w limit).2.1.nextSuffix = t.nextSuffix := by
  have h := t.bootScan_outcome w limit
  generalize t.bootScan w limit = result at h
  cases h <;> rfl

/-- Only mounts without a name use up a number. -/
theorem nextSuffix_handle_of_named (t : MountTable) (w : World σ) {request : Request}
    (h : request.isAnonymous = false) : (t.handle w request).2.1.nextSuffix = t.nextSuffix := by
  match request with
  | .mount device none => cases h
  | .mountUsing device driver none => cases h
  | .mount device (some name) => exact nextSuffix_of_mountOutcome (t.mount_outcome w device _)
  | .mountUsing device driver (some name) =>
      exact nextSuffix_of_mountOutcome
        (t.mountUsing_outcome w device (List.mem_singleton_self driver) _)
  | .unmount name =>
      obtain ⟨_, _, htable⟩ := t.table_of_unmount w name
      rw [handle, htable]
  | .unregister v =>
      obtain ⟨_, _, htable⟩ := t.table_of_unregister w v
      rw [handle, htable]
  | .bootScan limit =>
      have hscan := t.nextSuffix_bootScan w limit
      simp only [handle]
      split <;> exact hscan
  | .register volume | .addDriver driver | .systemVolume | .find name | .findId id
  | .resolve path | .root | .volumes | .identify device | .findDriver name | .drivers => rfl

end MountTable

/-! ### Runs -/

/-- Is a move a mount without a name? -/
def Move.isAnonymous : Move σ → Bool
  | ask request => request.isAnonymous
  | deed _ => false

namespace Chronicle

variable [DriverModel σ]

/-- Is the next move a mount without a name that gets past all checks? -/
def draws (c : Chronicle σ) : Move σ → Bool
  | .ask request => request.draws c.table c.world
  | .deed _ => false

/-- How many of the moves are mounts without a name that get past all checks. -/
def drawCount (c : Chronicle σ) : List (Move σ) → Nat
  | [] => 0
  | move :: rest => (c.step move).drawCount rest + if c.draws move then 1 else 0

/-- The names that drivers are told during a move. -/
def told (c : Chronicle σ) (move : Move σ) : List String :=
  (namesAsked (c.step move).world.trace).drop (namesAsked c.world.trace).length

/-- The names that drivers are told by mounts without a name, in order. -/
def madeUpNames (c : Chronicle σ) : List (Move σ) → List String
  | [] => []
  | move :: rest => (if move.isAnonymous then c.told move else []) ++ (c.step move).madeUpNames rest

/-- A move that draws a name uses up a number and tells a driver the name with this number; a move
that draws none uses up no number, and a mount without a name then tells no driver any. -/
theorem step_draws (c : Chronicle σ) (move : Move σ) :
    (c.step move).table.nextSuffix = c.table.nextSuffix + (if c.draws move then 1 else 0) ∧
    (if move.isAnonymous then c.told move else []) =
      if c.draws move then [anonymousName c.table.nextSuffix.toNat] else [] := by
  cases move with
  | deed deed => exact ⟨(UInt64.add_zero _).symm, rfl⟩
  | ask request =>
      cases hanonymous : request.isAnonymous with
      | false =>
          have hdraws : c.draws (.ask request) = false :=
            request.draws_of_named c.table c.world hanonymous
          have hnext := c.table.nextSuffix_handle_of_named c.world hanonymous
          rw [hdraws, Move.isAnonymous, hanonymous]
          exact ⟨hnext.trans (UInt64.add_zero _).symm, rfl⟩
      | true =>
          obtain ⟨hdrew, hnothing⟩ := c.table.handle_anonymous c.world hanonymous
          rw [Move.isAnonymous, hanonymous, if_pos rfl, told]
          cases hdraws : c.draws (.ask request) with
          | false =>
              have h := hnothing hdraws
              refine ⟨h.nextSuffix.trans (UInt64.add_zero _).symm, ?_⟩
              rw [step, h.told]
              exact List.drop_length
          | true =>
              have h := hdrew hdraws
              refine ⟨h.nextSuffix, ?_⟩
              rw [step, h.told]
              exact List.drop_left

/-- The numbers that moves use up are the next ones, one for each name that is drawn. -/
theorem run_draws (c : Chronicle σ) (moves : List (Move σ)) :
    (c.run moves).table.nextSuffix = c.table.nextSuffix + .ofNat (c.drawCount moves) ∧
    c.madeUpNames moves = (List.range (c.drawCount moves)).map fun k =>
      anonymousName (c.table.nextSuffix + .ofNat k).toNat := by
  induction moves generalizing c with
  | nil => exact ⟨(UInt64.add_zero _).symm, rfl⟩
  | cons move rest ih =>
      obtain ⟨hnext, htold⟩ := c.step_draws move
      obtain ⟨hnextRest, htoldRest⟩ := ih (c.step move)
      rw [madeUpNames, htold, htoldRest, run, List.foldl_cons, ← run, hnextRest, hnext, drawCount]
      cases c.draws move with
      | false =>
          rw [if_neg Bool.false_ne_true, if_neg Bool.false_ne_true, UInt64.add_zero]
          exact ⟨rfl, rfl⟩
      | true =>
          -- the names of the rest start one number later
          have hlater (k : Nat) :
              c.table.nextSuffix + 1 + .ofNat k = c.table.nextSuffix + .ofNat (k + 1) := by
            rw [UInt64.add_assoc, UInt64.add_comm 1, UInt64.ofNat_add]
            rfl
          rw [if_pos rfl, if_pos rfl, hlater, List.range_succ_eq_map, List.map_cons, List.map_map]
          refine ⟨rfl, ?_⟩
          simp [hlater]

theorem isAnonymous_of_draws {c : Chronicle σ} {move : Move σ} (h : c.draws move = true) :
    move.isAnonymous = true := by
  cases move with
  | deed deed => cases h
  | ask request =>
      by_contra hnamed
      have hnothing := request.draws_of_named c.table c.world (Bool.eq_false_iff.2 hnamed)
      rw [draws, hnothing] at h
      cases h

theorem drawCount_le (c : Chronicle σ) (moves : List (Move σ)) :
    c.drawCount moves ≤ moves.countP Move.isAnonymous := by
  induction moves generalizing c with
  | nil => exact Nat.zero_le _
  | cons move rest ih =>
      have hrest := ih (c.step move)
      rw [drawCount, List.countP_cons]
      cases hdraws : c.draws move with
      | false =>
          simp only [Bool.false_eq_true, if_false]
          omega
      | true =>
          simp only [isAnonymous_of_draws hdraws, if_true]
          omega

/-- Made-up names are handed out once each, in order, whatever happens in between.  The names that
drivers are told by mounts without a name are `volume0`, `volume1` and so on, one for each such
mount that gets past the checks of the device and all questions to drivers.  They are all different
as long as there are fewer mounts without a name than machine words; after that the numbers start
again.  That goes on so with whatever is asked next: only a mount without a name uses up a number,
and only if it gets past these checks; a driver is then told the name, whether or not it mounts
anything under it.  All these names are below the limit for given names. -/
theorem made_up_names_in_order (root : NodeId) (drivers : Registry) (w : World σ)
    (moves : List (Move σ)) :
    let first := Chronicle.start root drivers w
    let count := first.drawCount moves
    let c := first.run moves
    (moves.countP Move.isAnonymous < UInt64.size →
      first.madeUpNames moves = (List.range count).map anonymousName ∧
      (first.madeUpNames moves).Nodup ∧
      c.table.nextSuffix.toNat = count) ∧
    first.madeUpNames moves =
      (List.range count).map (fun k => anonymousName (k % UInt64.size)) ∧
    c.table.nextSuffix = .ofNat count ∧
    (∀ request,
      let answer := c.table.handle c.world request
      (request.isAnonymous = false → answer.2.1.nextSuffix = .ofNat count) ∧
      (request.isAnonymous = true →
        (request.draws c.table c.world = true →
          MountTable.DrewName c.table c.world answer.1.volume? answer.2.1 answer.2.2) ∧
        (request.draws c.table c.world = false →
          MountTable.DrewNothing c.table c.world answer.1.volume? answer.2.1 answer.2.2))) ∧
    ∀ name ∈ first.madeUpNames moves, Name.size name < maxNameSize := by
  intro first count c
  obtain ⟨hnext, hnames⟩ := first.run_draws moves
  have hnumber (k : Nat) : (first.table.nextSuffix + .ofNat k).toNat = k % UInt64.size := by
    rw [show first.table.nextSuffix = 0 from rfl, UInt64.zero_add, UInt64.toNat_ofNat']
  have hcount : c.table.nextSuffix = .ofNat count := hnext.trans (UInt64.zero_add _)
  have hwords : first.madeUpNames moves =
      (List.range count).map fun k => anonymousName (k % UInt64.size) := by
    simp only [hnames, hnumber, count]
  refine ⟨fun hfew => ?_, hwords, hcount,
    fun request => ⟨fun h => ?_, c.table.handle_anonymous c.world⟩, fun name hname => ?_⟩
  · have hle := first.drawCount_le moves
    have horder : first.madeUpNames moves = (List.range count).map anonymousName := by
      rw [hwords]
      refine List.map_congr_left fun k hk => ?_
      have hlt := List.mem_range.1 hk
      rw [Nat.mod_eq_of_lt (by omega)]
    refine ⟨horder, ?_, ?_⟩
    · rw [horder]
      exact List.nodup_range.map fun _ _ => anonymousName_inj
    · rw [hnext, hnumber]
      exact Nat.mod_eq_of_lt (by omega)
  · exact (c.table.nextSuffix_handle_of_named c.world h).trans hcount
  · rw [hwords] at hname
    obtain ⟨k, _, rfl⟩ := List.mem_map.1 hname
    exact size_anonymousName_lt (Nat.mod_lt k (by decide))

end Chronicle

/-! ### A driver that cannot mount anything -/

namespace MadeUpExample

/-- A device with a driver that recognises it and never mounts it. -/
def world : World ScriptedDriver where
  graph := (Graph.empty.push (.newDirectory "/")).push (.newImage "disk" [])
  drivers := Store.empty.push { format := "fat", identify := .always, mount := .fails .ioError }

def fat : DriverHandle := ⟨"fat", ⟨0⟩⟩

def first : Chronicle ScriptedDriver := .start ⟨0⟩ ⟨[fat]⟩ world

/-- Two mounts without a name, and a boot scan in between. -/
def moves : List (Move ScriptedDriver) :=
  [.ask (.mount ⟨1⟩ none), .ask (.bootScan 3), .ask (.mountUsing ⟨1⟩ fat none)]

/-- The mounts use up a name each, though they fail; the boot scan does not. -/
theorem failed_mounts_use_up_names :
    first.madeUpNames moves = ["volume0", "volume1"] ∧
    (first.madeUpNames moves).Nodup ∧ (first.run moves).table.nextSuffix.toNat = 2 := by
  obtain ⟨hfew, _⟩ := Chronicle.made_up_names_in_order ⟨0⟩ ⟨[fat]⟩ world moves
  exact hfew (by decide)

end MadeUpExample

end VolumeService
