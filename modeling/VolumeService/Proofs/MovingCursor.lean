import Mathlib.Data.List.Nodup
import Mathlib.Data.List.Infix
import VolumeService.Cursor
import VolumeService.Proofs.DirectoryOrder

/-! # Cursors over directories that change

A cursor keeps a position and no more, and the directory may change between any two steps of it.  A
*traversal* follows one cursor and the directory together.

* **Turns** (`Traversal.Turn`).  The cursor reads on, a node is made, a child is entered, or a name
  is taken out.  A change that is refused changes nothing.
* **What a turn does** (`Traversal.Effect`).  The cursor reads the line at its position or finds
  nothing there; the directory gains a name, loses one, or stays.
* **Names ahead** (`Traversal.Due`).  A name that stands at the position or after it is yet to be
  read.  New names can only push it further away, so it stays due until it is read.
* **Names read** (`Traversal.Past`).  A name that was read stands before the position.  Names that
  are taken out can only pull it further back, so it is not read again.
* So a cursor misses nothing while names only come, and repeats nothing while names only go
  (`Traversal.reads_of_changing_directory`). -/

namespace VolumeService

theorem Cursor.listingSize_of_directory? {g : Graph} {dir : NodeId} {children : Directory NodeId}
    (h : g.directory? dir = some children) : listingSize g dir = children.size := by
  unfold Graph.directory? at h
  unfold listingSize
  split at h
  next hc =>
    obtain rfl := Option.some.inj h
    rw [hc]
  next => cases h

/-! ### Traversals -/

/-- What can happen next while a cursor goes over a directory. -/
inductive Traversal.Turn where
  | next
  | make (node : Node)
  | add (child : NodeId)
  | remove (name : String)

/-- A cursor, the graph that it reads from, and the lines that it has read, with their
positions. -/
structure Traversal where
  graph : Graph
  cursor : Cursor := .start
  read : List (UInt64 × Line) := []

namespace Traversal

/-- Does the turn enter a child? -/
def Turn.adds : Turn → Bool
  | add _ => true
  | _ => false

/-- Does the turn take a name out? -/
def Turn.removes : Turn → Bool
  | remove _ => true
  | _ => false

/-- The traversal of a directory after one more turn. -/
def step (dir : NodeId) (s : Traversal) : Turn → Traversal
  | .next =>
    match s.cursor.next? s.graph dir with
    | some (line, cursor) => { s with cursor, read := s.read ++ [line] }
    | none => s
  | .make node => { s with graph := s.graph.push node }
  | .add child =>
    match s.graph.add dir child with
    | .ok graph => { s with graph }
    | .error _ => s
  | .remove name =>
    match s.graph.remove dir name with
    | .ok (_, graph) => { s with graph }
    | .error _ => s

def run (dir : NodeId) (s : Traversal) (turns : List Turn) : Traversal := turns.foldl (step dir) s

/-- The position of the line that is read next. -/
def position (s : Traversal) : Nat := s.cursor.position.toNat

/-- The names read so far, in order. -/
def names (s : Traversal) : List String := s.read.map fun line => line.2.name

/-- At no moment are there more lines in the directory than positions. -/
def Roomy (dir : NodeId) (s : Traversal) (turns : List Turn) : Prop :=
  ∀ before, before <+: turns → Cursor.listingSize (s.run dir before).graph dir < UInt64.size

/-- A cursor that has not read anything yet. -/
def start (g : Graph) : Traversal := { graph := g }

theorem run_append (dir : NodeId) (s : Traversal) (first second : List Turn) :
    s.run dir (first ++ second) = (s.run dir first).run dir second := List.foldl_append ..

theorem Roomy.tail {dir : NodeId} {s : Traversal} {turn : Turn} {rest : List Turn}
    (h : s.Roomy dir (turn :: rest)) : (s.step dir turn).Roomy dir rest :=
  fun before hbefore => h (turn :: before) ((List.cons_prefix_cons).2 ⟨rfl, hbefore⟩)

theorem Roomy.of_append {dir : NodeId} {s : Traversal} {first second : List Turn}
    (h : s.Roomy dir (first ++ second)) :
    s.Roomy dir first ∧ (s.run dir first).Roomy dir second := by
  refine ⟨fun before hbefore => ?_, fun before hbefore => ?_⟩
  · exact h before (hbefore.trans (List.prefix_append ..))
  · rw [← run_append]
    exact h (first ++ before) ((List.prefix_append_right_inj first).2 hbefore)

/-- The cursor has read one line at each position before its own. -/
structure Sound (dir : NodeId) (s : Traversal) (d : Directory NodeId) : Prop where
  directory : s.graph.directory? dir = some d
  position : s.position = s.read.length
  positions : s.read.map (fun line => line.1.toNat) = List.range s.read.length

/-- What a turn does to the directory and to the cursor. -/
inductive Effect (s s' : Traversal) (d d' : Directory NodeId) : Turn → Prop where
  /-- The line at the position was read. -/
  | read {entry : String × NodeId} (hentry : d.nth? s.position = some entry)
      (hread : s'.read = s.read ++ [(s.cursor.position, ⟨entry.1, s.graph.kind entry.2⟩)])
      (hposition : s'.position = s.position + 1) (hd : d' = d) : Effect s s' d d' .next
  /-- There was no line at the position. -/
  | ended (hend : d.nth? s.position = none) (hs : s' = s) (hd : d' = d) : Effect s s' d d' .next
  /-- The directory has a new name. -/
  | entered {child : NodeId} (hnew : d.contains (s.graph.name child) = false)
      (hread : s'.read = s.read) (hposition : s'.position = s.position)
      (hd : d' = d.insert (s.graph.name child) child) : Effect s s' d d' (.add child)
  /-- The directory has lost a name. -/
  | left {name : String} (hread : s'.read = s.read) (hposition : s'.position = s.position)
      (hd : d' = d.erase name) : Effect s s' d d' (.remove name)
  /-- Nothing that concerns the directory or the cursor has changed. -/
  | still {turn : Turn} (hturn : turn ≠ .next)
      (hadd : ∀ child, turn = .add child → d.contains (s.graph.name child) = true)
      (hread : s'.read = s.read) (hposition : s'.position = s.position) (hd : d' = d) :
      Effect s s' d d' turn

variable {dir : NodeId} {s s' : Traversal} {d d' : Directory NodeId} {turns : List Turn}

/-- A turn has one of the effects there are, and leaves the traversal sound. -/
theorem Sound.step (h : s.Sound dir d) (hsize : d.size < UInt64.size) (turn : Turn) :
    ∃ d', (s.step dir turn).Sound dir d' ∧ Effect s (s.step dir turn) d d' turn := by
  cases turn with
  | next =>
      have hnext := Cursor.next?_of_directory? h.directory s.cursor
      rw [Traversal.step]
      cases hentry : d.nth? s.position with
      | none =>
          rw [hnext, show d.nth? s.cursor.position.toNat = none from hentry]
          exact ⟨d, h, .ended hentry rfl rfl⟩
      | some entry =>
          rw [hnext, show d.nth? s.cursor.position.toNat = some entry from hentry]
          -- the position does not wrap around, since the line at it is one of fewer than 2 ^ 64
          have hlt : s.position < d.size := by
            rw [← Directory.nth?_isSome_iff, hentry]
            rfl
          have hposition : (s.cursor.position + 1).toNat = s.position + 1 := by
            rw [UInt64.toNat_add]
            exact Nat.mod_eq_of_lt (Nat.lt_of_le_of_lt hlt hsize)
          refine ⟨d, ⟨h.directory, ?_, ?_⟩, .read hentry rfl hposition rfl⟩
          · show (s.cursor.position + 1).toNat = (s.read ++ [_]).length
            rw [hposition, h.position, List.length_append, List.length_singleton]
          · show (s.read ++ [_]).map _ = List.range (s.read ++ [_]).length
            rw [List.map_append, h.positions, List.length_append, List.length_singleton,
              List.range_succ, ← h.position]
            rfl
  | make node =>
      refine ⟨d, ⟨Graph.directory?_push h.directory node, h.position, h.positions⟩, ?_⟩
      exact .still (fun he => by cases he) (fun _ he => by cases he) rfl rfl rfl
  | add child =>
      rw [Traversal.step]
      rcases Graph.add_cases h.directory child with ⟨g', hadd, hnew, hd⟩ | ⟨hadd, hold⟩
      · rw [hadd]
        exact ⟨_, ⟨hd, h.position, h.positions⟩, .entered hnew rfl rfl rfl⟩
      · rw [hadd]
        refine ⟨d, h, .still (fun he => by cases he) (fun other he => ?_) rfl rfl rfl⟩
        obtain rfl := Turn.add.inj he
        exact hold
  | remove name =>
      rw [Traversal.step]
      rcases Graph.remove_cases h.directory name with ⟨child, g', hremove, hd⟩ | hremove
      · rw [hremove]
        exact ⟨_, ⟨hd, h.position, h.positions⟩, .left rfl rfl rfl⟩
      · rw [hremove]
        exact ⟨d, h, .still (fun he => by cases he) (fun _ he => by cases he) rfl rfl rfl⟩

theorem Sound.start {g : Graph} (h : g.directory? dir = some d) : (start g).Sound dir d :=
  ⟨h, rfl, rfl⟩

theorem Sound.next?_eq_none_iff (h : s.Sound dir d) :
    s.cursor.next? s.graph dir = none ↔ d.nth? s.position = none := by
  rw [Cursor.next?_of_directory? h.directory, Option.map_eq_none_iff, Traversal.position]

theorem Sound.size_lt (h : s.Sound dir d) (hroom : s.Roomy dir turns) : d.size < UInt64.size := by
  rw [← Cursor.listingSize_of_directory? h.directory]
  exact hroom [] List.nil_prefix

/-- What the effects of single turns keep, a run keeps. -/
theorem Sound.run_keeps {P : Traversal → Directory NodeId → Prop} (h : s.Sound dir d)
    (hroom : s.Roomy dir turns) (hstart : P s d)
    (hkeep : ∀ turn ∈ turns, ∀ s s' d d', s.Sound dir d → Effect s s' d d' turn →
      P s d → P s' d') :
    ∃ d', (s.run dir turns).Sound dir d' ∧ P (s.run dir turns) d' := by
  induction turns generalizing s d with
  | nil => exact ⟨d, h, hstart⟩
  | cons turn rest ih =>
      obtain ⟨d₁, hsound, heffect⟩ := h.step (h.size_lt hroom) turn
      exact ih hsound hroom.tail (hkeep turn (List.mem_cons_self ..) s _ d d₁ h heffect hstart)
        fun other hmem => hkeep other (List.mem_cons_of_mem _ hmem)

/-! ### Names that are due -/

/-- The name has been read, or it stands at the position of the cursor or after it. -/
def Due (name : String) (s : Traversal) (d : Directory NodeId) : Prop :=
  name ∈ s.names ∨ d.contains name = true ∧ s.position ≤ d.rank name

theorem names_append {line : UInt64 × Line} (h : s'.read = s.read ++ [line]) :
    s'.names = s.names ++ [line.2.name] := by
  rw [names, h, List.map_append]
  rfl

theorem names_congr (h : s'.read = s.read) : s'.names = s.names := by rw [names, h, names]

/-- A name stays due as long as none is taken out. -/
theorem Due.of_effect {name : String} {turn : Turn} (hturn : turn.removes = false)
    (heffect : Effect s s' d d' turn) (h : Due name s d) : Due name s' d' := by
  cases heffect with
  | @read entry hentry hread hposition hd =>
      subst hd
      rw [Due, names_append hread, List.mem_append]
      rcases h with hmem | ⟨hlisted, hrank⟩
      · exact .inl (.inl hmem)
      · by_cases he : s.position = d'.rank name
        · -- the name stands at the position, so it is the one that was read
          obtain ⟨value, hvalue⟩ := Option.isSome_iff_exists.1 hlisted
          rw [he, Directory.nth?_rank hvalue] at hentry
          obtain rfl := Option.some.inj hentry
          exact .inl (.inr (List.mem_singleton_self _))
        · refine .inr ⟨hlisted, ?_⟩
          omega
  | ended _ hs hd =>
      rw [hs, hd]
      exact h
  | @entered child hnew hread hposition hd =>
      rw [Due, names_congr hread, hposition, hd]
      refine h.imp_right fun ⟨hlisted, hrank⟩ => ⟨?_, ?_⟩
      · exact (d.contains_insert _ _ name).2 (.inr hlisted)
      · exact Nat.le_trans hrank (Directory.rank_le_rank_insert hnew child name)
  | left => cases hturn
  | still _ _ hread hposition hd =>
      rw [Due, names_congr hread, hposition, hd]
      exact h

/-- When the cursor has come to the end, all that was due has been read. -/
theorem Due.mem_of_end {name : String} (h : Due name s d) (hend : d.nth? s.position = none) :
    name ∈ s.names := by
  rcases h with hmem | ⟨hlisted, hrank⟩
  · exact hmem
  · have hlt := Directory.rank_lt_size hlisted
    have hle := Directory.nth?_eq_none_iff.1 hend
    omega

/-! ### Names that are past -/

/-- No name was read twice, and those that were read and are still there stand before the
cursor. -/
def Past (s : Traversal) (d : Directory NodeId) : Prop :=
  s.names.Nodup ∧ ∀ name ∈ s.names, d.contains name = true → d.rank name < s.position

/-- Names that were read stay past as long as none is entered. -/
theorem Past.of_effect {turn : Turn} (hturn : turn.adds = false)
    (heffect : Effect s s' d d' turn) (h : Past s d) : Past s' d' := by
  obtain ⟨hnodup, hpast⟩ := h
  cases heffect with
  | @read entry hentry hread hposition hd =>
      subst hd
      have hrank : d'.rank entry.1 = s.position := Directory.rank_of_nth? hentry
      have hnew : entry.1 ∉ s.names := fun hmem => by
        have hlt := hpast _ hmem (Directory.contains_of_nth? hentry)
        omega
      rw [Past, names_append hread, hposition]
      refine ⟨?_, fun name hmem hlisted => ?_⟩
      · refine List.nodup_append.2 ⟨hnodup, List.nodup_singleton _, ?_⟩
        intro name hmem other hother he
        rw [he, List.mem_singleton.1 hother] at hmem
        exact hnew hmem
      · rcases List.mem_append.1 hmem with hmem | hmem
        · have hlt := hpast name hmem hlisted
          omega
        · obtain rfl := List.mem_singleton.1 hmem
          exact Nat.lt_succ_of_le (Nat.le_of_eq hrank)
  | ended _ hs hd =>
      rw [hs, hd]
      exact ⟨hnodup, hpast⟩
  | entered => cases hturn
  | @left gone hread hposition hd =>
      rw [Past, names_congr hread, hposition, hd]
      refine ⟨hnodup, fun name hmem hlisted => ?_⟩
      have hlt := hpast name hmem (Directory.contains_of_contains_erase hlisted)
      exact Nat.lt_of_le_of_lt (d.rank_erase_le gone name) hlt
  | still _ _ hread hposition hd =>
      rw [Past, names_congr hread, hposition, hd]
      exact ⟨hnodup, hpast⟩

/-! ### Directories that stay -/

/-- The names read are the first ones of the directory, up to a number or all of them. -/
theorem names_of_unchanged (h : s.Sound dir d) (hroom : s.Roomy dir turns)
    (hnext : ∀ turn ∈ turns, turn = .next) (hnames : s.names = d.names.take s.read.length) :
    (s.run dir turns).names = d.names.take (s.read.length + turns.length) := by
  induction turns generalizing s with
  | nil => exact hnames
  | cons turn rest ih =>
      obtain rfl := hnext turn (List.mem_cons_self ..)
      have hrest := fun other hmem => hnext other (List.mem_cons_of_mem _ hmem)
      obtain ⟨d', hsound, heffect⟩ := h.step (h.size_lt hroom) .next
      show ((s.step dir .next).run dir rest).names = _
      cases heffect with
      | @read entry hentry hread _ hd =>
          subst hd
          have hname : d'.names[s.read.length]? = some entry.1 := by
            rw [← h.position, Directory.names, List.getElem?_map]
            exact congrArg (Option.map _) hentry
          have hlength : (s.step dir .next).read.length = s.read.length + 1 := by
            rw [hread, List.length_append, List.length_singleton]
          rw [ih hsound hroom.tail hrest, hlength, List.length_cons, Nat.add_assoc,
            Nat.add_comm 1]
          rw [names_append hread, hnames, hlength, List.take_add_one, hname]
          rfl
      | ended hend hs hd =>
          -- past the end more steps read nothing, and there are no more names to take
          have hle : d.names.length ≤ s.read.length := by
            rw [← h.position, Directory.names, List.length_map]
            exact Directory.nth?_eq_none_iff.1 hend
          rw [hs, ih h (hs ▸ hroom.tail) hrest hnames,
            List.take_of_length_le (Nat.le_trans hle (Nat.le_add_right ..)),
            List.take_of_length_le (Nat.le_trans hle (Nat.le_add_right ..))]
      | still hturn => exact absurd rfl hturn

/-! ### What a cursor reads -/

theorem Sound.run (h : s.Sound dir d) (hroom : s.Roomy dir turns) :
    ∃ d', (s.run dir turns).Sound dir d' := by
  obtain ⟨d', hsound, -⟩ := h.run_keeps (P := fun _ _ => True) hroom trivial
    fun _ _ _ _ _ _ _ _ _ => trivial
  exact ⟨d', hsound⟩

/-- A step of the cursor reads the line that is at its position now, if there is one. -/
theorem Sound.read_next (h : s.Sound dir d) (hsize : d.size < UInt64.size) :
    (s.run dir [.next]).read = s.read ++ ((d.nth? s.read.length).map fun entry =>
      (s.cursor.position, (⟨entry.1, s.graph.kind entry.2⟩ : Line))).toList := by
  obtain ⟨_, -, heffect⟩ := h.step hsize .next
  show (s.step dir .next).read = _
  rw [← h.position]
  cases heffect with
  | read hentry hread => rw [hread, hentry]; rfl
  | ended hend hs => rw [hs, hend, Option.map_none, Option.toList_none, List.append_nil]
  | still hturn => exact absurd rfl hturn

/-- A name that is entered after the cursor, or is there already, is due. -/
theorem Sound.due_of_add {child : NodeId} (h : s.Sound dir d) (hsize : d.size < UInt64.size)
    (hrank : s.position ≤ d.rank (s.graph.name child)) :
    ∃ d', (s.step dir (.add child)).Sound dir d' ∧
      Due (s.graph.name child) (s.step dir (.add child)) d' := by
  obtain ⟨d', hsound, heffect⟩ := h.step hsize (.add child)
  refine ⟨d', hsound, .inr ?_⟩
  cases heffect with
  | entered hnew _ hposition hd =>
      rw [hposition, hd, Directory.rank_insert_self hnew]
      exact ⟨(d.contains_insert _ _ _).2 (.inl rfl), hrank⟩
  | still _ hadd _ hposition hd =>
      rw [hposition, hd]
      exact ⟨hadd child rfl, hrank⟩

/-- What is due is read by the time that the cursor comes to the end, if nothing is taken out
until then. -/
theorem Due.mem_of_run {name : String} (hdue : Due name s d) (h : s.Sound dir d)
    (hroom : s.Roomy dir turns) (hkeep : ∀ turn ∈ turns, turn.removes = false)
    (hend : (s.run dir turns).cursor.next? (s.run dir turns).graph dir = none) :
    name ∈ (s.run dir turns).names := by
  obtain ⟨d', hsound, hdue⟩ := h.run_keeps hroom hdue fun turn hmem _ _ _ _ _ heffect =>
    Due.of_effect (hkeep turn hmem) heffect
  exact hdue.mem_of_end (hsound.next?_eq_none_iff.1 hend)

/-- **Cursors over directories that change.**  Whatever happens between its steps, a cursor reads
the positions `0, 1, 2, …` without gaps, and at each of them the line that stands there at that
moment.

* **Names that come.**  If names are only entered until the cursor finds nothing more, then it has
  read all that were there at the start, and each that was entered at its position or after it.
* **Names that go.**  If names are only taken out, then it reads none twice.
* **No changes.**  Then it reads each name once, in byte order. -/
theorem reads_of_changing_directory {g : Graph} {children : Directory NodeId}
    (h : g.directory? dir = some children) (turns : List Turn)
    (hroom : (start g).Roomy dir turns) :
    ((((start g).run dir turns).read.map fun line => line.1.toNat) =
        List.range ((start g).run dir turns).read.length ∧
      ∀ before after, turns = before ++ .next :: after →
        ∃ now d, now = (start g).run dir before ∧ now.graph.directory? dir = some d ∧
          ((start g).run dir (before ++ [.next])).read =
            now.read ++ ((d.nth? now.read.length).map fun entry =>
              (now.cursor.position, (⟨entry.1, now.graph.kind entry.2⟩ : Line))).toList) ∧
    ((∀ turn ∈ turns, turn.removes = false) →
      ((start g).run dir turns).cursor.next? ((start g).run dir turns).graph dir = none →
      (∀ name ∈ children.names, name ∈ ((start g).run dir turns).names) ∧
      ∀ before child after, turns = before ++ .add child :: after →
        ∀ now d, now = (start g).run dir before → now.graph.directory? dir = some d →
          now.position ≤ d.rank (now.graph.name child) →
          now.graph.name child ∈ ((start g).run dir turns).names) ∧
    ((∀ turn ∈ turns, turn.adds = false) → ((start g).run dir turns).names.Nodup) ∧
    ((∀ turn ∈ turns, turn = .next) →
      ((start g).run dir turns).names = children.names.take turns.length ∧
      (children.size ≤ turns.length → ((start g).run dir turns).names = children.names) ∧
      children.names.Pairwise Name.Before) := by
  have hstart : (start g).Sound dir children := .start h
  refine ⟨⟨?_, ?_⟩, fun hkeep hend => ⟨?_, ?_⟩, fun hkeep => ?_, fun hnext => ?_⟩
  · obtain ⟨_, hsound⟩ := hstart.run hroom
    exact hsound.positions
  · rintro before after rfl
    obtain ⟨d, hsound⟩ := hstart.run hroom.of_append.1
    refine ⟨_, d, rfl, hsound.directory, ?_⟩
    rw [run_append]
    exact hsound.read_next (hsound.size_lt hroom.of_append.2)
  · intro name hmem
    have hdue : Due name (start g) children :=
      .inr ⟨Directory.mem_names_iff.1 hmem, Nat.zero_le _⟩
    exact hdue.mem_of_run hstart hroom hkeep hend
  · rintro before child after rfl now d rfl hd hrank
    obtain ⟨d', hsound⟩ := hstart.run hroom.of_append.1
    obtain rfl : d' = d := Option.some.inj (hsound.directory.symm.trans hd)
    have hrest := hroom.of_append.2
    obtain ⟨_, hsound₁, hdue⟩ := hsound.due_of_add (hsound.size_lt hrest) hrank
    rw [run_append] at hend ⊢
    refine hdue.mem_of_run hsound₁ hrest.tail (fun turn hmem => hkeep turn ?_) hend
    exact List.mem_append_right _ (List.mem_cons_of_mem _ hmem)
  · have hpast : Past (start g) children := ⟨List.nodup_nil, fun _ hmem => by cases hmem⟩
    obtain ⟨_, -, hnodup, -⟩ := hstart.run_keeps hroom hpast
      fun turn hmem _ _ _ _ _ heffect => Past.of_effect (hkeep turn hmem) heffect
    exact hnodup
  · have hnames := names_of_unchanged hstart hroom hnext rfl
    rw [show (start g).read.length = 0 from rfl, Nat.zero_add] at hnames
    refine ⟨hnames, fun hle => ?_, children.names_sorted⟩
    rw [hnames, List.take_of_length_le]
    rw [Directory.names, List.length_map]
    exact hle

end Traversal

/-! ### A name that is entered while a cursor goes over the directory -/

namespace TraversalExample

def devices : Directory NodeId := (Directory.empty.insert "b" ⟨1⟩).insert "d" ⟨2⟩

def graph : Graph :=
  ((Graph.empty.push { name := "dev", content := .directory devices }).push
    (.newImage "b" [])).push (.newImage "d" [])

/-- The name `c` is entered once `b` has been read. -/
def turns : List Traversal.Turn :=
  [.next, .make (.newImage "c" []), .add ⟨3⟩, .next, .next, .next]

theorem roomy : (Traversal.start graph).Roomy ⟨0⟩ turns := by
  intro before hbefore
  have hall : ∀ before ∈ turns.inits,
      Cursor.listingSize ((Traversal.start graph).run ⟨0⟩ before).graph ⟨0⟩ < UInt64.size := by
    decide
  exact hall before ((List.mem_inits before turns).2 hbefore)

/-- No name is missed, and the one that came is read at its place. -/
theorem entered_name_is_read :
    graph.directory? ⟨0⟩ = some devices ∧ (Traversal.start graph).Roomy ⟨0⟩ turns ∧
      (∀ name ∈ ["b", "c", "d"], name ∈ ((Traversal.start graph).run ⟨0⟩ turns).names) ∧
      ((Traversal.start graph).run ⟨0⟩ turns).names = ["b", "c", "d"] := by
  obtain ⟨_, hcome, _⟩ := Traversal.reads_of_changing_directory (g := graph) rfl turns roomy
  obtain ⟨hthere, hentered⟩ := hcome (by decide) rfl
  have hc := hentered [.next, .make (.newImage "c" [])] ⟨3⟩ [.next, .next, .next] rfl _ devices
    rfl rfl (by decide)
  refine ⟨rfl, roomy, ?_, rfl⟩
  intro name hname
  rcases List.mem_cons.1 hname with rfl | hname
  · exact hthere "b" (by decide)
  rcases List.mem_cons.1 hname with rfl | hname
  · exact hc
  · obtain rfl := List.mem_singleton.1 hname
    exact hthere "d" (by decide)

end TraversalExample

end VolumeService
