import VolumeService.Proofs.DirectoryGrowth
import VolumeService.Proofs.MountOutcome
import VolumeService.Session.TableSteps

/-! # Scans end

Nothing in a cursor bounds the number of its steps: it may be set to any position, and the directory
may grow while the cursor goes over it.  But a step that finds a line finds it below the number of
lines that there are now, and that is at most the number at the start and what has been entered
since.

* **Steps** (`Cursor.next?_advances`).  A step that finds a line moves on by one without wrapping
  around, since there are fewer lines than positions.
* **Traversals** (`Traversal.Ends`).  With `n` lines at the start and `m` more children entered, the
  positions from the cursor to `n + m` are all that it can read, and after as many steps there is
  one that finds nothing.
* **Directories that stay** (`Cursor.ReadsRest`) are read from the cursor to their end.
* **Boot scans** (`MountTable.ScanEnds`).  A scan that may read more lines goes on where one with a
  lower limit stops (`MountTable.scan_add`), so the scan with limit `k` shows the state after `k`
  lines, and a limit above `n + m` is as good as none.
* All together: `scans_of_directories_end`.  For scripted drivers, `m` is known beforehand, so the
  limit that sessions give to boot scans is never reached (`Session.bootScan_finishes`). -/

namespace VolumeService

/-! ### Steps of a cursor -/

namespace Cursor

variable {g : Graph} {dir : NodeId} {children : Directory NodeId} {cursor after : Cursor}
  {line : UInt64 × Line}

theorem next?_advances (h : cursor.next? g dir = some (line, after))
    (hsize : listingSize g dir < UInt64.size) :
    line.1.toNat = cursor.position.toNat ∧ cursor.position.toNat < listingSize g dir ∧
      after.position.toNat = cursor.position.toNat + 1 := by
  obtain ⟨hline, hafter⟩ := position_of_next? h
  obtain ⟨_, hfound, _⟩ := Option.map_eq_some_iff.1 h
  have hlt := lt_listingSize_of_line? hfound
  refine ⟨congrArg UInt64.toNat hline, hlt, ?_⟩
  rw [hafter, UInt64.toNat_add]
  exact Nat.mod_eq_of_lt (Nat.lt_of_le_of_lt hlt hsize)

/-- What a cursor reads of a directory that stays: the lines from its position to the end, each with
its position.  Then it stands at the end, or where it was if that is behind the end, and finds
nothing more. -/
structure ReadsRest (g : Graph) (dir : NodeId) (children : Directory NodeId) (cursor : Cursor)
    (result : List (UInt64 × Line) × Cursor) : Prop where
  positions : (result.1.map fun line => line.1.toNat) =
    List.range' cursor.position.toNat (children.size - cursor.position.toNat)
  lines : result.1.map Prod.snd =
    (children.entries.drop cursor.position.toNat).map fun entry => ⟨entry.1, g.kind entry.2⟩
  position : result.2.position.toNat = max cursor.position.toNat children.size
  done : result.2.next? g dir = none

theorem readsRest_of_end (h : g.directory? dir = some children)
    (hend : children.size ≤ cursor.position.toNat) :
    ReadsRest g dir children cursor ([], cursor) where
  positions := by
    rw [Nat.sub_eq_zero_of_le hend]
    rfl
  lines := by
    rw [List.drop_eq_nil_of_le hend]
    rfl
  position := (Nat.max_eq_left hend).symm
  done := by
    rw [next?_of_directory? h, Directory.nth?_eq_none_iff.2 hend]
    rfl

/-- A limit that is not below the number of lines that are left is never reached. -/
theorem readsRest (h : g.directory? dir = some children) (hsize : children.size < UInt64.size)
    {limit : Nat} (hlimit : children.size ≤ cursor.position.toNat + limit) :
    ReadsRest g dir children cursor (readUpTo g dir limit cursor) := by
  induction limit generalizing cursor with
  | zero => exact readsRest_of_end h hlimit
  | succ limit ih =>
      rw [readUpTo]
      cases hnext : cursor.next? g dir with
      | none =>
          rw [next?_of_directory? h, Option.map_eq_none_iff, Directory.nth?_eq_none_iff] at hnext
          exact readsRest_of_end h hnext
      | some found =>
          obtain ⟨line, after⟩ := found
          have hlines : listingSize g dir = children.size := listingSize_of_directory? h
          obtain ⟨hline, hlt, hafter⟩ := next?_advances hnext (hlines ▸ hsize)
          rw [hlines] at hlt
          rw [next?_of_directory? h] at hnext
          obtain ⟨entry, hentry, he⟩ := Option.map_eq_some_iff.1 hnext
          obtain ⟨rfl, rfl⟩ := Prod.mk.inj he
          have hrest : ReadsRest g dir children ⟨cursor.position + 1⟩
              (readUpTo g dir limit ⟨cursor.position + 1⟩) := ih (by omega)
          have hdrop : children.entries.drop cursor.position.toNat =
              entry :: children.entries.drop (cursor.position.toNat + 1) := by
            rw [List.drop_eq_getElem_cons hlt]
            exact congrArg (· :: _) ((List.getElem_eq_iff hlt).2 hentry)
          dsimp only
          refine ⟨?_, ?_, ?_, hrest.done⟩
          · rw [List.map_cons, hrest.positions, hafter, ← List.range'_succ]
            congr 1
            omega
          · rw [List.map_cons, hrest.lines, hafter, hdrop, List.map_cons]
          · rw [hrest.position, hafter]
            omega

end Cursor

/-! ### Traversals -/

namespace Traversal

/-- Is the turn a step of the cursor? -/
def Turn.reads : Turn → Bool
  | next => true
  | _ => false

/-- How a traversal goes on that has no more than `bound` lines before it at any moment. -/
structure Ends (dir : NodeId) (s : Traversal) (turns : List Turn) (bound : Nat) : Prop where
  /-- No more lines are read than there are positions from the cursor to the bound. -/
  few : ∃ lines, (s.run dir turns).read = s.read ++ lines ∧ lines.length ≤ bound - s.position
  /-- A line is read at the position of the cursor, below the bound, and then the cursor stands at
  the next position. -/
  below : ∀ before after, turns = before ++ .next :: after → ∀ now, now = s.run dir before →
    ∀ line cursor, now.cursor.next? now.graph dir = some (line, cursor) →
      line.1.toNat = now.position ∧ now.position < bound ∧
        cursor.position.toNat = now.position + 1
  /-- A step that finds nothing changes nothing. -/
  stays : ∀ before after, turns = before ++ .next :: after → ∀ now, now = s.run dir before →
    now.cursor.next? now.graph dir = none → s.run dir (before ++ [.next]) = now
  /-- With more steps than that there is one that finds nothing, after no more steps than that. -/
  ends : bound - s.position < turns.countP Turn.reads →
    ∃ before after, turns = before ++ .next :: after ∧
      (s.run dir before).cursor.next? (s.run dir before).graph dir = none ∧
      before.countP Turn.reads ≤ bound - s.position

variable {dir : NodeId} {s : Traversal} {turns : List Turn} {bound : Nat}

/-- At no moment does the listing have more lines than that. -/
def Bounded (dir : NodeId) (s : Traversal) (turns : List Turn) (bound : Nat) : Prop :=
  ∀ before, before <+: turns → Cursor.listingSize (s.run dir before).graph dir ≤ bound

theorem Bounded.tail {turn : Turn} {rest : List Turn} (h : s.Bounded dir (turn :: rest) bound) :
    (s.step dir turn).Bounded dir rest bound :=
  fun before hbefore => h (turn :: before) ((List.cons_prefix_cons).2 ⟨rfl, hbefore⟩)

theorem bounded_of_entered {children : Directory NodeId} {m : Nat}
    (h : s.graph.directory? dir = some children) (hm : s.entered dir turns ≤ m) :
    s.Bounded dir turns (children.size + m) := by
  rintro before ⟨after, rfl⟩
  have hgains := gains_run (Graph.has_of_directory? h) before
  rw [entered_append] at hm
  rw [← Cursor.listingSize_of_directory? h]
  refine Nat.le_trans hgains.listingSize_le (Nat.add_le_add_left ?_ _)
  exact Nat.le_trans (Nat.le_add_right ..) hm

/-- What a turn does to the cursor, if the listing has no more than `bound` lines. -/
inductive Move (dir : NodeId) (bound : Nat) (s s' : Traversal) : Turn → Prop where
  /-- There was nothing to read. -/
  | ended (hend : s.cursor.next? s.graph dir = none) (hs : s' = s) : Move dir bound s s' .next
  /-- A line below the bound was read. -/
  | read {line : UInt64 × Line} (hlt : s.position < bound) (hread : s'.read = s.read ++ [line])
      (hposition : s'.position = s.position + 1) : Move dir bound s s' .next
  /-- It was not the cursor's turn. -/
  | still {turn : Turn} (hturn : turn.reads = false) (hread : s'.read = s.read)
      (hposition : s'.position = s.position) : Move dir bound s s' turn

theorem Bounded.move {turn : Turn} {rest : List Turn} (hroom : s.Roomy dir (turn :: rest))
    (hbound : s.Bounded dir (turn :: rest) bound) :
    Move dir bound s (s.step dir turn) turn := by
  cases turn with
  | next =>
      rw [step]
      cases hnext : s.cursor.next? s.graph dir with
      | none => exact .ended hnext rfl
      | some found =>
          obtain ⟨_, hlt, hposition⟩ := Cursor.next?_advances hnext (hroom [] List.nil_prefix)
          exact .read (Nat.lt_of_lt_of_le hlt (hbound [] List.nil_prefix)) rfl hposition
  | make node => exact .still rfl rfl rfl
  | add child =>
      rw [step]
      split <;> exact .still rfl rfl rfl
  | remove name =>
      rw [step]
      split <;> exact .still rfl rfl rfl

theorem Bounded.few (hbound : s.Bounded dir turns bound) (hroom : s.Roomy dir turns) :
    ∃ lines, (s.run dir turns).read = s.read ++ lines ∧ lines.length ≤ bound - s.position := by
  induction turns generalizing s with
  | nil => exact ⟨[], (List.append_nil _).symm, Nat.zero_le _⟩
  | cons turn rest ih =>
      obtain ⟨lines, hlines, hfew⟩ := ih hbound.tail hroom.tail
      have hrun : (s.run dir (turn :: rest)).read = (s.step dir turn).read ++ lines := hlines
      cases hbound.move hroom with
      | ended _ hs =>
          rw [hs] at hrun hfew
          exact ⟨lines, hrun, hfew⟩
      | @read line hlt hread hposition =>
          refine ⟨line :: lines, ?_, ?_⟩
          · rw [hrun, hread, List.append_assoc, List.singleton_append]
          · rw [List.length_cons]
            omega
      | still _ hread hposition =>
          rw [hread] at hrun
          rw [hposition] at hfew
          exact ⟨lines, hrun, hfew⟩

theorem Bounded.ends (hbound : s.Bounded dir turns bound) (hroom : s.Roomy dir turns)
    (hmany : bound - s.position < turns.countP Turn.reads) :
    ∃ before after, turns = before ++ .next :: after ∧
      (s.run dir before).cursor.next? (s.run dir before).graph dir = none ∧
      before.countP Turn.reads ≤ bound - s.position := by
  induction turns generalizing s with
  | nil => cases hmany
  | cons turn rest ih =>
      -- a step that finds nothing ends it, and any other turn is one more before the rest
      have hrest := ih hbound.tail hroom.tail
      cases hbound.move hroom with
      | ended hend _ => exact ⟨[], rest, rfl, hend, Nat.zero_le _⟩
      | read hlt _ hposition =>
          rw [List.countP_cons_of_pos rfl] at hmany
          obtain ⟨before, after, rfl, hend, hle⟩ := hrest (by omega)
          refine ⟨.next :: before, after, rfl, hend, ?_⟩
          rw [List.countP_cons_of_pos rfl]
          omega
      | still hturn _ hposition =>
          rw [List.countP_cons_of_neg (Bool.eq_false_iff.1 hturn)] at hmany
          obtain ⟨before, after, rfl, hend, hle⟩ := hrest (by omega)
          refine ⟨turn :: before, after, rfl, hend, ?_⟩
          rw [List.countP_cons_of_neg (Bool.eq_false_iff.1 hturn)]
          omega

theorem Ends.of_bounded (hbound : s.Bounded dir turns bound) (hroom : s.Roomy dir turns) :
    s.Ends dir turns bound where
  few := hbound.few hroom
  below := by
    rintro before after rfl now rfl line cursor hnext
    have hbefore : before <+: before ++ .next :: after := List.prefix_append ..
    obtain ⟨hline, hlt, hposition⟩ := Cursor.next?_advances hnext (hroom before hbefore)
    exact ⟨hline, Nat.lt_of_lt_of_le hlt (hbound before hbefore), hposition⟩
  stays := by
    rintro before after - now rfl hend
    rw [run_append]
    show step dir _ .next = _
    rw [step, hend]
  ends := hbound.ends hroom

end Traversal

/-! ### Boot scans -/

namespace MountTable

variable {σ : Type} [DriverModel σ]

/-- A scan that may read more lines goes on where one with a lower limit stops. -/
theorem scan_add {dev : NodeId} {cursor : Cursor} {t : MountTable} {w : World σ} {k : Nat}
    (h : (scan dev k cursor t w).1 = none) (rest : Nat) :
    scan dev (k + rest) cursor t w = scan dev rest ⟨cursor.position + UInt64.ofNat k⟩
      (scan dev k cursor t w).2.1 (scan dev k cursor t w).2.2 := by
  induction k generalizing cursor t w with
  | zero =>
      rw [Nat.zero_add, show UInt64.ofNat 0 = 0 from rfl, UInt64.add_zero]
      rfl
  | succ k ih =>
      have hcursor : ∀ cursor' line, cursor.next? w.graph dev = some (line, cursor') →
          cursor'.position + UInt64.ofNat k = cursor.position + UInt64.ofNat (k + 1) := by
        intro cursor' line hnext
        rw [(Cursor.position_of_next? hnext).2, UInt64.ofNat_add, UInt64.add_assoc,
          UInt64.add_comm 1]
        rfl
      rw [Nat.succ_add]
      cases hnext : cursor.next? w.graph dev with
      | none =>
          simp only [scan, hnext] at h
          cases h
      | some found =>
          obtain ⟨⟨position, line⟩, cursor'⟩ := found
          simp only [scan, hnext] at h ⊢
          rcases hcall : t.trySystem (w.notify (.scanVisits position.toNat line.name)) dev line.name
            with ⟨_ | v, t', w'⟩
          · rw [hcall] at h
            rw [← hcursor _ _ hnext]
            exact ih h
          · rw [hcall] at h
            cases h

/-- A scan that is done stays as it is under a higher limit. -/
theorem scan_of_done {dev : NodeId} {cursor : Cursor} {t : MountTable} {w : World σ} {k : Nat}
    (h : (scan dev k cursor t w).1 ≠ none) (rest : Nat) :
    scan dev (k + rest) cursor t w = scan dev k cursor t w := by
  induction k generalizing cursor t w with
  | zero => exact absurd rfl h
  | succ k ih =>
      rw [Nat.succ_add]
      cases hnext : cursor.next? w.graph dev with
      | none => simp only [scan, hnext]
      | some found =>
          obtain ⟨⟨position, line⟩, cursor'⟩ := found
          simp only [scan, hnext] at h ⊢
          rcases hcall : t.trySystem (w.notify (.scanVisits position.toNat line.name)) dev line.name
            with ⟨_ | v, t', w'⟩
          · rw [hcall] at h
            exact ih h
          · rfl

/-- How a boot scan goes on over a `/dev` that has no more than `bound` lines at any moment; what it
is after `k` lines is what a scan with limit `k` leaves that is not done. -/
structure ScanEnds (t : MountTable) (w : World σ) (dev : NodeId) (bound : Nat) : Prop where
  /-- After `k` lines the scan goes on at position `k`. -/
  resumes : ∀ k, (t.bootScan w k).1 = none → ∀ rest, t.bootScan w (k + rest) =
    scan dev rest ⟨UInt64.ofNat k⟩ (t.bootScan w k).2.1 (t.bootScan w k).2.2
  /-- No more lines are visited than that. -/
  few : ∀ k, (t.bootScan w k).1 = none → k ≤ bound
  /-- A line that is read after `k` lines is read at position `k`, below the bound, and then the
  cursor stands at the next position. -/
  below : ∀ k, (t.bootScan w k).1 = none → ∀ line cursor,
    (Cursor.mk (UInt64.ofNat k)).next? (t.bootScan w k).2.2.graph dev = some (line, cursor) →
      line.1.toNat = k ∧ k < bound ∧ cursor.position.toNat = k + 1
  /-- With one step more than that the scan is done. -/
  ends : ∀ limit, bound < limit → ∃ answer, (t.bootScan w limit).1 = some answer
  /-- Further steps are not made. -/
  same : ∀ limit, bound < limit → t.bootScan w limit = t.bootScan w (bound + 1)

section

variable {t : MountTable} {w : World σ} {dev : NodeId} {bound k : Nat}
  (hsystem : t.system = none) (hdev : Namespace.resolve w.graph t.root devicePath = .ok dev)

include hsystem hdev

theorem bootScan_eq_scan (limit : Nat) : t.bootScan w limit = scan dev limit .start t w := by
  rw [bootScan, hsystem]
  dsimp only
  rw [hdev]

theorem bootScan_add (h : (t.bootScan w k).1 = none) (rest : Nat) :
    t.bootScan w (k + rest) =
      scan dev rest ⟨UInt64.ofNat k⟩ (t.bootScan w k).2.1 (t.bootScan w k).2.2 := by
  have hscan := bootScan_eq_scan hsystem hdev
  rw [hscan] at h
  rw [hscan, hscan, scan_add h, show Cursor.start.position = 0 from rfl, UInt64.zero_add]

theorem bootScan_of_done (h : (t.bootScan w k).1 ≠ none) (rest : Nat) :
    t.bootScan w (k + rest) = t.bootScan w k := by
  have hscan := bootScan_eq_scan hsystem hdev
  rw [hscan] at h
  rw [hscan, hscan, scan_of_done h]

variable (hlines : ∀ k, (t.bootScan w k).1 = none →
  Cursor.listingSize (t.bootScan w k).2.2.graph dev < UInt64.size ∧
    Cursor.listingSize (t.bootScan w k).2.2.graph dev ≤ bound)

include hlines

/-- While a scan is not done, its position is the number of lines that it has visited, and all of
these were below the bound. -/
theorem visited_le_of_unfinished (h : (t.bootScan w k).1 = none) :
    (UInt64.ofNat k).toNat = k ∧ k ≤ bound := by
  induction k with
  | zero => exact ⟨rfl, Nat.zero_le _⟩
  | succ k ih =>
      have hbefore : (t.bootScan w k).1 = none := by
        by_contra hdone
        exact hdone (bootScan_of_done hsystem hdev hdone 1 ▸ h)
      obtain ⟨hposition, _⟩ := ih hbefore
      obtain ⟨hsize, hbound⟩ := hlines k hbefore
      -- the scan went on after `k` lines, so there was a line at position `k`
      rw [bootScan_add hsystem hdev hbefore 1] at h
      cases hnext : (Cursor.mk (UInt64.ofNat k)).next? (t.bootScan w k).2.2.graph dev with
      | none =>
          simp only [scan, hnext] at h
          cases h
      | some found =>
          obtain ⟨_, hlt, _⟩ := Cursor.next?_advances hnext hsize
          rw [show (Cursor.mk (UInt64.ofNat k)).position.toNat = k from hposition] at hlt
          refine ⟨?_, Nat.le_trans hlt hbound⟩
          rw [UInt64.toNat_ofNat']
          exact Nat.mod_eq_of_lt (Nat.lt_of_le_of_lt hlt hsize)

theorem scanEnds : t.ScanEnds w dev bound := by
  have hvisited : ∀ k, (t.bootScan w k).1 = none → (UInt64.ofNat k).toNat = k ∧ k ≤ bound :=
    fun _ h => visited_le_of_unfinished hsystem hdev hlines h
  have hdone : ∀ limit, bound < limit → (t.bootScan w limit).1 ≠ none :=
    fun limit hlimit h => Nat.not_le.2 hlimit (hvisited limit h).2
  refine ⟨fun _ => bootScan_add hsystem hdev, fun k h => (hvisited k h).2,
    fun k h line cursor hnext => ?_, fun limit hlimit => ?_, fun limit hlimit => ?_⟩
  · obtain ⟨hsize, hbound⟩ := hlines k h
    obtain ⟨hline, hlt, hposition⟩ := Cursor.next?_advances hnext hsize
    have hk : (Cursor.mk (UInt64.ofNat k)).position.toNat = k := (hvisited k h).1
    rw [hk] at hline hlt hposition
    exact ⟨hline, Nat.lt_of_lt_of_le hlt hbound, hposition⟩
  · exact Option.ne_none_iff_exists'.1 (hdone limit hlimit)
  · obtain ⟨more, rfl⟩ := Nat.exists_eq_add_of_lt hlimit
    rw [show bound + more + 1 = bound + 1 + more by omega]
    exact bootScan_of_done hsystem hdev (hdone _ (Nat.lt_succ_self _)) more

end

end MountTable

/-- **Scans end.**  Over a directory that has `n` lines at the start, and into which no more than
`m` children are entered meanwhile, whatever else is done to it, the following hold.

* **Cursors** read at most the lines from where they stand to `n + m`, each at a position below
  `n + m`, so that the next position is still one; a step that finds nothing changes nothing, and
  after as many steps as there may be lines there has been one such.
* **No changes.**  Then the lines from the position of the cursor to the end are read, and nothing
  else.
* **Boot scans** are done after at most `n + m` lines and one step more. -/
theorem scans_of_directories_end {σ : Type} [DriverModel σ] (dir : NodeId)
    (children : Directory NodeId) (m : Nat) :
    (∀ (s : Traversal) turns, s.graph.directory? dir = some children → s.Roomy dir turns →
      s.entered dir turns ≤ m → s.Ends dir turns (children.size + m)) ∧
    (∀ (g : Graph) (cursor : Cursor), g.directory? dir = some children →
      children.size < UInt64.size → ∀ limit, children.size ≤ cursor.position.toNat + limit →
        cursor.ReadsRest g dir children (Cursor.readUpTo g dir limit cursor)) ∧
    ∀ (t : MountTable) (w : World σ), t.system = none →
      Namespace.resolve w.graph t.root devicePath = .ok dir →
      w.graph.directory? dir = some children →
      (∀ k, (t.bootScan w k).1 = none →
        Cursor.listingSize (t.bootScan w k).2.2.graph dir < UInt64.size ∧
          ∃ entered ≤ m, w.graph.Gains dir entered (t.bootScan w k).2.2.graph) →
      t.ScanEnds w dir (children.size + m) := by
  refine ⟨fun s turns hdir hroom hm =>
      Traversal.Ends.of_bounded (Traversal.bounded_of_entered hdir hm) hroom,
    fun g cursor hdir hsize limit hlimit => Cursor.readsRest hdir hsize hlimit,
    fun t w hsystem hdev hdir hgains => MountTable.scanEnds hsystem hdev fun k h => ?_⟩
  obtain ⟨hsize, entered, hle, hgained⟩ := hgains k h
  rw [← Cursor.listingSize_of_directory? hdir]
  exact ⟨hsize, Nat.le_trans hgained.listingSize_le (Nat.add_le_add_left hle _)⟩

/-! ### Scans with scripted drivers -/

namespace MountTable

/-- While a scan is not done, no more children have been entered than the drivers had left. -/
theorem gains_of_unfinished {t : MountTable} {w : World ScriptedDriver} {dir : NodeId}
    (hdir : w.graph.has dir = true) {k : Nat} (h : (t.bootScan w k).1 = none) :
    ∃ entered ≤ w.additionsLeft, w.graph.Gains dir entered (t.bootScan w k).2.2.graph := by
  have houtcome := t.bootScan_outcome w k
  generalize t.bootScan w k = result at h houtcome ⊢
  cases houtcome with
  | already => cases h
  | failed => cases h
  | mounted => cases h
  | unfinished _ hsurveys =>
      obtain ⟨entered, hgains, hle⟩ := World.spends_of_consults hdir hsurveys.consults
      exact ⟨entered, Nat.le_trans (Nat.le_add_right ..) hle, hgains⟩

end MountTable

/-- The limit that a session gives to a boot scan is not reached: the scan is always answered. -/
theorem Session.bootScan_finishes {s : Session} {t : MountTable}
    (hthere : ∀ dev, Namespace.resolve s.graph t.root devicePath = .ok dev →
      s.graph.has dev = true) (hsmall : s.scanLimit t.root ≤ UInt64.size) :
    ∃ answer, (t.bootScan s.world (s.scanLimit t.root)).1 = some answer := by
  cases hsystem : t.system with
  | some v =>
      rw [MountTable.bootScan, hsystem]
      exact ⟨_, rfl⟩
  | none =>
      cases hdev : Namespace.resolve s.graph t.root devicePath with
      | error cause =>
          rw [MountTable.bootScan, hsystem]
          dsimp only
          rw [show Namespace.resolve s.world.graph t.root devicePath = .error cause from hdev]
          exact ⟨_, rfl⟩
      | ok dev =>
          have hlimit : s.scanLimit t.root =
              Cursor.listingSize s.graph dev + s.world.additionsLeft + 1 := by
            rw [Session.scanLimit, hdev, ← List.sum_eq_foldl]
            rfl
          have hends : t.ScanEnds s.world dev
              (Cursor.listingSize s.graph dev + s.world.additionsLeft) := by
            refine MountTable.scanEnds hsystem hdev fun k h => ?_
            obtain ⟨entered, hle, hgains⟩ := MountTable.gains_of_unfinished (hthere dev hdev) h
            have hnow := Nat.le_trans hgains.listingSize_le (Nat.add_le_add_left hle _)
            refine ⟨?_, hnow⟩
            rw [hlimit] at hsmall
            exact Nat.lt_of_le_of_lt hnow hsmall
          exact hends.ends _ (hlimit ▸ Nat.lt_succ_self _)

/-! ### A driver that enters a device into `/dev` when it is asked -/

namespace ScanExample

/-- A root with `/dev`, a disk in it and a disk that is nowhere yet. -/
def graph : Graph :=
  ((((Graph.empty.push
    { name := "/", content := .directory (Directory.empty.insert "dev" ⟨1⟩) }).push
    { name := "dev", content := .directory (Directory.empty.insert "a" ⟨2⟩) }).push
    (.newImage "a" [])).push (.newImage "b" []))

/-- The driver enters the second disk with its first probe, and recognises neither. -/
def world : World ScriptedDriver where
  graph := graph
  drivers := Store.empty.push
    { format := "fat", identify := .never, mount := .directory
      effects := [⟨1, .add ⟨1⟩ ⟨3⟩⟩] }

def table : MountTable := .create ⟨0⟩ ⟨[⟨"fat", ⟨0⟩⟩]⟩

/-- A cursor that is set behind the only line, before a second one comes. -/
def behind : Traversal := { graph, cursor := Cursor.start.seek 1 }

def turns : List Traversal.Turn := [.next, .add ⟨3⟩, .next, .next]

theorem roomy : behind.Roomy ⟨1⟩ turns := by
  intro before hbefore
  have hall : ∀ before ∈ turns.inits,
      Cursor.listingSize (behind.run ⟨1⟩ before).graph ⟨1⟩ < UInt64.size := by decide
  exact hall before ((List.mem_inits before turns).2 hbefore)

/-- While the scan is not done, there are at most two lines. -/
theorem two_lines {k : Nat} (h : (table.bootScan world k).1 = none) :
    Cursor.listingSize (table.bootScan world k).2.2.graph ⟨1⟩ < UInt64.size ∧
      ∃ entered ≤ 1, world.graph.Gains ⟨1⟩ entered (table.bootScan world k).2.2.graph := by
  have hdir : world.graph.has ⟨1⟩ = true := rfl
  obtain ⟨entered, hle, hgains⟩ := MountTable.gains_of_unfinished hdir h
  have hlines : Cursor.listingSize world.graph ⟨1⟩ + world.additionsLeft < UInt64.size := by decide
  have hnow := Nat.le_trans hgains.listingSize_le (Nat.add_le_add_left hle _)
  exact ⟨Nat.lt_of_le_of_lt hnow hlines, entered, hle, hgains⟩

/-- The second disk is read, and is the last line; a cursor set far behind it stays there. -/
theorem second_line_is_the_last :
    (graph.directory? ⟨1⟩ = some (Directory.empty.insert "a" ⟨2⟩) ∧ behind.Roomy ⟨1⟩ turns ∧
      behind.entered ⟨1⟩ turns ≤ 1 ∧ behind.Ends ⟨1⟩ turns 2 ∧
      ((behind.run ⟨1⟩ turns).read.map fun line => line.1) = [1]) ∧
    (Cursor.start.seek 7).ReadsRest graph ⟨1⟩ (Directory.empty.insert "a" ⟨2⟩)
      (Cursor.readUpTo graph ⟨1⟩ 1 (Cursor.start.seek 7)) ∧
    table.system = none ∧ Namespace.resolve world.graph table.root devicePath = .ok ⟨1⟩ ∧
    table.ScanEnds world ⟨1⟩ 2 ∧ (table.bootScan world 2).1 = none ∧
    (table.bootScan world 3).1 = some (.error .noSystemDevice) := by
  obtain ⟨htraversal, hrest, hboot⟩ := scans_of_directories_end (σ := ScriptedDriver) ⟨1⟩
    (Directory.empty.insert "a" ⟨2⟩) 1
  have hentered : behind.entered ⟨1⟩ turns ≤ 1 := by decide
  have htraversed : behind.Ends ⟨1⟩ turns 2 := htraversal behind turns rfl roomy hentered
  have hscanned : table.ScanEnds world ⟨1⟩ 2 := hboot table world rfl rfl rfl fun _ => two_lines
  refine ⟨⟨rfl, roomy, hentered, htraversed, by decide⟩, ?_, rfl, rfl, hscanned, by decide,
    by decide⟩
  exact hrest graph _ rfl (by decide) 1 (by decide)

end ScanExample

end VolumeService
