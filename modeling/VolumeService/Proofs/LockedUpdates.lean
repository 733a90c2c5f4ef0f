import Mathlib.Algebra.BigOperators.Group.List.Basic
import Mathlib.Logic.Function.Iterate
import VolumeService.Proofs.CriticalSections
import VolumeService.Proofs.Lists

/-! # Updates under a lock

Threads that update a value under a lock (`Contention.updating`) read it, compute, and write it
back, and between the two other threads have their turns.  Still no update is lost.

* **Phases** (`Thread.Updating`).  A thread is outside, or inside before its read, between read and
  write, or after its write.  Between the two, what it has read is the value of the lock, for the
  value changes in no other hands.
* **The tally** (`Contention.Tally`).  At any time the value is the initial one updated as often as
  threads have written, and the writes done and those left in the programs make up the total.
* **The end** (`Contention.exclusive_and_lossless`).  When all threads are through, every update
  has taken effect; and threads that are not can get there from any state
  (`Contention.Tally.exists_finishing`). -/

namespace VolumeService

variable {α : Type}

/-! ### Phases of an updating thread -/

def Action.isWrite : Action α → Bool
  | .write _ => true
  | _ => false

namespace Thread

/-- How many writes a thread has before it. -/
def writesLeft (t : Thread α) : Nat := t.program.countP Action.isWrite

/-- Where a thread stands that updates the value under the lock; `value` is the value now. -/
inductive Updating (f : α → α) (initial value : α) (t : Thread α) : Prop where
  | outside {times : Nat} (hprogram : t.program = Contention.updating times f initial)
      (hguard : t.holding = false) : Updating f initial value t
  | entered {times : Nat}
      (hprogram : t.program = .read :: .write (fun last => f (last.getD initial)) :: .unlock ::
        Contention.updating times f initial)
      (hguard : t.holding = true) : Updating f initial value t
  | informed {times : Nat}
      (hprogram : t.program = .write (fun last => f (last.getD initial)) :: .unlock ::
        Contention.updating times f initial)
      (hguard : t.holding = true) (hread : t.lastRead = some value) : Updating f initial value t
  | written {times : Nat}
      (hprogram : t.program = .unlock :: Contention.updating times f initial)
      (hguard : t.holding = true) : Updating f initial value t

end Thread

namespace Contention

theorem updating_succ (times : Nat) (f : α → α) (initial : α) :
    updating (times + 1) f initial =
      .lock :: .read :: .write (fun last => f (last.getD initial)) :: .unlock ::
        updating times f initial := rfl

theorem countP_updating (times : Nat) (f : α → α) (initial : α) :
    (updating times f initial).countP Action.isWrite = times := by
  induction times with
  | zero => rfl
  | succ times ih =>
      rw [updating_succ]
      simp [List.countP_cons, ih, Action.isWrite]

end Contention

namespace Thread

variable {f : α → α} {initial value : α} {t : Thread α}

/-- A thread without the guard does not depend on the value. -/
theorem Updating.of_not_holding (h : t.Updating f initial value) (hguard : t.holding = false)
    (other : α) : t.Updating f initial other := by
  cases h with
  | outside hprogram _ => exact .outside hprogram hguard
  | entered _ hheld => rw [hguard] at hheld; cases hheld
  | informed _ hheld _ => rw [hguard] at hheld; cases hheld
  | written _ hheld => rw [hguard] at hheld; cases hheld

/-- A thread that is to take the lock waits, or finds it free and gets the guard. -/
theorem step_lock {l : Lock α} (h : t.program.head? = some .lock) (spurious : Bool) :
    (∃ waiting, t.step l spurious = ({ t with waiting }, l)) ∨
      t.step l spurious = ({ t.advance with holding := true }, { l with locked := true }) := by
  rw [step, h]
  dsimp only
  split
  · exact .inl ⟨_, rfl⟩
  · split
    · exact .inl ⟨_, rfl⟩
    · cases hlocked : l.locked with
      | true =>
          rw [Lock.acquire_of_held hlocked]
          exact .inl ⟨_, rfl⟩
      | false =>
          rw [Lock.acquire_of_free hlocked]
          exact .inr rfl

/-- Whatever a thread is to do but to take the lock, it has done after one step. -/
theorem program_step {l : Lock α} (h : t.program.head? ≠ some .lock) (spurious : Bool) :
    (t.step l spurious).1.program = t.program.tail ∧
      (t.step l spurious).1.waiting = t.waiting := by
  unfold step
  cases hhead : t.program.head? with
  | none =>
      have hnil : t.program = [] := List.head?_eq_none_iff.1 hhead
      exact ⟨by rw [hnil, List.tail_nil], rfl⟩
  | some action =>
      cases action with
      | lock => exact absurd hhead h
      | attempt =>
          dsimp only
          split <;> exact ⟨rfl, rfl⟩
      | read =>
          dsimp only
          split <;> exact ⟨rfl, rfl⟩
      | write f =>
          dsimp only
          split <;> exact ⟨rfl, rfl⟩
      | unlock =>
          dsimp only
          split <;> exact ⟨rfl, rfl⟩

theorem writesLeft_advance {action : Action α} {rest : List (Action α)}
    (hprogram : t.program = action :: rest) (h : action.isWrite = false) :
    t.advance.writesLeft = t.writesLeft := by
  rw [writesLeft, writesLeft, advance, hprogram, List.tail_cons, List.countP_cons, h]
  rfl

theorem writesLeft_advance_of_isWrite {action : Action α} {rest : List (Action α)}
    (hprogram : t.program = action :: rest) (h : action.isWrite = true) :
    t.advance.writesLeft + 1 = t.writesLeft := by
  rw [writesLeft, writesLeft, advance, hprogram, List.tail_cons, List.countP_cons, h]
  rfl

/-- A step of an updating thread leaves the value and the number of writes to come, or it is a
write, under the guard, that updates the value. -/
theorem Updating.step {l : Lock α} (h : t.Updating f initial l.value) (spurious : Bool) :
    (t.step l spurious).1.Updating f initial (t.step l spurious).2.value ∧
    ((t.step l spurious).2.value = l.value ∧
        (t.step l spurious).1.writesLeft = t.writesLeft ∨
      t.holding = true ∧ (t.step l spurious).2.value = f l.value ∧
        (t.step l spurious).1.writesLeft + 1 = t.writesLeft) := by
  cases h with
  | @outside times hprogram hguard =>
      cases times with
      | zero =>
          have hdone : t.step l spurious = (t, l) := by
            rw [Thread.step, hprogram]
            rfl
          rw [hdone]
          exact ⟨.outside hprogram hguard, .inl ⟨rfl, rfl⟩⟩
      | succ times =>
          have hhead : t.program.head? = some .lock := congrArg List.head? hprogram
          rcases t.step_lock (l := l) hhead spurious with ⟨waiting, hstep⟩ | hstep
          · rw [hstep]
            exact ⟨.outside hprogram hguard, .inl ⟨rfl, rfl⟩⟩
          · rw [hstep]
            exact ⟨.entered (congrArg List.tail hprogram) rfl,
              .inl ⟨rfl, writesLeft_advance hprogram rfl⟩⟩
  | entered hprogram hguard =>
      have hstep : t.step l spurious =
          ({ t.advance with
              lastRead := some l.value, answers := t.answers ++ [.got l.value] }, l) := by
        rw [Thread.step, hprogram, List.head?_cons]
        exact if_pos hguard
      rw [hstep]
      exact ⟨.informed (congrArg List.tail hprogram) hguard rfl,
        .inl ⟨rfl, writesLeft_advance hprogram rfl⟩⟩
  | informed hprogram hguard hread =>
      have hstep : t.step l spurious = (t.advance, l.put (f l.value)) := by
        rw [Thread.step, hprogram, List.head?_cons]
        dsimp only
        rw [if_pos hguard, hread, Option.getD_some]
      rw [hstep]
      exact ⟨.written (congrArg List.tail hprogram) hguard,
        .inr ⟨hguard, rfl, writesLeft_advance_of_isWrite hprogram rfl⟩⟩
  | written hprogram hguard =>
      have hstep : t.step l spurious = ({ t.advance with holding := false }, l.release) := by
        rw [Thread.step, hprogram, List.head?_cons]
        exact if_pos hguard
      rw [hstep]
      exact ⟨.outside (congrArg List.tail hprogram) rfl,
        .inl ⟨rfl, writesLeft_advance hprogram rfl⟩⟩

/-- A bound on the turns that a thread needs when nothing is in its way. -/
def ahead (t : Thread α) : Nat := 2 * t.program.length + t.waiting.toNat

/-- An updating thread gets on with its guard, or by taking a free lock. -/
theorem Updating.ahead_step_lt {l : Lock α} (h : t.Updating f initial value)
    (hclear : t.holding = true ∨ l.locked = false) (hmore : t.program ≠ []) :
    (t.step l false).1.ahead < t.ahead := by
  by_cases hhead : t.program.head? = some .lock
  · have hfree : l.locked = false := by
      refine hclear.resolve_left fun hguard => ?_
      cases h with
      | outside _ hnot => rw [hnot] at hguard; cases hguard
      | entered hprogram _ => rw [hprogram] at hhead; cases hhead
      | informed hprogram _ _ => rw [hprogram] at hhead; cases hhead
      | written hprogram _ => rw [hprogram] at hhead; cases hhead
    have hlength : t.program.tail.length + 1 = t.program.length := by
      rw [List.length_tail, Nat.sub_add_cancel (List.length_pos_iff.2 hmore)]
    rw [Thread.step, hhead]
    dsimp only
    cases hwaiting : t.waiting with
    | true =>
        rw [if_pos rfl, hfree]
        simp [ahead, hwaiting]
    | false =>
        rw [if_neg Bool.false_ne_true, if_neg Bool.false_ne_true, Lock.acquire_of_free hfree]
        simp only [ahead, advance, hwaiting]
        omega
  · obtain ⟨hprogram, hwaiting⟩ := t.program_step (l := l) hhead false
    have hlength := List.length_pos_iff.2 hmore
    rw [ahead, ahead, hprogram, hwaiting, List.length_tail]
    omega

end Thread

/-! ### Contention of updating threads -/

namespace Contention

variable {f : α → α} {initial : α} {total done : Nat} {c : Contention α}

/-- So many of a total number of updates have been written to the lock. -/
structure Tally (f : α → α) (initial : α) (total : Nat) (c : Contention α) (done : Nat) :
    Prop where
  value : c.lock.value = f^[done] initial
  left : done + (c.threads.map Thread.writesLeft).sum = total
  updating : ∀ (i : Nat) (t : Thread α), c.threads[i]? = some t →
    t.Updating f initial c.lock.value

/-- Before the first step of the updaters of a free lock nothing is written. -/
theorem tally_ofUpdaters (lock : Lock α) (threads times : Nat) (f : α → α) :
    (ofUpdaters lock threads times f).Tally f lock.value (threads * times) 0 where
  value := rfl
  left := by
    rw [ofUpdaters, List.map_replicate, List.sum_replicate, Thread.writesLeft, countP_updating]
    exact Nat.zero_add _
  updating i t ht := by
    obtain rfl := List.eq_of_mem_replicate (List.mem_of_getElem? ht)
    exact .outside rfl rfl

theorem Tally.step (h : c.Tally f initial total done) {holder : Option Nat}
    (hheld : c.HeldBy holder) (turn : Turn) :
    ∃ done', (c.step turn).Tally f initial total done' := by
  cases ht : c.threads[turn.thread]? with
  | none =>
      rw [step_of_getElem?_eq_none ht]
      exact ⟨done, h⟩
  | some t =>
      obtain ⟨hphase, hcases⟩ := (h.updating _ t ht).step turn.spurious
      have hsum := sum_map_set Thread.writesLeft ht (t.step c.lock turn.spurious).1
      have hleft := h.left
      -- the phases of the other threads stay, since only the holder changes the value
      have hothers : ∀ (j : Nat) (u : Thread α),
          (c.threads.set turn.thread (t.step c.lock turn.spurious).1)[j]? = some u →
          u.Updating f initial (t.step c.lock turn.spurious).2.value := by
        intro j u hu
        rw [List.getElem?_set] at hu
        split at hu
        next =>
          split at hu
          next => exact Option.some.inj hu ▸ hphase
          next => cases hu
        next hij =>
          have hu' := h.updating j u hu
          rcases hcases with ⟨hvalue, _⟩ | ⟨hguard, _, _⟩
          · rw [hvalue]
            exact hu'
          · refine hu'.of_not_holding (Bool.eq_false_iff.2 fun hguard' => hij ?_) _
            have hi := (hheld.guard turn.thread).1 ⟨t, ht, hguard⟩
            have hj := (hheld.guard j).1 ⟨u, hu, hguard'⟩
            exact Option.some.inj (hi.symm.trans hj)
      rw [step_of_getElem? ht]
      rcases hcases with ⟨hvalue, hcount⟩ | ⟨_, hvalue, hcount⟩
      · refine ⟨done, hvalue.trans h.value, ?_, hothers⟩
        dsimp only
        omega
      · refine ⟨done + 1, ?_, ?_, hothers⟩
        · dsimp only
          rw [hvalue, h.value, Function.iterate_succ_apply']
        · dsimp only
          omega

theorem Tally.run (h : c.Tally f initial total done) {holder : Option Nat}
    (hheld : c.HeldBy holder) (schedule : List Turn) :
    ∃ done', (c.run schedule).Tally f initial total done' := by
  induction schedule generalizing c holder done with
  | nil => exact ⟨done, h⟩
  | cons turn rest ih =>
      obtain ⟨_, hstep⟩ := h.step hheld turn
      obtain ⟨_, hheld', _⟩ := hheld.step turn
      exact ih hstep hheld'

/-- The threads are through with their programs. -/
def Finished (c : Contention α) : Prop := ∀ t ∈ c.threads, t.program = []

instance (c : Contention α) : Decidable c.Finished :=
  inferInstanceAs (Decidable (∀ t ∈ c.threads, t.program = []))

/-- When the threads are through, all updates have taken effect. -/
theorem Tally.value_of_finished (h : c.Tally f initial total done) (hfinished : c.Finished) :
    c.lock.value = f^[total] initial := by
  have hnone : (c.threads.map Thread.writesLeft).sum = 0 := by
    refine List.sum_eq_zero fun left hleft => ?_
    obtain ⟨t, ht, rfl⟩ := List.mem_map.1 hleft
    rw [Thread.writesLeft, hfinished t ht]
    rfl
  have hleft := h.left
  rw [hnone, Nat.add_zero] at hleft
  rw [h.value, hleft]

/-- While some thread is not through, some turn gets one on. -/
theorem Tally.exists_turn (h : c.Tally f initial total done) {holder : Option Nat}
    (hheld : c.HeldBy holder) (hmore : ¬ c.Finished) :
    ∃ turn, ((c.step turn).threads.map Thread.ahead).sum < (c.threads.map Thread.ahead).sum := by
  -- the thread with the guard can go on, and without one any thread that is not through
  obtain ⟨i, t, ht, hclear, hprogram⟩ : ∃ (i : Nat) (t : Thread α), c.threads[i]? = some t ∧
      (t.holding = true ∨ c.lock.locked = false) ∧ t.program ≠ [] := by
    cases holder with
    | some i =>
        obtain ⟨t, ht, hguard⟩ := (hheld.guard i).2 rfl
        refine ⟨i, t, ht, .inl hguard, ?_⟩
        cases h.updating i t ht with
        | outside _ hnot => rw [hnot] at hguard; cases hguard
        | entered hprogram _ => simp [hprogram]
        | informed hprogram _ _ => simp [hprogram]
        | written hprogram _ => simp [hprogram]
    | none =>
        simp only [Finished, not_forall] at hmore
        obtain ⟨t, hmem, hprogram⟩ := hmore
        obtain ⟨i, ht⟩ := List.mem_iff_getElem?.1 hmem
        exact ⟨i, t, ht, .inr hheld.word, hprogram⟩
  refine ⟨⟨i, false⟩, ?_⟩
  have hlt := (h.updating i t ht).ahead_step_lt hclear hprogram
  have hsum := sum_map_set Thread.ahead ht (t.step c.lock false).1
  rw [step_of_getElem? ht]
  dsimp only
  omega

/-- Updating threads can get through from wherever they stand. -/
theorem Tally.exists_finishing (h : c.Tally f initial total done) {holder : Option Nat}
    (hheld : c.HeldBy holder) : ∃ schedule, (c.run schedule).Finished := by
  induction hn : (c.threads.map Thread.ahead).sum using Nat.strongRecOn
    generalizing c holder done with
  | ind n ih =>
      by_cases hmore : c.Finished
      · exact ⟨[], hmore⟩
      · obtain ⟨turn, hlt⟩ := h.exists_turn hheld hmore
        obtain ⟨done', h'⟩ := h.step hheld turn
        obtain ⟨holder', hheld', _⟩ := hheld.step turn
        obtain ⟨rest, hfinished⟩ := ih _ (hn ▸ hlt) h' hheld' rfl
        exact ⟨turn :: rest, hfinished⟩

/-! ### What holds of every run -/

/-- Adding one so often adds as much, up to the size of the word. -/
theorem toNat_iterate_succ (n : Nat) (x : UInt64) :
    ((· + 1)^[n] x).toNat = (x.toNat + n) % 2 ^ 64 := by
  induction n with
  | zero => exact (Nat.mod_eq_of_lt x.toNat_lt).symm
  | succ n ih =>
      rw [Function.iterate_succ_apply', UInt64.toNat_add, ih]
      simp only [UInt64.reduceToNat]
      omega

/-- Threads that share a free lock have its guard one at a time, under it each finds what was
written last, and no update is lost.

Whatever the programs and the schedule: there is at most one guard, and the word is set exactly
while there is one; a trial gets the guard when there is none, and otherwise only answers; and the
accesses are those of an ideal lock, so that a read finds what the critical section before it left,
or what was written in its own.  When so many threads are through that add one so many times, the
value has grown by the product; and they can get through from wherever they stand. -/
theorem exclusive_and_lossless (start : Contention α) (hfree : start.lock.locked = false)
    (hidle : ∀ t ∈ start.threads, t.holding = false) (schedule : List Turn) :
    let c := start.run schedule
    (∀ i j, c.Guarded i → c.Guarded j → i = j) ∧
    (c.lock.locked = true ↔ ∃ i, c.Guarded i) ∧
    (∀ (turn : Turn) (t : Thread α), c.threads[turn.thread]? = some t →
      t.program.head? = some .attempt →
      ((¬ ∃ i, c.Guarded i) → c.step turn =
        { lock := { c.lock with locked := true }
          threads := c.threads.set turn.thread
            { t.advance with holding := true, answers := t.answers ++ [.attempted true] } }) ∧
      ((∃ i, c.Guarded i) → c.step turn =
        { c with
          threads := c.threads.set turn.thread
            { t.advance with answers := t.answers ++ [.attempted false] } })) ∧
    (∃ inside, Tenure.Path ⟨start.lock.value, none⟩ (start.history schedule)
        ⟨c.lock.value, inside⟩ ∧
      ∀ i, c.Guarded i ↔ inside = some i) ∧
    (∀ (before after : List (Nat × Access α)) (i : Nat) (value : α),
      start.history schedule = before ++ (i, .read value) :: after →
      value = Tenure.lastWritten start.lock.value before) ∧
    (∀ (lock : Lock UInt64) (threads times : Nat) (turns : List Turn), lock.locked = false →
      let d := (ofUpdaters lock threads times (· + 1)).run turns
      (d.Finished → d.lock.value.toNat = (lock.value.toNat + threads * times) % 2 ^ 64) ∧
      ∃ rest, (d.run rest).Finished) := by
  intro c
  obtain ⟨holder, hheld, hpath⟩ := (heldBy_none hfree hidle).run schedule
  have hword : c.lock.locked = true ↔ ∃ i, c.Guarded i := by
    rw [hheld.word, Option.isSome_iff_exists]
    exact exists_congr fun i => (hheld.guard i).symm
  refine ⟨fun i j hi hj => ?_, hword, fun turn t ht hnext => ⟨fun hnone => ?_, fun hsome => ?_⟩,
    ⟨holder, hpath, hheld.guard⟩, fun before after i value hread => ?_,
    fun lock threads times turns hlock => ?_⟩
  · exact Option.some.inj (((hheld.guard i).1 hi).symm.trans ((hheld.guard j).1 hj))
  · exact step_attempt_of_free ht hnext (Bool.eq_false_iff.2 fun hlocked => hnone (hword.1 hlocked))
  · exact step_attempt_of_held ht hnext (hword.2 hsome)
  · rw [hread] at hpath
    exact hpath.eq_lastWritten_of_read
  · have hnone : (ofUpdaters lock threads times (· + 1)).HeldBy none :=
      heldBy_none hlock fun t ht => by rw [List.eq_of_mem_replicate ht]
    obtain ⟨holder', hheld', _⟩ := hnone.run turns
    obtain ⟨done, htally⟩ := (tally_ofUpdaters lock threads times (· + 1)).run hnone turns
    refine ⟨fun hfinished => ?_, htally.exists_finishing hheld'⟩
    rw [htally.value_of_finished hfinished, toNat_iterate_succ]

/-- Two threads that each add one to five, and the second tries while the first is inside. -/
def twoUpdaters : Contention UInt64 := ofUpdaters (Lock.unnamed 5) 2 1 (· + 1)

/-- The first thread reads, the second runs into the held lock and later into a spurious failure. -/
def entangled : List Turn :=
  [⟨0, false⟩, ⟨0, false⟩, ⟨1, false⟩, ⟨1, false⟩, ⟨0, false⟩, ⟨0, false⟩, ⟨1, false⟩, ⟨1, true⟩,
    ⟨1, false⟩, ⟨1, false⟩, ⟨1, false⟩, ⟨1, false⟩, ⟨1, false⟩]

theorem entangled_updates_leave_seven :
    (twoUpdaters.lock.locked = false ∧ ∀ t ∈ twoUpdaters.threads, t.holding = false) ∧
    (∀ i, (twoUpdaters.run entangled).Guarded i →
      ∀ j, (twoUpdaters.run entangled).Guarded j → i = j) ∧
    (twoUpdaters.run entangled).Finished ∧
    (twoUpdaters.run entangled).lock.value.toNat = 7 := by
  have hfree : twoUpdaters.lock.locked = false := rfl
  have hidle : ∀ t ∈ twoUpdaters.threads, t.holding = false := by decide
  have hfinished : (twoUpdaters.run entangled).Finished := by decide
  obtain ⟨hone, _, _, _, _, hsum⟩ := exclusive_and_lossless twoUpdaters hfree hidle entangled
  exact ⟨⟨hfree, hidle⟩, fun i hi j hj => hone i j hi hj, hfinished,
    (hsum (Lock.unnamed 5) 2 1 entangled rfl).1 hfinished⟩

end Contention

end VolumeService
