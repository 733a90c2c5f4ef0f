import VolumeService.Lock.Contention

/-! # Critical sections of a contended lock

Threads that share a lock get its guard one at a time, and under it they find what the one before
them left.

* **Accesses** (`Access`).  A thread enters by getting the guard, reads and writes under it, and
  leaves by giving it back.  What a step of a thread comes to is one access or none
  (`Thread.step_comesTo`); `Contention.history` lists the accesses of a run.
* **The holder** (`Contention.HeldBy`).  At most one thread has the guard, and the word of the lock
  is set exactly while one has it.
* **The ideal lock** (`Tenure.Path`) has no word, only a value and a place for one thread.  The
  accesses of every run are those of an ideal lock (`Contention.HeldBy.run`): a thread enters when
  nobody is inside, and only the thread inside reads, writes and leaves.  So each read finds what
  was written last, in the same critical section or in one before it
  (`Tenure.Path.eq_lastWritten_of_read`). -/

namespace VolumeService

variable {α : Type}

/-- What a thread does with the guard of a lock. -/
inductive Access (α : Type) where
  | entered
  | read (value : α)
  | wrote (value : α)
  | left
deriving DecidableEq, Repr

/-! ### Steps of one thread -/

namespace Thread

/-- What the next step of a thread does with the guard, if anything. -/
def access? (t : Thread α) (l : Lock α) (spurious : Bool) : Option (Access α) :=
  match t.program.head? with
  | some .lock => if t.waiting || spurious || l.locked then none else some .entered
  | some .attempt => if l.locked then none else some .entered
  | some .read => if t.holding then some (.read l.value) else none
  | some (.write f) => if t.holding then some (.wrote (f t.lastRead)) else none
  | some .unlock => if t.holding then some .left else none
  | none => none

/-- What a step makes of a thread and the lock, along with the access that it was. -/
inductive ComesTo (t : Thread α) (l : Lock α) : Option (Access α) → Thread α × Lock α → Prop where
  /-- Neither the guard nor the lock changes. -/
  | idle {t' : Thread α} (hguard : t'.holding = t.holding) : ComesTo t l none (t', l)
  | entered {t' : Thread α} (hfree : l.locked = false) (hguard : t'.holding = true) :
      ComesTo t l (some .entered) (t', { l with locked := true })
  | read {t' : Thread α} (hheld : t.holding = true) (hguard : t'.holding = true)
      (hread : t'.lastRead = some l.value)
      (hanswer : t'.answers = t.answers ++ [.got l.value]) :
      ComesTo t l (some (.read l.value)) (t', l)
  | wrote {t' : Thread α} (hheld : t.holding = true) (hguard : t'.holding = true) (value : α) :
      ComesTo t l (some (.wrote value)) (t', l.put value)
  | left {t' : Thread α} (hheld : t.holding = true) (hguard : t'.holding = false) :
      ComesTo t l (some .left) (t', l.release)

theorem step_comesTo (t : Thread α) (l : Lock α) (spurious : Bool) :
    t.ComesTo l (t.access? l spurious) (t.step l spurious) := by
  unfold access? step
  rcases t.program.head? with _ | action
  · exact .idle rfl
  · cases action with
    | lock =>
        dsimp only
        cases hwaiting : t.waiting with
        | true => exact .idle rfl
        | false =>
            cases spurious with
            | true => exact .idle rfl
            | false =>
                cases hlocked : l.locked with
                | true =>
                    rw [Lock.acquire_of_held hlocked]
                    exact .idle rfl
                | false =>
                    rw [Lock.acquire_of_free hlocked]
                    exact .entered hlocked rfl
    | attempt =>
        dsimp only
        cases hlocked : l.locked with
        | true =>
            rw [Lock.acquire_of_held hlocked]
            exact .idle rfl
        | false =>
            rw [Lock.acquire_of_free hlocked]
            exact .entered hlocked rfl
    | read =>
        dsimp only
        cases hheld : t.holding with
        | true => exact .read hheld hheld rfl rfl
        | false => exact .idle rfl
    | write f =>
        dsimp only
        cases hheld : t.holding with
        | true => exact .wrote hheld (show t.advance.holding = true from hheld) _
        | false => exact .idle rfl
    | unlock =>
        dsimp only
        cases hheld : t.holding with
        | true => exact .left hheld rfl
        | false => exact .idle rfl

end Thread

/-! ### The ideal lock -/

/-- A lock without a word: the value, and the thread inside, if there is one. -/
structure Tenure (α : Type) where
  value : α
  inside : Option Nat

namespace Tenure

/-- One access of a thread to an ideal lock. -/
inductive Step : Tenure α → Nat × Access α → Tenure α → Prop where
  | enter (x : α) (i : Nat) : Step ⟨x, none⟩ (i, .entered) ⟨x, some i⟩
  | read (x : α) (i : Nat) : Step ⟨x, some i⟩ (i, .read x) ⟨x, some i⟩
  | write (x y : α) (i : Nat) : Step ⟨x, some i⟩ (i, .wrote y) ⟨y, some i⟩
  | leave (x : α) (i : Nat) : Step ⟨x, some i⟩ (i, .left) ⟨x, none⟩

/-- A number of accesses, one after the other. -/
inductive Path : Tenure α → List (Nat × Access α) → Tenure α → Prop where
  | nil (s : Tenure α) : Path s [] s
  | cons {s s' s'' : Tenure α} {access : Nat × Access α} {rest : List (Nat × Access α)}
      (hstep : Step s access s') (hrest : Path s' rest s'') : Path s (access :: rest) s''

theorem Path.append {s s' s'' : Tenure α} {first second : List (Nat × Access α)}
    (h₁ : Path s first s') (h₂ : Path s' second s'') : Path s (first ++ second) s'' := by
  induction h₁ with
  | nil => exact h₂
  | cons hstep _ ih => exact .cons hstep (ih h₂)

/-- The value after a number of accesses: what was written last, if anything was. -/
def lastWritten (initial : α) (accesses : List (Nat × Access α)) : α :=
  accesses.foldl (fun value access =>
    match access.2 with
    | .wrote new => new
    | _ => value) initial

theorem Step.value_eq {s s' : Tenure α} {access : Nat × Access α} (h : Step s access s') :
    s'.value = lastWritten s.value [access] := by
  cases h <;> rfl

/-- Along a path each read finds what was written last. -/
theorem Path.eq_lastWritten_of_read {s s' : Tenure α} {before after : List (Nat × Access α)}
    {i : Nat} {value : α} (h : Path s (before ++ (i, .read value) :: after) s') :
    value = lastWritten s.value before := by
  induction before generalizing s with
  | nil =>
      obtain _ | ⟨hstep, _⟩ := h
      cases hstep
      rfl
  | cons access rest ih =>
      obtain _ | ⟨hstep, hrest⟩ := h
      rw [ih hrest, hstep.value_eq]
      rfl

end Tenure

/-! ### Threads that share a lock -/

namespace Contention

/-- The thread at a position has the guard. -/
def Guarded (c : Contention α) (i : Nat) : Prop :=
  ∃ t, c.threads[i]? = some t ∧ t.holding = true

/-- What the next step of a thread does with the guard, with the thread's position. -/
def access? (c : Contention α) (turn : Turn) : Option (Nat × Access α) :=
  (c.threads[turn.thread]?).bind fun t =>
    (t.access? c.lock turn.spurious).map fun access => (turn.thread, access)

/-- The accesses of a run in order, each with the position of its thread. -/
def history (c : Contention α) : List Turn → List (Nat × Access α)
  | [] => []
  | turn :: rest => (c.access? turn).toList ++ (c.step turn).history rest

/-- One thread has the guard and the word is set, or none has it and the word is clear. -/
structure HeldBy (c : Contention α) (holder : Option Nat) : Prop where
  guard : ∀ i, c.Guarded i ↔ holder = some i
  word : c.lock.locked = holder.isSome

theorem step_of_getElem? {c : Contention α} {turn : Turn} {t : Thread α}
    (h : c.threads[turn.thread]? = some t) :
    c.step turn =
      { lock := (t.step c.lock turn.spurious).2
        threads := c.threads.set turn.thread (t.step c.lock turn.spurious).1 } := by
  rw [step, h]

theorem step_of_getElem?_eq_none {c : Contention α} {turn : Turn}
    (h : c.threads[turn.thread]? = none) : c.step turn = c := by
  rw [step, h]

/-- A step of one thread can change no guard but its own. -/
theorem guarded_set {c : Contention α} {i : Nat} {t : Thread α} (h : c.threads[i]? = some t)
    (l : Lock α) (t' : Thread α) (j : Nat) :
    Guarded { lock := l, threads := c.threads.set i t' } j ↔
      if j = i then t'.holding = true else c.Guarded j := by
  have hlt : i < c.threads.length := (List.getElem?_eq_some_iff.1 h).1
  unfold Guarded
  by_cases hj : j = i
  · subst hj
    simp [List.getElem?_set_self hlt]
  · rw [if_neg hj, List.getElem?_set_ne (Ne.symm hj)]

/-- Before the first step of threads without a guard on a free lock there is no holder. -/
theorem heldBy_none {c : Contention α} (hfree : c.lock.locked = false)
    (hidle : ∀ t ∈ c.threads, t.holding = false) : c.HeldBy none where
  guard i := by
    refine ⟨fun ⟨t, ht, hguard⟩ => ?_, fun h => by cases h⟩
    rw [hidle t (List.mem_of_getElem? ht)] at hguard
    cases hguard
  word := hfree

/-- A step keeps the guard with at most one thread, and is an access to the ideal lock, or none. -/
theorem HeldBy.step {c : Contention α} {holder : Option Nat} (h : c.HeldBy holder) (turn : Turn) :
    ∃ holder', (c.step turn).HeldBy holder' ∧
      Tenure.Path ⟨c.lock.value, holder⟩ (c.access? turn).toList
        ⟨(c.step turn).lock.value, holder'⟩ := by
  unfold access?
  cases ht : c.threads[turn.thread]? with
  | none =>
      rw [step_of_getElem?_eq_none ht]
      exact ⟨holder, h, .nil _⟩
  | some t =>
      have hguarded := guarded_set ht
      have hown : c.Guarded turn.thread ↔ t.holding = true := by
        simp [Guarded, ht]
      -- a thread with the guard is the holder
      have hholder : t.holding = true → holder = some turn.thread := fun hheld =>
        (h.guard _).1 (hown.2 hheld)
      rw [step_of_getElem? ht, Option.bind_some]
      have hstep := t.step_comesTo c.lock turn.spurious
      generalize t.access? c.lock turn.spurious = access at hstep
      generalize t.step c.lock turn.spurious = next at hstep
      cases hstep with
      | @idle t' hguard =>
          refine ⟨holder, ⟨fun j => ?_, h.word⟩, .nil _⟩
          rw [hguarded, hguard]
          split
          next hj => rw [hj, ← hown, h.guard]
          next => exact h.guard j
      | @entered t' hfree hguard =>
          obtain rfl : holder = none := by
            rw [← Option.not_isSome_iff_eq_none, ← h.word, hfree]
            exact Bool.false_ne_true
          refine ⟨some turn.thread, ⟨fun j => ?_, rfl⟩, .cons (.enter _ _) (.nil _)⟩
          rw [hguarded, hguard, h.guard]
          simp [eq_comm]
      | @read t' hheld hguard =>
          obtain rfl := hholder hheld
          refine ⟨some turn.thread, ⟨fun j => ?_, h.word⟩, .cons (.read _ _) (.nil _)⟩
          rw [hguarded, hguard, h.guard]
          simp [eq_comm]
      | @wrote t' hheld hguard value =>
          obtain rfl := hholder hheld
          refine ⟨some turn.thread, ⟨fun j => ?_, h.word⟩, .cons (.write _ _ _) (.nil _)⟩
          rw [hguarded, hguard, h.guard]
          simp [eq_comm]
      | @left t' hheld hguard =>
          obtain rfl := hholder hheld
          refine ⟨none, ⟨fun j => ?_, rfl⟩, .cons (.leave _ _) (.nil _)⟩
          rw [hguarded, hguard, h.guard]
          simp [eq_comm]

/-- From any schedule on, at most one thread has the guard, and the accesses of the run are those of
an ideal lock. -/
theorem HeldBy.run {c : Contention α} {holder : Option Nat} (h : c.HeldBy holder)
    (schedule : List Turn) :
    ∃ holder', (c.run schedule).HeldBy holder' ∧
      Tenure.Path ⟨c.lock.value, holder⟩ (c.history schedule)
        ⟨(c.run schedule).lock.value, holder'⟩ := by
  induction schedule generalizing c holder with
  | nil => exact ⟨holder, h, .nil _⟩
  | cons turn rest ih =>
      obtain ⟨holder₁, hheld, hpath⟩ := h.step turn
      obtain ⟨holder₂, hheld', hpath'⟩ := ih hheld
      exact ⟨holder₂, hheld', hpath.append hpath'⟩

/-! ### Trials -/

/-- A trial takes a free lock. -/
theorem step_attempt_of_free {c : Contention α} {turn : Turn} {t : Thread α}
    (ht : c.threads[turn.thread]? = some t) (hnext : t.program.head? = some .attempt)
    (hfree : c.lock.locked = false) :
    c.step turn =
      { lock := { c.lock with locked := true }
        threads := c.threads.set turn.thread
          { t.advance with holding := true, answers := t.answers ++ [.attempted true] } } := by
  rw [step_of_getElem? ht, Thread.step, hnext]
  dsimp only
  rw [Lock.acquire_of_free hfree]

/-- A trial of a held lock is answered, and that is all. -/
theorem step_attempt_of_held {c : Contention α} {turn : Turn} {t : Thread α}
    (ht : c.threads[turn.thread]? = some t) (hnext : t.program.head? = some .attempt)
    (hheld : c.lock.locked = true) :
    c.step turn =
      { c with
        threads := c.threads.set turn.thread
          { t.advance with answers := t.answers ++ [.attempted false] } } := by
  rw [step_of_getElem? ht, Thread.step, hnext]
  dsimp only
  rw [Lock.acquire_of_held hheld]

end Contention

end VolumeService
