import VolumeService.Service.Race

/-! # Turns in a race

Every turn of a worker that has calls left uses one of them up, whatever comes of the call
(`Race.workers_step`).  A round takes at most two calls, so a schedule that gives each worker two
turns for each of its rounds ends the race (`Race.finished_of_turns`). -/

namespace VolumeService

/-! ### Calls left -/

/-- How many calls rounds take when all goes well. -/
def callsOf : List Bool → Nat
  | [] => 0
  | true :: rest => callsOf rest + 2
  | false :: rest => callsOf rest + 1

theorem eq_nil_of_callsOf {rounds : List Bool} (h : callsOf rounds = 0) : rounds = [] := by
  cases rounds with
  | nil => rfl
  | cons unmounts rest => cases unmounts <;> cases h

theorem callsOf_le (rounds : List Bool) : callsOf rounds ≤ 2 * rounds.length := by
  induction rounds with
  | nil => exact Nat.le_refl _
  | cons unmounts rest ih =>
      rw [List.length_cons]
      cases unmounts with
      | false =>
          rw [callsOf]
          omega
      | true =>
          rw [callsOf]
          omega

/-- How many calls a worker has left when all goes well. -/
def Worker.callsLeft (worker : Worker) : Nat :=
  worker.inHand.toList.length + callsOf worker.rounds

/-- Going on to the next round, with a volume in hand only if the round is to unmount, uses up a
call. -/
theorem Worker.callsLeft_next {worker next : Worker} {unmounts : Bool}
    (hhand : worker.inHand = none) (hrounds : worker.rounds = unmounts :: next.rounds)
    (hnext : unmounts = false → next.inHand = none) : next.callsLeft + 1 ≤ worker.callsLeft := by
  rw [callsLeft, callsLeft, hhand, hrounds, Option.toList_none, List.length_nil]
  cases unmounts with
  | false =>
      rw [hnext rfl, callsOf, Option.toList_none, List.length_nil]
      omega
  | true =>
      have hone : next.inHand.toList.length ≤ 1 := by
        cases next.inHand with
        | none => exact Nat.zero_le _
        | some _ => exact Nat.le_refl _
      rw [callsOf]
      omega

theorem Worker.done_of_callsLeft {worker : Worker} (h : worker.callsLeft = 0) :
    worker.rounds = [] ∧ worker.inHand = none := by
  obtain ⟨hhand, hrounds⟩ := Nat.add_eq_zero_iff.1 h
  exact ⟨eq_nil_of_callsOf hrounds, Option.toList_eq_nil_iff.1 (List.length_eq_zero_iff.1 hhand)⟩

namespace Race

variable {σ : Type}

/-- The workers have no calls left. -/
def Finished (r : Race σ) : Prop := ∀ worker ∈ r.workers, worker.rounds = [] ∧ worker.inHand = none

variable [DriverModel σ]

/-! ### Turns -/

/-- A turn uses up a call of the worker whose turn it is, if that has any left. -/
theorem workers_step (r : Race σ) (i : Nat) :
    ((∀ worker, r.workers[i]? = some worker → worker.callsLeft = 0) ∧
      (r.step i).workers = r.workers) ∨
    ∃ worker worker', r.workers[i]? = some worker ∧ worker'.callsLeft + 1 ≤ worker.callsLeft ∧
      (r.step i).workers = r.workers.set i worker' := by
  unfold step
  split
  next hi =>
    refine .inl ⟨fun worker hworker => ?_, rfl⟩
    rw [hi] at hworker
    cases hworker
  next worker hi =>
    split
    next v hhand =>
      refine .inr ⟨worker, ?_⟩
      unfold unmountStep
      split
      · refine ⟨_, hi, ?_, rfl⟩
        rw [Worker.callsLeft, Worker.callsLeft, hhand]
        exact Nat.le_of_eq (Nat.add_right_comm 0 _ 1)
      · refine ⟨_, hi, ?_, rfl⟩
        rw [Worker.callsLeft, Worker.callsLeft, hhand]
        exact Nat.le_of_eq (Nat.add_right_comm 0 _ 1)
    next unmounts rounds hhand hrounds =>
      refine .inr ⟨worker, ?_⟩
      unfold mountStep
      split
      · refine ⟨_, hi, Worker.callsLeft_next hhand hrounds ?_, rfl⟩
        rintro rfl
        rfl
      · exact ⟨_, hi, Worker.callsLeft_next hhand hrounds fun _ => rfl, rfl⟩
    next hhand hrounds =>
      refine .inl ⟨fun other hother => ?_, rfl⟩
      rw [hi] at hother
      obtain rfl := Option.some.inj hother
      rw [Worker.callsLeft, hhand, hrounds]
      rfl

/-- What a schedule leaves of the calls of a worker. -/
theorem callsLeft_run (r : Race σ) (schedule : List Nat) (j : Nat) {last : Worker}
    (h : (r.run schedule).workers[j]? = some last) :
    ∃ worker, r.workers[j]? = some worker ∧
      last.callsLeft ≤ worker.callsLeft - schedule.count j := by
  induction schedule generalizing r with
  | nil => exact ⟨last, h, Nat.le_refl _⟩
  | cons i rest ih =>
      obtain ⟨worker, hj, hleft⟩ := ih (r.step i) h
      rw [List.count_cons]
      rcases r.workers_step i with ⟨hdone, hsame⟩ | ⟨worker₀, worker₁, hi, hcalls, hset⟩
      · rw [hsame] at hj
        refine ⟨worker, hj, ?_⟩
        by_cases hij : i = j
        · have := hdone worker (hij ▸ hj)
          omega
        · simp only [beq_iff_eq, hij, if_false]
          exact hleft
      · rw [hset, List.getElem?_set] at hj
        by_cases hij : i = j
        · subst hij
          rw [if_pos rfl] at hj
          split at hj
          next =>
            obtain rfl := Option.some.inj hj
            refine ⟨worker₀, hi, ?_⟩
            simp only [beq_self_eq_true, if_true]
            omega
          next => cases hj
        · rw [if_neg hij] at hj
          refine ⟨worker, hj, ?_⟩
          simp only [beq_iff_eq, hij, if_false]
          exact hleft

/-- A schedule in which every worker has two turns for each of its rounds ends the race. -/
theorem finished_of_turns {start : Race σ}
    (hworkers : ∀ worker ∈ start.workers, worker.inHand = none) {schedule : List Nat}
    (hturns : ∀ (i : Nat) (worker : Worker), start.workers[i]? = some worker →
      2 * worker.rounds.length ≤ schedule.count i) :
    (start.run schedule).Finished := by
  intro last hlast
  obtain ⟨j, hj⟩ := List.mem_iff_getElem?.1 hlast
  obtain ⟨worker, hworker, hleft⟩ := start.callsLeft_run schedule j hj
  have hcalls : worker.callsLeft = callsOf worker.rounds := by
    rw [Worker.callsLeft, hworkers worker (List.mem_of_getElem? hworker)]
    exact Nat.zero_add _
  have hbound := callsOf_le worker.rounds
  have henough := hturns j worker hworker
  exact Worker.done_of_callsLeft (by omega)

end Race

end VolumeService
