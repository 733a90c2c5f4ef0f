import Mathlib.Data.List.Nodup
import Mathlib.Algebra.GroupWithZero.Nat

/-! # Lists that grow, shrink and change at one place

Ledgers grow at their end, lists of volumes lose what is removed, in a race one worker or one
thread changes at a time, and a search ends at the first line that will do.  These are the facts
about lists that this takes. -/

namespace VolumeService

section

variable {α β : Type}

/-- What stands in a list with one more element stood there before or is the new one. -/
theorem getElem?_append_singleton_cases {l : List α} {a b : α} {k : Nat}
    (h : (l ++ [a])[k]? = some b) : l[k]? = some b ∨ k = l.length ∧ b = a := by
  rcases Nat.lt_or_ge k l.length with hlt | hge
  · rw [List.getElem?_append_left hlt] at h
    exact .inl h
  · rw [List.getElem?_append_right hge, List.getElem?_singleton] at h
    split at h
    next hzero =>
      refine .inr ⟨?_, (Option.some.inj h).symm⟩
      omega
    next => cases h

/-- What is in a list with one more element was in it before, or is like the new one. -/
theorem mem_or_of_mem_append_singleton {P : α → Prop} {l : List α} {a b : α} (h : b ∈ l ++ [a])
    (ha : P a) : b ∈ l ∨ P b := by
  rcases List.mem_append.1 h with hold | hnew
  · exact .inl hold
  · rw [List.mem_singleton.1 hnew]
    exact .inr ha

/-- Without one more of its elements, a list without some is a list without these and that. -/
theorem erase_filter_notMem [DecidableEq α] {l : List α} (h : l.Nodup) (gone : List α) (a : α) :
    (l.filter fun b => decide (b ∉ gone)).erase a =
      l.filter fun b => decide (b ∉ gone ++ [a]) := by
  rw [(h.filter _).erase_eq_filter, List.filter_filter]
  refine List.filter_congr fun b _ => ?_
  by_cases hb : b = a <;> simp [hb]

/-- Only one element of a list can be the first with a property. -/
theorem eq_of_first {P : α → Prop} {before after before' after' : List α} {a a' : α}
    (h : before ++ a :: after = before' ++ a' :: after') (hbefore : ∀ b ∈ before, ¬ P b) (ha : P a)
    (hbefore' : ∀ b ∈ before', ¬ P b) (ha' : P a') : a = a' := by
  induction before generalizing before' with
  | nil =>
      cases before' with
      | nil => exact (List.cons.inj h).1
      | cons b rest =>
          obtain ⟨rfl, _⟩ := List.cons.inj h
          exact absurd ha (hbefore' _ (List.mem_cons_self ..))
  | cons b rest ih =>
      cases before' with
      | nil =>
          obtain ⟨rfl, _⟩ := List.cons.inj h
          exact absurd ha' (hbefore _ (List.mem_cons_self ..))
      | cons b' rest' =>
          exact ih (List.cons.inj h).2 (fun c hc => hbefore c (List.mem_cons_of_mem _ hc))
            fun c hc => hbefore' c (List.mem_cons_of_mem _ hc)

/-- What changes in the parts when one element of a list is replaced. -/
theorem perm_flatMap_set (f : α → List β) {l : List α} {i : Nat} {a a' : α}
    {gained lost : List β} (h : l[i]? = some a) (hf : (f a' ++ lost).Perm (f a ++ gained)) :
    ((l.set i a').flatMap f ++ lost).Perm (l.flatMap f ++ gained) := by
  induction l generalizing i with
  | nil => cases h
  | cons b rest ih =>
      cases i with
      | zero =>
          obtain rfl := Option.some.inj h
          rw [List.set_cons_zero, List.flatMap_cons, List.flatMap_cons]
          rw [List.append_assoc, List.append_assoc]
          have hlost : (rest.flatMap f ++ lost).Perm (lost ++ rest.flatMap f) :=
            List.perm_append_comm
          have hgained : (gained ++ rest.flatMap f).Perm (rest.flatMap f ++ gained) :=
            List.perm_append_comm
          have hparts := hf.append_right (rest.flatMap f)
          rw [List.append_assoc, List.append_assoc] at hparts
          exact ((hlost.append_left _).trans hparts).trans (hgained.append_left _)
      | succ i =>
          rw [List.set_cons_succ, List.flatMap_cons, List.flatMap_cons, List.append_assoc,
            List.append_assoc]
          exact (ih h).append_left _

/-- What changes in a sum over a list when one element is replaced. -/
theorem sum_map_set (f : α → Nat) {l : List α} {i : Nat} {a : α} (h : l[i]? = some a) (a' : α) :
    ((l.set i a').map f).sum + f a = (l.map f).sum + f a' := by
  induction l generalizing i with
  | nil => cases h
  | cons b rest ih =>
      cases i with
      | zero =>
          obtain rfl := Option.some.inj h
          rw [List.set_cons_zero, List.map_cons, List.map_cons, List.sum_cons, List.sum_cons]
          omega
      | succ i =>
          have hrest := ih h
          rw [List.set_cons_succ, List.map_cons, List.map_cons, List.sum_cons, List.sum_cons]
          omega

end

end VolumeService
