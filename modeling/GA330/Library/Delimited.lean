import Mathlib.Tactic.Common

/-!
# Sequences up to a mark

A reader collects the elements of an unbounded sequence until it finds a mark,
and gives up after a number of rounds.  It succeeds exactly when the sequence
holds a list of other elements, followed by the mark, that is shorter than the
number of rounds.
-/

namespace Delimited

variable {α : Type u}

/-- The sequence starts with the elements of the list and then has the
mark. -/
structure Holds (mark : α) (source : Nat → α) (items : List α) : Prop where
  elements : ∀ index (bound : index < items.length),
    source index = items[index]
  unmarked : mark ∉ items
  ended : source items.length = mark

variable {mark : α}

theorem Holds.cons {source : Nat → α} {items : List α}
    (rest : Holds mark (fun index => source (index + 1)) items)
    (unmarked : source 0 ≠ mark) :
    Holds mark source (source 0 :: items) where
  elements := by
    intro index bound
    cases index with
    | zero => rfl
    | succ index => exact rest.elements index (Nat.lt_of_succ_lt_succ bound)
  unmarked := by
    rw [List.mem_cons, not_or]
    exact ⟨Ne.symm unmarked, rest.unmarked⟩
  ended := rest.ended

theorem Holds.tail {source : Nat → α} {item : α} {items : List α}
    (holds : Holds mark source (item :: items)) :
    Holds mark (fun index => source (index + 1)) items where
  elements := fun index bound =>
    holds.elements (index + 1) (Nat.succ_lt_succ bound)
  unmarked := fun present =>
    holds.unmarked (List.mem_cons_of_mem item present)
  ended := holds.ended

/-- No mark comes before the end of the list. -/
theorem Holds.ne_mark {source : Nat → α} {items : List α}
    (holds : Holds mark source items) {index : Nat}
    (bound : index < items.length) : source index ≠ mark := by
  intro equal
  rw [holds.elements index bound] at equal
  exact holds.unmarked (equal ▸ List.getElem_mem bound)

section Collecting

variable [DecidableEq α]

/-- Collect the elements from the `i`-th on up to the mark. -/
def collect (mark : α) (source : Nat → α) :
    (remaining : Nat) → (i : Nat) → Option (List α)
  | 0, _ => none
  | remaining + 1, i =>
      if source i = mark then some []
      else (collect mark source remaining (i + 1)).map (source i :: ·)

/-- Collecting from the `i`-th element on. -/
theorem collect_from_eq_some_iff {source : Nat → α} {remaining i : Nat}
    {items : List α} :
    collect mark source remaining i = some items ↔
      Holds mark (fun index => source (i + index)) items ∧
        items.length < remaining := by
  induction remaining generalizing i items with
  | zero => simp [collect]
  | succ remaining inductionHypothesis =>
      have shift : (fun index => source (i + 1 + index)) =
          fun index => source (i + (index + 1)) := by
        funext index
        rw [Nat.add_assoc, Nat.add_comm 1]
      rw [collect]
      by_cases ended : source i = mark
      · rw [if_pos ended, Option.some_inj]
        constructor
        · rintro rfl
          exact ⟨⟨by simp, by simp, ended⟩, Nat.succ_pos _⟩
        · rintro ⟨holds, _⟩
          cases items with
          | nil => rfl
          | cons item rest =>
              have first : source i = item :=
                holds.elements 0 (Nat.succ_pos _)
              rw [ended] at first
              exact absurd (first ▸ List.mem_cons_self) holds.unmarked
      · rw [if_neg ended, Option.map_eq_some_iff]
        constructor
        · rintro ⟨rest, collected, rfl⟩
          obtain ⟨holds, short⟩ := inductionHypothesis.mp collected
          rw [shift] at holds
          exact ⟨holds.cons ended, Nat.succ_lt_succ short⟩
        · rintro ⟨holds, short⟩
          cases items with
          | nil => exact absurd holds.ended ended
          | cons item rest =>
              have first : source i = item :=
                holds.elements 0 (Nat.succ_pos _)
              refine ⟨rest, inductionHypothesis.mpr ⟨?_, ?_⟩, by rw [first]⟩
              · rw [shift]
                exact holds.tail
              · exact Nat.lt_of_succ_lt_succ short

/-- Collecting succeeds exactly on a list that the sequence holds and that is
short enough. -/
theorem collect_eq_some_iff {source : Nat → α} {limit : Nat}
    {items : List α} :
    collect mark source limit 0 = some items ↔
      Holds mark source items ∧ items.length < limit := by
  simpa only [Nat.zero_add] using
    @collect_from_eq_some_iff _ mark _ source limit 0 items

/-- A sequence holds at most one list. -/
theorem Holds.unique {source : Nat → α} {left right : List α}
    (leftHolds : Holds mark source left)
    (rightHolds : Holds mark source right) : left = right := by
  have collectedLeft : collect mark source
      (left.length + right.length + 1) 0 = some left :=
    collect_eq_some_iff.mpr ⟨leftHolds, by omega⟩
  have collectedRight : collect mark source
      (left.length + right.length + 1) 0 = some right :=
    collect_eq_some_iff.mpr ⟨rightHolds, by omega⟩
  rw [collectedLeft] at collectedRight
  exact Option.some.inj collectedRight

end Collecting

end Delimited
