import Mathlib.Data.List.Basic

/-!
# Runs that are cut into slices

A process takes one step after the other, with an input for each, until a step
is not possible.  A scheduler that lets it go on again and again sees a run in
slices, each with inputs of its own.  Put together, the slices are one run.
-/

namespace Slices

section Runs

variable {State : Type u} {Input : Type v} {Event : Type w}
variable (step : Input → State → Option (Event × State))

/-- Steps that are all possible: the events, with the states that they lead
to. -/
def run : State → List Input → Option (List (Event × State))
  | _, [] => some []
  | state, input :: rest =>
      (step input state).bind fun reached =>
        (run reached.2 rest).map (reached :: ·)

/-- The state at the end. -/
def last : State → List (Event × State) → State
  | state, [] => state
  | _, reached :: rest => last reached.2 rest

/-- The first inputs of a supply. -/
def supplied (supply : Nat → Input) (count : Nat) : List Input :=
  (List.range count).map supply

/-- Slices of these lengths, with a supply for each. -/
def inputs : List (Nat → Input) → List (List (Event × State)) → List Input
  | supply :: others, slice :: rest =>
      supplied supply slice.length ++ inputs others rest
  | _, _ => []

/-- Every slice goes on where the one before has ended. -/
def Cut : State → List (Nat → Input) → List (List (Event × State)) → Prop
  | _, [], [] => True
  | state, supply :: others, slice :: rest =>
      run step state (supplied supply slice.length) = some slice ∧
        Cut (last state slice) others rest
  | _, _, _ => False

variable {step}

@[simp] theorem last_nil (state : State) :
    last state ([] : List (Event × State)) = state := rfl

@[simp] theorem last_cons (state : State) (reached : Event × State)
    (rest : List (Event × State)) :
    last state (reached :: rest) = last reached.2 rest := rfl

@[simp] theorem run_nil (state : State) :
    run step state [] = some [] := rfl

theorem run_cons (state : State) (input : Input) (rest : List Input) :
    run step state (input :: rest) =
      (step input state).bind fun reached =>
        (run step reached.2 rest).map (reached :: ·) := rfl

@[simp] theorem last_append (state : State)
    (first second : List (Event × State)) :
    last state (first ++ second) = last (last state first) second := by
  induction first generalizing state with
  | nil => rfl
  | cons reached rest inductionHypothesis =>
      exact inductionHypothesis reached.2

/-- There are as many events as inputs. -/
theorem length_of_run {state : State} {given : List Input}
    {events : List (Event × State)}
    (runs : run step state given = some events) :
    events.length = given.length := by
  induction given generalizing state events with
  | nil =>
      cases runs
      rfl
  | cons input rest inductionHypothesis =>
      rw [run_cons] at runs
      obtain ⟨reached, _, others⟩ := Option.bind_eq_some_iff.mp runs
      obtain ⟨later, runsLater, rfl⟩ := Option.map_eq_some_iff.mp others
      rw [List.length_cons, List.length_cons,
        inductionHypothesis runsLater]

/-- A run goes on where another has ended. -/
theorem run_append_iff {state : State} {first second : List Input}
    {events : List (Event × State)} :
    run step state (first ++ second) = some events ↔
      ∃ before after, run step state first = some before ∧
        run step (last state before) second = some after ∧
          events = before ++ after := by
  induction first generalizing state events with
  | nil => simp [eq_comm]
  | cons input rest inductionHypothesis =>
      rw [List.cons_append, run_cons, run_cons]
      cases step input state with
      | none => simp
      | some reached =>
          simp only [Option.bind_some, Option.map_eq_some_iff,
            inductionHypothesis]
          constructor
          · rintro ⟨_, ⟨before, after, runsFirst, runsSecond, rfl⟩, rfl⟩
            exact ⟨reached :: before, after, ⟨before, runsFirst, rfl⟩,
              runsSecond, rfl⟩
          · rintro ⟨_, after, ⟨before, runsFirst, rfl⟩, runsSecond, rfl⟩
            exact ⟨before ++ after, ⟨before, after, runsFirst, runsSecond,
              rfl⟩, rfl⟩

theorem length_supplied (supply : Nat → Input) (count : Nat) :
    (supplied supply count).length = count := by
  rw [supplied, List.length_map, List.length_range]

/-- One more input in front. -/
theorem supplied_succ (supply : Nat → Input) (count : Nat) :
    supplied supply (count + 1) =
      supply 0 :: supplied (fun index => supply (index + 1)) count := by
  rw [supplied, List.range_succ_eq_map, List.map_cons, List.map_map]
  rfl

/-- Slices that go on from each other are one run. -/
theorem cut_iff {state : State} {supplies : List (Nat → Input)}
    {slices : List (List (Event × State))} :
    Cut step state supplies slices ↔
      slices.length = supplies.length ∧
        run step state (inputs supplies slices) = some slices.flatten := by
  induction supplies generalizing state slices with
  | nil =>
      cases slices with
      | nil => simp [Cut, inputs]
      | cons slice rest => simp [Cut]
  | cons supply others inductionHypothesis =>
      cases slices with
      | nil => simp [Cut]
      | cons slice rest =>
          rw [Cut, inputs, inductionHypothesis, run_append_iff,
            List.flatten_cons, List.length_cons, List.length_cons,
            Nat.add_right_cancel_iff]
          constructor
          · rintro ⟨runsFirst, sameLength, runsRest⟩
            exact ⟨sameLength, slice, rest.flatten, runsFirst, runsRest,
              rfl⟩
          · rintro ⟨sameLength, before, after, runsFirst, runsRest, whole⟩
            have firstLength : slice.length = before.length := by
              rw [length_of_run runsFirst, length_supplied]
            obtain ⟨rfl, rfl⟩ := List.append_inj whole firstLength
            exact ⟨runsFirst, sameLength, runsRest⟩

end Runs

end Slices
