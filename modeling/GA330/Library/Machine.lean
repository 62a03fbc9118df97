import Mathlib.Tactic.Common

/-!
# Runs of deterministic machines

A machine is a step function that takes a state and an input to a next state
and an output.  A run feeds it a list of inputs.  The induction over the run
is done here once: a property that every admissible step preserves holds after
every admissible run.
-/

namespace Machine

variable (step : State → Input → State × Output)

/-- State after feeding the inputs in order. -/
def final (state : State) : List Input → State
  | [] => state
  | input :: rest => final (step state input).1 rest

/-- Outputs of the inputs, in order. -/
def outputs (state : State) : List Input → List Output
  | [] => []
  | input :: rest =>
      (step state input).2 :: outputs (step state input).1 rest

/-- The inputs with their outputs, in order. -/
def log (state : State) : List Input → List (Input × Output)
  | [] => []
  | input :: rest =>
      (input, (step state input).2) :: log (step state input).1 rest

/-- Every input is allowed in the state it is fed to. -/
def Admissible (allowed : State → Input → Prop) (state : State) :
    List Input → Prop
  | [] => True
  | input :: rest =>
      allowed state input ∧ Admissible allowed (step state input).1 rest

instance Admissible.decidable {allowed : State → Input → Prop}
    [∀ state input, Decidable (allowed state input)] :
    (state : State) → (inputs : List Input) →
      Decidable (Admissible step allowed state inputs)
  | _, [] => inferInstanceAs (Decidable True)
  | state, input :: rest =>
      @instDecidableAnd _ _ inferInstance
        (Admissible.decidable (step state input).1 rest)

/-- When every input of a run is allowed in every state, the run is
admissible. -/
theorem admissible_of_mem {allowed : State → Input → Prop}
    {inputs : List Input}
    (always : ∀ input ∈ inputs, ∀ state, allowed state input)
    (state : State) : Admissible step allowed state inputs := by
  induction inputs generalizing state with
  | nil => trivial
  | cons input rest inductionHypothesis =>
      rw [List.forall_mem_cons] at always
      exact ⟨always.1 state, inductionHypothesis always.2 _⟩

/-- When everything is allowed, every run is admissible. -/
theorem admissible_of_forall {allowed : State → Input → Prop}
    (always : ∀ state input, allowed state input) (state : State)
    (inputs : List Input) : Admissible step allowed state inputs :=
  admissible_of_mem step (fun input _ state => always state input) state

/-- A run of a machine is admissible when the run of a part of it is. -/
theorem admissible_of_part {Part : Type v} {Answer : Type w}
    {step : State → Input → State × Output}
    {partStep : Part → Input → Part × Answer} (part : State → Part)
    (follows : ∀ state input,
      part (step state input).1 = (partStep (part state) input).1)
    {allowed : Part → Input → Prop} {state : State} {inputs : List Input}
    (admissible : Admissible partStep allowed (part state) inputs) :
    Admissible step (fun whole input => allowed (part whole) input) state
      inputs := by
  induction inputs generalizing state with
  | nil => trivial
  | cons input rest inductionHypothesis =>
      refine ⟨admissible.1, inductionHypothesis ?_⟩
      rw [follows]
      exact admissible.2

@[simp] theorem final_nil (state : State) :
    final step state [] = state := rfl

@[simp] theorem final_cons (state : State) (input : Input)
    (rest : List Input) :
    final step state (input :: rest) =
      final step (step state input).1 rest := rfl

@[simp] theorem outputs_nil (state : State) :
    outputs step state [] = [] := rfl

@[simp] theorem outputs_cons (state : State) (input : Input)
    (rest : List Input) :
    outputs step state (input :: rest) =
      (step state input).2 :: outputs step (step state input).1 rest := rfl

@[simp] theorem log_nil (state : State) :
    log step state [] = [] := rfl

@[simp] theorem log_cons (state : State) (input : Input)
    (rest : List Input) :
    log step state (input :: rest) =
      (input, (step state input).2) :: log step (step state input).1 rest :=
  rfl

theorem log_map_fst (state : State) (inputs : List Input) :
    (log step state inputs).map Prod.fst = inputs := by
  induction inputs generalizing state with
  | nil => rfl
  | cons input rest inductionHypothesis =>
      rw [log_cons, List.map_cons, inductionHypothesis]

theorem log_map_snd (state : State) (inputs : List Input) :
    (log step state inputs).map Prod.snd = outputs step state inputs := by
  induction inputs generalizing state with
  | nil => rfl
  | cons input rest inductionHypothesis =>
      rw [log_cons, List.map_cons, inductionHypothesis, outputs_cons]

theorem final_append (state : State) (first second : List Input) :
    final step state (first ++ second) =
      final step (final step state first) second := by
  induction first generalizing state with
  | nil => rfl
  | cons input rest inductionHypothesis =>
      simp only [List.cons_append, final_cons, inductionHypothesis]

theorem admissible_append {allowed : State → Input → Prop}
    {state : State} {first second : List Input}
    (before : Admissible step allowed state first)
    (after : Admissible step allowed (final step state first) second) :
    Admissible step allowed state (first ++ second) := by
  induction first generalizing state with
  | nil => exact after
  | cons input rest inductionHypothesis =>
      exact ⟨before.1, inductionHypothesis before.2 after⟩

theorem outputs_append (state : State) (first second : List Input) :
    outputs step state (first ++ second) =
      outputs step state first ++
        outputs step (final step state first) second := by
  induction first generalizing state with
  | nil => rfl
  | cons input rest inductionHypothesis =>
      simp only [List.cons_append, outputs_cons, final_cons,
        inductionHypothesis]

/-- An output in a run is that of an input, in the state that the inputs before
it lead to. -/
theorem outputs_eq_append_cons {state : State} {inputs : List Input}
    {before after : List Output} {output : Output}
    (split : outputs step state inputs = before ++ output :: after) :
    ∃ first input rest, inputs = first ++ input :: rest ∧
      before = outputs step state first ∧
        output = (step (final step state first) input).2 := by
  induction before generalizing state inputs with
  | nil =>
      cases inputs with
      | nil => contradiction
      | cons input rest =>
          rw [outputs_cons, List.nil_append, List.cons_eq_cons] at split
          exact ⟨[], input, rest, rfl, rfl, split.1.symm⟩
  | cons head tail inductionHypothesis =>
      cases inputs with
      | nil => contradiction
      | cons input rest =>
          rw [outputs_cons, List.cons_append, List.cons_eq_cons] at split
          obtain ⟨here, later⟩ := split
          obtain ⟨first, found, others, rfl, rfl, same⟩ :=
            inductionHypothesis later
          exact ⟨input :: first, found, others, rfl, by rw [← here]; rfl,
            same⟩

/-- A property that every step preserves holds after every run. -/
theorem final_invariant {property : State → Prop}
    (preserved : ∀ state input,
      property state → property (step state input).1)
    {state : State} (initially : property state) (inputs : List Input) :
    property (final step state inputs) := by
  induction inputs generalizing state with
  | nil => exact initially
  | cons input rest inductionHypothesis =>
      exact inductionHypothesis (preserved state input initially)

/-- A property that every allowed step preserves holds after every admissible
run. -/
theorem final_invariant_of_admissible {property : State → Prop}
    {allowed : State → Input → Prop}
    (preserved : ∀ state input, allowed state input →
      property state → property (step state input).1)
    {state : State} (initially : property state) {inputs : List Input}
    (admissible : Admissible step allowed state inputs) :
    property (final step state inputs) := by
  induction inputs generalizing state with
  | nil => exact initially
  | cons input rest inductionHypothesis =>
      exact inductionHypothesis
        (preserved state input admissible.1 initially) admissible.2

/-- When every allowed step preserves a property and gives an output of a kind,
every output of an admissible run is of that kind. -/
theorem outputs_of_admissible {property : State → Prop}
    {kind : Output → Prop} {allowed : State → Input → Prop}
    (preserved : ∀ state input, allowed state input →
      property state → property (step state input).1 ∧
        kind (step state input).2)
    {state : State} (initially : property state) {inputs : List Input}
    (admissible : Admissible step allowed state inputs) :
    ∀ output ∈ outputs step state inputs, kind output := by
  induction inputs generalizing state with
  | nil => simp
  | cons input rest inductionHypothesis =>
      have here := preserved state input admissible.1 initially
      rw [outputs_cons, List.forall_mem_cons]
      exact ⟨here.2, inductionHypothesis here.1 admissible.2⟩

/-- Two machines that are fed the same inputs. -/
def pair (first : First → Input → First × Output)
    (second : Second → Input → Second × Output) (states : First × Second)
    (input : Input) : (First × Second) × Output × Output :=
  (((first states.1 input).1, (second states.2 input).1),
    (first states.1 input).2, (second states.2 input).2)

theorem final_pair (first : First → Input → First × Output)
    (second : Second → Input → Second × Output) (left : First)
    (right : Second) (inputs : List Input) :
    final (pair first second) (left, right) inputs =
      (final first left inputs, final second right inputs) := by
  induction inputs generalizing left right with
  | nil => rfl
  | cons input rest inductionHypothesis =>
      exact inductionHypothesis (first left input).1 (second right input).1

/-- When every allowed step of two related machines gives the same output and
leaves them related, their runs give the same outputs. -/
theorem outputs_eq_of_lockstep
    {first : First → Input → First × Output}
    {second : Second → Input → Second × Output}
    {related : First → Second → Prop}
    {allowed : First × Second → Input → Prop}
    (preserved : ∀ left right input, allowed (left, right) input →
      related left right →
        related (first left input).1 (second right input).1 ∧
          (first left input).2 = (second right input).2)
    {left : First} {right : Second} (initially : related left right)
    {inputs : List Input}
    (admissible : Admissible (pair first second) allowed (left, right)
      inputs) :
    outputs first left inputs = outputs second right inputs := by
  induction inputs generalizing left right with
  | nil => rfl
  | cons input rest inductionHypothesis =>
      obtain ⟨still, same⟩ :=
        preserved left right input admissible.1 initially
      rw [outputs_cons, outputs_cons, same,
        inductionHypothesis still admissible.2]

/-- When every allowed step of a machine is matched by a machine that is fed an
image of the input, so is every admissible run. -/
theorem matched_of_admissible {Image : Type w}
    {first : First → Input → First × Output}
    {second : Second → Image → Second × Output} (image : Input → Image)
    {related : First → Second → Prop} {allowed : First → Input → Prop}
    (preserved : ∀ left right input, allowed left input →
      related left right →
        related (first left input).1 (second right (image input)).1 ∧
          (second right (image input)).2 = (first left input).2)
    {left : First} {right : Second} (initially : related left right)
    {inputs : List Input}
    (admissible : Admissible first allowed left inputs) :
    related (final first left inputs)
        (final second right (inputs.map image)) ∧
      outputs second right (inputs.map image) =
        outputs first left inputs := by
  induction inputs generalizing left right with
  | nil => exact ⟨initially, rfl⟩
  | cons input rest inductionHypothesis =>
      obtain ⟨still, same⟩ :=
        preserved left right input admissible.1 initially
      obtain ⟨atEnd, others⟩ := inductionHypothesis still admissible.2
      rw [List.map_cons, outputs_cons, outputs_cons, same, others]
      exact ⟨atEnd, rfl⟩

/-- A relation between the state and the log so far that every allowed step
preserves holds after every admissible run. -/
theorem final_log_invariant
    {property : State → List (Input × Output) → Prop}
    {allowed : State → Input → Prop}
    (preserved : ∀ state past input, allowed state input →
      property state past →
        property (step state input).1
          (past ++ [(input, (step state input).2)]))
    {state : State} {past : List (Input × Output)}
    (initially : property state past) {inputs : List Input}
    (admissible : Admissible step allowed state inputs) :
    property (final step state inputs) (past ++ log step state inputs) := by
  induction inputs generalizing state past with
  | nil => simpa using initially
  | cons input rest inductionHypothesis =>
      have continued := inductionHypothesis
        (preserved state past input admissible.1 initially) admissible.2
      simpa using continued

/-- When the inputs of one kind find the same in two related states, and the
others keep them related, erasing the others from an admissible run changes
nothing that is answered to the one kind. -/
theorem log_filter {related : State → State → Prop}
    {allowed : State → Input → Prop} {own : Input → Bool}
    (same : ∀ left right input, allowed left input → own input = true →
      related left right →
        related (step left input).1 (step right input).1 ∧
          (step right input).2 = (step left input).2)
    (apart : ∀ left right input, allowed left input → own input = false →
      related left right → related (step left input).1 right)
    {left right : State} (initially : related left right)
    {inputs : List Input}
    (admissible : Admissible step allowed left inputs) :
    related (final step left inputs)
        (final step right (inputs.filter own)) ∧
      (log step left inputs).filter (fun entry => own entry.1) =
        log step right (inputs.filter own) := by
  induction inputs generalizing left right with
  | nil => exact ⟨initially, rfl⟩
  | cons input rest inductionHypothesis =>
      rw [log_cons, final_cons]
      cases kind : own input with
      | true =>
          obtain ⟨still, answered⟩ :=
            same left right input admissible.1 kind initially
          obtain ⟨atEnd, logged⟩ :=
            inductionHypothesis still admissible.2
          rw [List.filter_cons_of_pos (by exact kind),
            List.filter_cons_of_pos (by exact kind), log_cons, final_cons,
            answered, logged]
          exact ⟨atEnd, rfl⟩
      | false =>
          rw [List.filter_cons_of_neg (by simp [kind]),
            List.filter_cons_of_neg (by simp [kind])]
          exact inductionHypothesis
            (apart left right input admissible.1 kind initially)
            admissible.2

/-! ## Machines that can stop -/

section Stopping

variable {Seen : Type*} {Abstract : Type*} {Shown : Type*}
variable {Phase : Type*} {Other : Type*} {Task : Type*}

/-- A run of a machine whose steps may have no result, with all that they
emit. -/
def play (step : State → Input → Option (State × List Output)) :
    State → List Input → Option (State × List Output)
  | state, [] => some (state, [])
  | state, input :: rest =>
      (step state input).bind fun (after, emitted) =>
        (play step after rest).map fun (final, later) =>
          (final, emitted ++ later)

/-- When every allowed step of a machine looks like one of another, and keeps
it in the phase that allows the next ones, so does every admissible run. -/
theorem play_simulates
    {step : State → Input → Option (State × List Output)}
    {abstractStep : Abstract → Input → Option (Abstract × List Shown)}
    {view : State → Abstract} {seen : List Output → List Seen}
    {shown : List Shown → List Seen} (start : seen [] = shown [])
    (seenAppend : ∀ first second,
      seen (first ++ second) = seen first ++ seen second)
    (shownAppend : ∀ first second,
      shown (first ++ second) = shown first ++ shown second)
    {next : Phase → Input → Phase} {allowed : Phase → Input → Prop}
    {meets : State → Phase → Prop}
    (looks : ∀ state phase input, meets state phase → allowed phase input →
      (step state input).map (fun result =>
          (view result.1, seen result.2)) =
        (abstractStep (view state) input).map fun result =>
          (result.1, shown result.2))
    (keeps : ∀ state phase input after emitted, meets state phase →
      allowed phase input → step state input = some (after, emitted) →
        meets after (next phase input))
    {state : State} {phase : Phase} (initially : meets state phase)
    {inputs : List Input}
    (admissible : Admissible (fun phase input => (next phase input, ()))
      allowed phase inputs) :
    (play step state inputs).map (fun result =>
        (view result.1, seen result.2)) =
      (play abstractStep (view state) inputs).map fun result =>
        (result.1, shown result.2) := by
  induction inputs generalizing state phase with
  | nil =>
      rw [play, play, Option.map_some, Option.map_some, start]
  | cons input rest inductionHypothesis =>
      obtain ⟨here, later⟩ := admissible
      have same := looks state phase input initially here
      rw [play, play]
      cases done : step state input with
      | none =>
          rw [done, Option.map_none] at same
          rw [Option.map_eq_none_iff.mp same.symm]
          rfl
      | some result =>
          obtain ⟨after, emitted⟩ := result
          rw [done, Option.map_some] at same
          obtain ⟨⟨other, pictures⟩, onAbstract, equal⟩ :=
            Option.map_eq_some_iff.mp same.symm
          obtain ⟨rfl, first⟩ := Prod.mk.inj equal
          have onward := inductionHypothesis
            (keeps state phase input after emitted initially here done) later
          rw [onAbstract]
          simp only [Option.bind_some]
          cases reached : play step after rest with
          | none =>
              rw [reached, Option.map_none] at onward
              rw [Option.map_eq_none_iff.mp onward.symm]
              rfl
          | some final =>
              rw [reached, Option.map_some] at onward
              obtain ⟨⟨last, others⟩, ended, same⟩ :=
                Option.map_eq_some_iff.mp onward.symm
              obtain ⟨rfl, second⟩ := Prod.mk.inj same
              rw [ended]
              simp only [Option.map_some, seenAppend, shownAppend, first,
                second]

/-- When every step is followed by some tasks of another machine, a run is
followed by the tasks of all its steps. -/
theorem play_followed
    {step : State → Input → Option (State × List Output)}
    {perform : Other → Task → Option Other} {tasks : Input → List Task}
    {related : State → Other → Prop}
    (follows : ∀ state other input after emitted, related state other →
      step state input = some (after, emitted) →
        ∃ reached, (tasks input).foldlM perform other = some reached ∧
          related after reached)
    {state final : State} {other : Other} (initially : related state other)
    {inputs : List Input} {emitted : List Output}
    (done : play step state inputs = some (final, emitted)) :
    ∃ reached, (inputs.flatMap tasks).foldlM perform other = some reached ∧
      related final reached := by
  induction inputs generalizing state other emitted with
  | nil =>
      cases done
      exact ⟨other, rfl, initially⟩
  | cons input rest inductionHypothesis =>
      obtain ⟨⟨after, here⟩, stepped, later⟩ :=
        Option.bind_eq_some_iff.mp done
      obtain ⟨⟨last, others⟩, played, equal⟩ :=
        Option.map_eq_some_iff.mp later
      cases equal
      obtain ⟨middle, first, stillRelated⟩ :=
        follows state other input after here initially stepped
      obtain ⟨reached, second, atEnd⟩ :=
        inductionHypothesis stillRelated played
      refine ⟨reached, ?_, atEnd⟩
      rw [List.flatMap_cons, List.foldlM_append, first]
      exact second

end Stopping

/-! ## Reached states -/

/-- A state that an admissible run leads to. -/
def Reached (allowed : State → Input → Prop) (initial state : State) :
    Prop :=
  ∃ inputs, Admissible step allowed initial inputs ∧
    final step initial inputs = state

/-- A property that every allowed step preserves holds in every reached
state. -/
theorem Reached.invariant {property : State → Prop}
    {allowed : State → Input → Prop} {initial state : State}
    (reached : Reached step allowed initial state)
    (preserved : ∀ state input, allowed state input →
      property state → property (step state input).1)
    (initially : property initial) : property state := by
  obtain ⟨inputs, admissible, rfl⟩ := reached
  exact final_invariant_of_admissible step preserved initially admissible

/-- What an admissible run leads to from a reached state is reached. -/
theorem Reached.run {allowed : State → Input → Prop}
    {initial state : State} (reached : Reached step allowed initial state)
    {inputs : List Input}
    (admissible : Admissible step allowed state inputs) :
    Reached step allowed initial (final step state inputs) := by
  obtain ⟨before, admissibleBefore, rfl⟩ := reached
  exact ⟨before ++ inputs,
    admissible_append step admissibleBefore admissible,
    final_append step _ _ _⟩

end Machine
