import GA330.Library.Traced

/-!
# Consumers that may decline

A consumer takes items one at a time, keeps a state of its own, and says after
each whether it wants another.  Feeding a list to a consumer stops right after
the first item that it declines; the trace holds the items that it was given.
-/

namespace Consumer

variable {State : Type u} {α : Type v}
variable (consume : State → α → State × Bool)

/-- Give one item to the consumer. -/
def give (state : State) (item : α) : Traced α (State × Bool) :=
  ⟨consume state item, [item]⟩

@[simp] theorem value_give (state : State) (item : α) :
    (give consume state item).value = consume state item := rfl

@[simp] theorem trace_give (state : State) (item : α) :
    (give consume state item).trace = [item] := rfl

/-- Feed the items in order until one is declined. -/
def feed (state : State) : List α → Traced α State
  | [] => pure state
  | item :: rest => do
      let given ← give consume state item
      if given.2 then feed given.1 rest else pure given.1

@[simp] theorem feed_nil (state : State) :
    feed consume state [] = pure state := rfl

variable {consume}

/-- A consumer that wants more gets the rest. -/
theorem feed_cons_of_accepted {state : State} {item : α}
    (accepted : (consume state item).2 = true) (rest : List α) :
    (feed consume state (item :: rest)).trace =
      item :: (feed consume (consume state item).1 rest).trace := by
  simp [feed, accepted]

/-- A consumer that declines gets nothing more. -/
theorem feed_cons_of_declined {state : State} {item : α}
    (declined : (consume state item).2 = false) (rest : List α) :
    (feed consume state (item :: rest)).trace = [item] := by
  simp [feed, declined]

/-- Something is given as soon as there is something. -/
theorem feed_trace_eq_nil_iff {state : State} {items : List α} :
    (feed consume state items).trace = [] ↔ items = [] := by
  cases items with
  | nil => simp
  | cons item rest => simp [feed]

/-- A consumer that never declines gets everything. -/
theorem feed_of_tireless (tireless : ∀ state item,
    (consume state item).2 = true) (state : State) (items : List α) :
    (feed consume state items).trace = items := by
  induction items generalizing state with
  | nil => rfl
  | cons item rest inductionHypothesis =>
      rw [feed_cons_of_accepted (tireless state item), inductionHypothesis]

end Consumer
