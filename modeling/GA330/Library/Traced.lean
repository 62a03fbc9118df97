import Mathlib.Tactic.Common

/-!
# Computations that record what they did

A traced computation is a value together with the list of events that
producing it caused, in order.  Sequencing concatenates the traces, so a
property of every event is proved one step at a time.
-/

/-- A value and the events that led to it. -/
structure Traced (Event : Type u) (α : Type v) where
  value : α
  trace : List Event

namespace Traced

instance : Monad (Traced Event) where
  pure value := ⟨value, []⟩
  bind first next :=
    ⟨(next first.value).value, first.trace ++ (next first.value).trace⟩

@[simp] theorem value_pure (value : α) :
    (pure value : Traced Event α).value = value := rfl

@[simp] theorem trace_pure (value : α) :
    (pure value : Traced Event α).trace = [] := rfl

@[simp] theorem value_bind (first : Traced Event α)
    (next : α → Traced Event β) :
    (first >>= next).value = (next first.value).value := rfl

@[simp] theorem trace_bind (first : Traced Event α)
    (next : α → Traced Event β) :
    (first >>= next).trace =
      first.trace ++ (next first.value).trace := rfl

/-- Every recorded event has the property. -/
def Always (property : Event → Prop) (computation : Traced Event α) : Prop :=
  ∀ event ∈ computation.trace, property event

theorem always_pure (property : Event → Prop) (value : α) :
    Always property (pure value) := by
  simp [Always]

/-- One event is recorded. -/
theorem always_single {property : Event → Prop} {value : α} {event : Event}
    (holds : property event) : Always property ⟨value, [event]⟩ := by
  simpa [Always] using holds

/-- Sequencing: the property holds of the first part and, for the value that
part really produced, of the rest. -/
theorem always_bind {property : Event → Prop} {first : Traced Event α}
    {next : α → Traced Event β}
    (firstAlways : Always property first)
    (nextAlways : Always property (next first.value)) :
    Always property (first >>= next) := by
  intro event present
  rw [trace_bind, List.mem_append] at present
  cases present with
  | inl inFirst => exact firstAlways event inFirst
  | inr inNext => exact nextAlways event inNext

end Traced
