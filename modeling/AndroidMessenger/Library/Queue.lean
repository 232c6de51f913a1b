import Mathlib.Data.List.Forall2
import AndroidMessenger.Library.Machine

namespace AndroidMessenger.Library.Machine

/-! Queues inside a machine, seen through what goes in and what comes out. -/

variable {State Event Action Item : Type*} {machine : Machine State Event Action}
  {puts takes : State → Event → List Item} {queue : State → List Item}

/-- What has come out, followed by what is still inside, is what has gone in. -/
theorem queue_run (initial : queue machine.initial = [])
    (step : ∀ events event,
      takes (machine.run events) event ++ queue (machine.step (machine.run events) event) =
        queue (machine.run events) ++ puts (machine.run events) event)
    (events : List Event) :
    (machine.observing takes).trace events ++ queue (machine.run events) =
      (machine.observing puts).trace events := by
  induction events using List.reverseRecOn with
  | nil => exact initial
  | append_singleton events event ih =>
      rw [observing_concat, observing_concat, run_concat, List.append_assoc, step,
        ← List.append_assoc, ih]

/-- What two observers see goes together in each step that satisfies the guard, and so in
every run whose steps do. -/
theorem Meets.forall₂_observing {Other : Type*} {guard : List Action → State → Event → Prop}
    {observe : State → Event → List Item} {other : State → Event → List Other}
    {goesWith : Item → Other → Prop}
    (step : ∀ events event, guard (machine.trace events) (machine.run events) event →
      List.Forall₂ goesWith (observe (machine.run events) event)
        (other (machine.run events) event))
    {events : List Event} (meets : machine.Meets guard events) :
    List.Forall₂ goesWith ((machine.observing observe).trace events)
      ((machine.observing other).trace events) := by
  refine @Meets.run_induction _ _ _ machine guard (fun events =>
    List.Forall₂ goesWith ((machine.observing observe).trace events)
      ((machine.observing other).trace events)) List.Forall₂.nil ?_ events meets
  intro events event guarded ih
  rw [observing_concat, observing_concat]
  exact List.rel_append ih (step events event guarded)

end AndroidMessenger.Library.Machine
