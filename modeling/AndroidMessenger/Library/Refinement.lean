import AndroidMessenger.Library.Machine

namespace AndroidMessenger.Library.Machine

/-! A machine that carries out another one: behind each of its steps are events of the
other machine, none or several, which do the same. -/

variable {State Event State' Event' Action : Type*}

structure Refines (concrete : Machine State Event Action)
    (abstract : Machine State' Event' Action) (behind : State → Event → List Event')
    (related : State → State' → Prop) : Prop where
  initial : related concrete.initial abstract.initial
  step : ∀ {state state'} event, related state state' →
    related (concrete.step state event) (abstract.runFrom state' (behind state event))
  emits : ∀ {state state'} event, related state state' →
    concrete.emits state event = abstract.traceFrom state' (behind state event)

namespace Refines

variable {concrete : Machine State Event Action} {abstract : Machine State' Event' Action}
  {behind : State → Event → List Event'} {related : State → State' → Prop}

theorem run (refines : concrete.Refines abstract behind related) (events : List Event) :
    related (concrete.run events) (abstract.run ((concrete.observing behind).trace events)) := by
  induction events using List.reverseRecOn with
  | nil => exact refines.initial
  | append_singleton events event ih =>
      rw [observing_concat, run_concat, run_append]
      exact refines.step event ih

theorem trace (refines : concrete.Refines abstract behind related) (events : List Event) :
    concrete.trace events = abstract.trace ((concrete.observing behind).trace events) := by
  induction events using List.reverseRecOn with
  | nil => rfl
  | append_singleton events event ih =>
      rw [observing_concat, trace_concat, trace_append, ← ih,
        refines.emits event (refines.run events)]

theorem meets_concat {guard : List Action → State' → Event' → Prop}
    {events : List Event} {event : Event}
    (before : abstract.Meets guard ((concrete.observing behind).trace events))
    (last : ∀ first other rest, behind (concrete.run events) event = first ++ other :: rest →
      guard (abstract.trace ((concrete.observing behind).trace events ++ first))
        (abstract.run ((concrete.observing behind).trace events ++ first)) other) :
    abstract.Meets guard ((concrete.observing behind).trace (events ++ [event])) := by
  rw [observing_concat]
  intro first other rest split
  rcases List.append_eq_append_iff.mp split with ⟨between, rfl, inside⟩ | ⟨between, inside, rest⟩
  · exact last between other rest inside
  · cases between with
    | nil =>
        have start := last [] other _ rest.symm
        rw [List.append_nil] at inside
        rw [List.append_nil, inside] at start
        exact start
    | cons head tail =>
        obtain ⟨rfl, rfl⟩ := List.cons.inj rest
        exact before first other tail inside

theorem meets_concat_of_one {guard : List Action → State' → Event' → Prop}
    {events : List Event} {event : Event}
    (before : abstract.Meets guard ((concrete.observing behind).trace events))
    (one : (behind (concrete.run events) event).length ≤ 1)
    (last : ∀ other ∈ behind (concrete.run events) event,
      guard (abstract.trace ((concrete.observing behind).trace events))
        (abstract.run ((concrete.observing behind).trace events)) other) :
    abstract.Meets guard ((concrete.observing behind).trace (events ++ [event])) := by
  apply meets_concat before
  intro first other rest split
  rw [split, List.length_append, List.length_cons] at one
  have none : first = [] := List.eq_nil_of_length_eq_zero (by omega)
  rw [none, List.append_nil]
  apply last
  rw [split]
  exact List.mem_append_right _ List.mem_cons_self

end Refines

end AndroidMessenger.Library.Machine
