import Mathlib.Data.List.Induction

namespace AndroidMessenger.Library

/-! Machines that answer every event and report what they did.  All choices of
the environment are in the events, so a run is determined by its event list. -/

structure Machine (State Event Action : Type*) where
  initial : State
  step : State → Event → State
  emits : State → Event → List Action

namespace Machine

variable {State Event Action : Type*}

def runFrom (machine : Machine State Event Action) (state : State) :
    List Event → State
  | [] => state
  | event :: events => machine.runFrom (machine.step state event) events

def traceFrom (machine : Machine State Event Action) (state : State) :
    List Event → List Action
  | [] => []
  | event :: events =>
      machine.emits state event ++
        machine.traceFrom (machine.step state event) events

variable (machine : Machine State Event Action)

def run (events : List Event) : State :=
  machine.runFrom machine.initial events

def trace (events : List Event) : List Action :=
  machine.traceFrom machine.initial events

@[simp] theorem runFrom_nil (state : State) : machine.runFrom state [] = state := rfl

@[simp] theorem runFrom_cons (state : State) (event : Event)
    (events : List Event) :
    machine.runFrom state (event :: events) =
      machine.runFrom (machine.step state event) events := rfl

@[simp] theorem traceFrom_nil (state : State) : machine.traceFrom state [] = [] := rfl

@[simp] theorem traceFrom_cons (state : State) (event : Event)
    (events : List Event) :
    machine.traceFrom state (event :: events) =
      machine.emits state event ++
        machine.traceFrom (machine.step state event) events := rfl

theorem runFrom_append (state : State) (first second : List Event) :
    machine.runFrom state (first ++ second) =
      machine.runFrom (machine.runFrom state first) second := by
  induction first generalizing state with
  | nil => rfl
  | cons event events ih => exact ih (machine.step state event)

theorem traceFrom_append (state : State) (first second : List Event) :
    machine.traceFrom state (first ++ second) =
      machine.traceFrom state first ++
        machine.traceFrom (machine.runFrom state first) second := by
  induction first generalizing state with
  | nil => rfl
  | cons event events ih =>
      simp only [List.cons_append, traceFrom_cons, runFrom_cons]
      rw [ih, List.append_assoc]

@[simp] theorem run_nil : machine.run [] = machine.initial := rfl

@[simp] theorem trace_nil : machine.trace [] = [] := rfl

/-- Events that a state ignores change nothing, in any order. -/
theorem runFrom_of_ignored {state : State} {events : List Event}
    (ignored : ∀ event ∈ events,
      machine.step state event = state ∧ machine.emits state event = []) :
    machine.runFrom state events = state ∧ machine.traceFrom state events = [] := by
  induction events with
  | nil => exact ⟨rfl, rfl⟩
  | cons event events ih =>
      obtain ⟨rests, silent⟩ := ignored event List.mem_cons_self
      rw [runFrom_cons, traceFrom_cons, rests, silent, List.nil_append]
      apply ih
      intro other inside
      exact ignored other (List.mem_cons_of_mem event inside)

theorem run_append (first second : List Event) :
    machine.run (first ++ second) = machine.runFrom (machine.run first) second :=
  machine.runFrom_append machine.initial first second

theorem trace_append (first second : List Event) :
    machine.trace (first ++ second) =
      machine.trace first ++ machine.traceFrom (machine.run first) second :=
  machine.traceFrom_append machine.initial first second

theorem run_concat (events : List Event) (event : Event) :
    machine.run (events ++ [event]) = machine.step (machine.run events) event := by
  rw [run_append]
  rfl

theorem trace_concat (events : List Event) (event : Event) :
    machine.trace (events ++ [event]) =
      machine.trace events ++ machine.emits (machine.run events) event := by
  rw [trace_append]
  simp

theorem traceFrom_run_concat (first second : List Event) (event : Event) :
    machine.traceFrom (machine.run first) (second ++ [event]) =
      machine.traceFrom (machine.run first) second ++
        machine.emits (machine.run (first ++ second)) event := by
  rw [traceFrom_append, ← run_append]
  simp

/-- The same machine, seen through something else than its actions. -/
def observing {Observation : Type*} (observe : State → Event → List Observation) :
    Machine State Event Observation where
  initial := machine.initial
  step := machine.step
  emits := observe

theorem run_observing {Observation : Type*} (observe : State → Event → List Observation)
    (events : List Event) : (machine.observing observe).run events = machine.run events := by
  induction events using List.reverseRecOn with
  | nil => rfl
  | append_singleton events event ih =>
      rw [run_concat, run_concat, ih]
      rfl

theorem observing_concat {Observation : Type*} (observe : State → Event → List Observation)
    (events : List Event) (event : Event) :
    (machine.observing observe).trace (events ++ [event]) =
      (machine.observing observe).trace events ++ observe (machine.run events) event := by
  rw [trace_concat, run_observing]
  rfl

theorem exists_of_mem_trace {events : List Event} {action : Action}
    (inside : action ∈ machine.trace events) :
    ∃ before event after, events = before ++ event :: after ∧
      action ∈ machine.emits (machine.run before) event := by
  induction events using List.reverseRecOn with
  | nil => exact absurd inside List.not_mem_nil
  | append_singleton events event ih =>
      rw [trace_concat, List.mem_append] at inside
      rcases inside with early | last
      · obtain ⟨before, other, after, rfl, emitted⟩ := ih early
        exact ⟨before, other, after ++ [event], by simp, emitted⟩
      · exact ⟨events, event, [], rfl, last⟩

theorem exists_of_mem_observing {Observation : Type*}
    {observe : State → Event → List Observation} {events : List Event}
    {observation : Observation}
    (inside : observation ∈ (machine.observing observe).trace events) :
    ∃ before event after, events = before ++ event :: after ∧
      observation ∈ observe (machine.run before) event := by
  obtain ⟨before, event, after, split, seen⟩ :=
    (machine.observing observe).exists_of_mem_trace inside
  rw [run_observing] at seen
  exact ⟨before, event, after, split, seen⟩

/-- Every step of the run satisfies the guard, which may look at what the
machine did before, at the state and at the event. -/
def Meets (guard : List Action → State → Event → Prop)
    (events : List Event) : Prop :=
  ∀ before event after, events = before ++ event :: after →
    guard (machine.trace before) (machine.run before) event

variable {machine} {guard : List Action → State → Event → Prop}

theorem Meets.of_forall {events : List Event}
    (always : ∀ event ∈ events, ∀ trace state, guard trace state event) :
    machine.Meets guard events := by
  intro before event after equality
  apply always event
  rw [equality]
  exact List.mem_append_right _ List.mem_cons_self

theorem Meets.nil : machine.Meets guard [] :=
  Meets.of_forall fun _ inside => absurd inside List.not_mem_nil

theorem Meets.of_append {first second : List Event}
    (meets : machine.Meets guard (first ++ second)) : machine.Meets guard first := by
  intro before event after equality
  apply meets before event (after ++ second)
  rw [equality]
  simp

theorem Meets.of_concat {events : List Event} {event : Event}
    (meets : machine.Meets guard (events ++ [event])) :
    machine.Meets guard events :=
  meets.of_append

theorem Meets.concat {events : List Event} {event : Event}
    (meets : machine.Meets guard events)
    (last : guard (machine.trace events) (machine.run events) event) :
    machine.Meets guard (events ++ [event]) := by
  intro before other after equality
  rcases List.eq_nil_or_concat after with rfl | ⟨rest, final, rfl⟩
  · obtain ⟨rfl, same⟩ := List.append_inj' equality rfl
    obtain rfl := List.singleton_inj.mp same
    exact last
  · rw [List.concat_eq_append, ← List.cons_append, ← List.append_assoc] at equality
    exact meets before other rest (List.append_inj' equality rfl).1

theorem Meets.last {events : List Event} {event : Event}
    (meets : machine.Meets guard (events ++ [event])) :
    guard (machine.trace events) (machine.run events) event :=
  meets events event [] rfl

theorem Meets.mono {weaker : List Action → State → Event → Prop}
    (implies : ∀ trace state event, guard trace state event →
      weaker trace state event)
    {events : List Event} (meets : machine.Meets guard events) :
    machine.Meets weaker events :=
  fun before event after equality =>
    implies _ _ _ (meets before event after equality)

/-- A statement about runs that every step which satisfies the guard keeps, with
the run before the step at hand. -/
theorem Meets.run_induction {property : List Event → Prop} (start : property [])
    (keep : ∀ events event,
      guard (machine.trace events) (machine.run events) event →
      property events → property (events ++ [event]))
    {events : List Event} (meets : machine.Meets guard events) : property events := by
  induction events using List.reverseRecOn with
  | nil => exact start
  | append_singleton events event ih => exact keep _ _ meets.last (ih meets.of_concat)

/-- What holds at the start and is kept by every step that satisfies the guard
holds at the end of every run whose steps satisfy it. -/
theorem Meets.induction {invariant : List Action → State → Prop}
    (start : invariant [] machine.initial)
    (keep : ∀ trace state event, guard trace state event →
      invariant trace state →
      invariant (trace ++ machine.emits state event) (machine.step state event))
    {events : List Event} (meets : machine.Meets guard events) :
    invariant (machine.trace events) (machine.run events) := by
  apply meets.run_induction start
  intro events event guarded held
  rw [machine.trace_concat, machine.run_concat]
  exact keep _ _ _ guarded held

/-- The unguarded case: an inductive invariant of trace and state holds after
every run. -/
theorem induction {invariant : List Action → State → Prop}
    (start : invariant [] machine.initial)
    (keep : ∀ trace state event, invariant trace state →
      invariant (trace ++ machine.emits state event) (machine.step state event))
    (events : List Event) :
    invariant (machine.trace events) (machine.run events) := by
  have meets : machine.Meets (fun _ _ _ => True) events := fun _ _ _ _ => trivial
  apply meets.induction start
  intro trace state event _
  exact keep trace state event

end Machine

end AndroidMessenger.Library
