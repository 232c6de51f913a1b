import Mathlib.Algebra.GroupWithZero.Nat
import AndroidMessenger.Library.Machine

namespace AndroidMessenger.Library.Machine

/-! Machines that cannot go on for long: every event has a cost, which is paid out of a
rank as long as the machine lives. -/

variable {State Event Action : Type*} {machine : Machine State Event Action}
  {kept live : State → Prop} {rank : State → Nat} {cost : Event → Nat}

theorem rank_runFrom {events : List Event}
    (keeps : ∀ state, ∀ event ∈ events, kept state → kept (machine.step state event))
    (pays : ∀ state, ∀ event ∈ events, kept state → live (machine.step state event) →
      live state ∧ rank (machine.step state event) + cost event ≤ rank state)
    {state : State} (start : kept state) (lives : live (machine.runFrom state events)) :
    live state ∧
      rank (machine.runFrom state events) + (events.map cost).sum ≤ rank state := by
  induction events generalizing state with
  | nil => exact ⟨lives, Nat.le_refl _⟩
  | cons event events ih =>
      have next := keeps state event List.mem_cons_self start
      obtain ⟨lived, spent⟩ := ih
        (fun state other inside => keeps state other (List.mem_cons_of_mem event inside))
        (fun state other inside => pays state other (List.mem_cons_of_mem event inside))
        next lives
      obtain ⟨before, paid⟩ := pays state event List.mem_cons_self start lived
      refine ⟨before, ?_⟩
      rw [runFrom_cons, List.map_cons, List.sum_cons]
      omega

/-- A machine that would have to pay more than its rank is no longer alive. -/
theorem not_live_of_rank_lt {events : List Event}
    (keeps : ∀ state, ∀ event ∈ events, kept state → kept (machine.step state event))
    (pays : ∀ state, ∀ event ∈ events, kept state → live (machine.step state event) →
      live state ∧ rank (machine.step state event) + cost event ≤ rank state)
    {state : State} (start : kept state) (spent : rank state < (events.map cost).sum) :
    ¬ live (machine.runFrom state events) := by
  intro lives
  have paid := (rank_runFrom keeps pays start lives).2
  omega

end AndroidMessenger.Library.Machine
