import Mathlib.Data.List.Infix
import Mathlib.Data.List.TakeWhile

namespace AndroidMessenger.Library

/-! Totally ordered group communication.  A history is one sequence of joins,
leaves and publications, and a member sees what is published while it is in. -/

inductive GroupStep (Member Message : Type*) where
  | join (member : Member)
  | leave (member : Member)
  | publish (message : Message)

namespace Group

variable {Member Message : Type*}

def published (history : List (GroupStep Member Message)) : List Message :=
  history.filterMap fun
    | .publish message => some message
    | _ => none

@[simp] theorem published_nil :
    published ([] : List (GroupStep Member Message)) = [] := rfl

@[simp] theorem published_cons_publish (message : Message)
    (history : List (GroupStep Member Message)) :
    published (.publish message :: history) = message :: published history := rfl

@[simp] theorem published_cons_join (member : Member)
    (history : List (GroupStep Member Message)) :
    published (.join member :: history) = published history := rfl

@[simp] theorem published_cons_leave (member : Member)
    (history : List (GroupStep Member Message)) :
    published (.leave member :: history) = published history := rfl

theorem published_append (first second : List (GroupStep Member Message)) :
    published (first ++ second) = published first ++ published second :=
  List.filterMap_append

theorem published_infix {part history : List (GroupStep Member Message)}
    (inside : part <:+: history) : published part <:+: published history := by
  obtain ⟨before, after, rfl⟩ := inside
  exact ⟨published before, published after, by simp [published_append]⟩

variable [DecidableEq Member]

def joins (member : Member) : GroupStep Member Message → Bool
  | .join other => decide (other = member)
  | _ => false

def leaves (member : Member) : GroupStep Member Message → Bool
  | .leave other => decide (other = member)
  | _ => false

/-- The part of the history from the join of a member up to its leave. -/
def lifetime (member : Member) (history : List (GroupStep Member Message)) :
    List (GroupStep Member Message) :=
  ((history.dropWhile fun step => !joins member step).drop 1).takeWhile
    fun step => !leaves member step

def presentAfter (member : Member) (present : Bool) :
    List (GroupStep Member Message) → Bool
  | [] => present
  | step :: history =>
      presentAfter member ((present || joins member step) && !leaves member step)
        history

/-- What a member is handed along a history, given whether it starts inside. -/
def deliveries (member : Member) (present : Bool) :
    List (GroupStep Member Message) → List Message
  | [] => []
  | .publish message :: history =>
      if present then message :: deliveries member present history
      else deliveries member present history
  | .join other :: history =>
      deliveries member (present || decide (other = member)) history
  | .leave other :: history =>
      deliveries member (present && !decide (other = member)) history

theorem presentAfter_append (member : Member) (present : Bool)
    (first second : List (GroupStep Member Message)) :
    presentAfter member present (first ++ second) =
      presentAfter member (presentAfter member present first) second := by
  induction first generalizing present with
  | nil => rfl
  | cons step history ih => exact ih _

theorem deliveries_append (member : Member) (present : Bool)
    (first second : List (GroupStep Member Message)) :
    deliveries member present (first ++ second) =
      deliveries member present first ++
        deliveries member (presentAfter member present first) second := by
  induction first generalizing present with
  | nil => rfl
  | cons step history ih =>
      cases step with
      | join other => simp [deliveries, presentAfter, joins, leaves, ih]
      | leave other => simp [deliveries, presentAfter, joins, leaves, ih]
      | publish message =>
          cases present <;>
            simp [deliveries, presentAfter, joins, leaves, ih]

theorem deliveries_absent (member : Member)
    {history : List (GroupStep Member Message)}
    (stays : ∀ step ∈ history, joins member step = false) :
    deliveries member false history = [] := by
  induction history with
  | nil => rfl
  | cons step history ih =>
      have tail := ih fun other member => stays other (List.mem_cons_of_mem _ member)
      have head := stays step List.mem_cons_self
      cases step with
      | join other =>
          simp only [joins, decide_eq_false_iff_not] at head
          simpa [deliveries, head] using tail
      | leave other => simpa [deliveries] using tail
      | publish message => simpa [deliveries] using tail

/-- From inside, a member that never joins again sees everything up to its
leave and nothing after it. -/
theorem deliveries_present (member : Member)
    {history : List (GroupStep Member Message)}
    (stays : ∀ step ∈ history, joins member step = false) :
    deliveries member true history =
      published (history.takeWhile fun step => !leaves member step) := by
  induction history with
  | nil => rfl
  | cons step history ih =>
      have stays' : ∀ step ∈ history, joins member step = false :=
        fun other member => stays other (List.mem_cons_of_mem _ member)
      have tail := ih stays'
      cases step with
      | join other => simpa [deliveries, leaves] using tail
      | publish message => simpa [deliveries, leaves] using tail
      | leave other =>
          by_cases same : other = member
          · simpa [deliveries, leaves, same] using
              deliveries_absent member stays'
          · simpa [deliveries, leaves, same] using tail

/-- A member that joins at most once is handed exactly what is published in
its lifetime. -/
theorem deliveries_eq_published_lifetime (member : Member)
    {history : List (GroupStep Member Message)}
    (once : (history.filter (joins member)).length ≤ 1) :
    deliveries member false history = published (lifetime member history) := by
  induction history with
  | nil => rfl
  | cons step history ih =>
      by_cases joined : joins member step = true
      · have absent : ∀ step ∈ history, joins member step = false := by
          rw [List.filter_cons_of_pos joined, List.length_cons] at once
          have empty : history.filter (joins member) = [] :=
            List.length_eq_zero_iff.mp (by omega)
          intro other inside
          have := List.filter_eq_nil_iff.mp empty other inside
          simpa using this
        cases step with
        | join other =>
            have same : other = member := by simpa [joins] using joined
            simpa [deliveries, lifetime, joins, same] using
              deliveries_present member absent
        | leave other => simp [joins] at joined
        | publish message => simp [joins] at joined
      · rw [List.filter_cons_of_neg joined] at once
        have tail := ih once
        have skips : lifetime member (step :: history) = lifetime member history := by
          simp [lifetime, joined]
        rw [skips, ← tail]
        cases step with
        | join other =>
            have other_ne : ¬ other = member := by simpa [joins] using joined
            simp [deliveries, other_ne]
        | leave other => simp [deliveries]
        | publish message => simp [deliveries]

/-- While a member stays inside it sees the group's own sequence. -/
theorem deliveries_eq_published_of_stays (member : Member)
    {history : List (GroupStep Member Message)}
    (stays : ∀ step ∈ history, leaves member step = false) :
    deliveries member true history = published history := by
  induction history with
  | nil => rfl
  | cons step history ih =>
      have tail := ih fun other member => stays other (List.mem_cons_of_mem _ member)
      have head := stays step List.mem_cons_self
      cases step with
      | join other => simpa [deliveries] using tail
      | publish message => simpa [deliveries] using tail
      | leave other =>
          simp only [leaves, decide_eq_false_iff_not] at head
          simpa [deliveries, head] using tail

theorem lifetime_infix (member : Member)
    (history : List (GroupStep Member Message)) :
    lifetime member history <:+: history := by
  have suffix : ((history.dropWhile fun step => !joins member step).drop 1) <:+
      history :=
    (List.drop_suffix _ _).trans (List.dropWhile_suffix _)
  exact (List.takeWhile_prefix _).isInfix.trans suffix.isInfix

end Group

end AndroidMessenger.Library
