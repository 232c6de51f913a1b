import AndroidMessenger.Library.Machine
import AndroidMessenger.Networking.Wait

namespace AndroidMessenger.Networking.Kill

open Library Msg

/-! Calls of `wait` on one waiter, one at a time, and calls of `kill` from other threads.
Each call of `kill` and the locked section of `wait` is one step. -/

/-- `flex_waiter::KILL_SIGNAL`, the number of `SIGKILL`. -/
def killSignal : Nat := 9

def maxCounter : Nat := 18446744073709551614

/-- How far the call of `wait` has come, with what its system calls return. -/
inductive Phase where
  | idle
  | called (wait : Wait)
  | locked (wait : Wait) (fd : Nat)
  | blocked (wait : Wait) (fd : Nat)
  | selected (wait : Wait) (fd : Nat)

/-- `_killEventFD` is `none` until the first call of `wait` has made the event. -/
structure Waiter where
  killEventFD : Option Nat
  counter : Nat
  phase : Phase

inductive Step where
  | kill
  | call (wait : Wait)
  | lock
  | block
  | select
  | finish

inductive Action where
  | killed (thrown : Option Exn)
  | waited (result : Except Exn (List Activity))

namespace Waiter

variable (waiter : Waiter)

def kill : Waiter × Option Exn :=
  match waiter.killEventFD with
  | none => (waiter, none)
  | some _ => ({ waiter with counter := waiter.counter + killSignal }, none)

/-- The section of `wait` that holds the lock. -/
def lock (wait : Wait) : Waiter :=
  match wait.killEvent waiter.killEventFD with
  | none => { waiter with phase := .idle }
  | some fd => { waiter with killEventFD := some fd, phase := .locked wait fd }

/-- What follows `select`.  A read takes the counter down to zero. -/
def finish (wait : Wait) (fd : Nat) : Waiter :=
  match wait.select (wait.watch fd) with
  | .ready theSet =>
      if fd ∈ theSet ∧ wait.killRead = 8 then { waiter with counter := 0, phase := .idle }
      else { waiter with phase := .idle }
  | _ => { waiter with phase := .idle }

def step : Step → Waiter
  | .kill => waiter.kill.1
  | .call wait => { waiter with phase := .called wait }
  | .lock =>
      match waiter.phase with
      | .called wait => waiter.lock wait
      | _ => waiter
  | .block =>
      match waiter.phase with
      | .locked wait fd => { waiter with phase := .blocked wait fd }
      | _ => waiter
  | .select =>
      match waiter.phase with
      | .locked wait fd => { waiter with phase := .selected wait fd }
      | .blocked wait fd => { waiter with phase := .selected wait fd }
      | _ => waiter
  | .finish =>
      match waiter.phase with
      | .selected wait fd => waiter.finish wait fd
      | _ => waiter

def emits : Step → List Action
  | .kill => [.killed waiter.kill.2]
  | .lock =>
      match waiter.phase with
      | .called wait =>
          match wait.killEvent waiter.killEventFD with
          | none => [.waited (wait.run waiter.killEventFD).2]
          | some _ => []
      | _ => []
  | .finish =>
      match waiter.phase with
      | .selected wait fd => [.waited (wait.run (some fd)).2]
      | _ => []
  | _ => []

end Waiter

def machine : Machine Waiter Step Action where
  initial := { killEventFD := none, counter := 0, phase := .idle }
  step := Waiter.step
  emits := Waiter.emits

/-- The outcome of a `select` that watches the event, for the counter at that time. -/
def Agrees (counter fd : Nat) : Selected → Prop
  | .failed => counter = 0
  | .timeout => counter = 0
  | .ready theSet => fd ∈ theSet ↔ 0 < counter

/-- The order of the steps of `wait`, and what the kernel promises.  A write that finds
no room comes after the read that makes some.  A `select` that has not blocked can also
fail for a bad descriptor. -/
def Allowed (_ : List Action) (waiter : Waiter) : Step → Prop
  | .kill => waiter.killEventFD = none ∨ waiter.counter + killSignal ≤ maxCounter
  | .call _ => waiter.phase = .idle
  | .lock => ∃ wait, waiter.phase = .called wait
  | .block => (∃ wait fd, waiter.phase = .locked wait fd) ∧ waiter.counter = 0
  | .select => ∃ wait fd,
      (waiter.phase = .locked wait fd ∧
        (wait.select (wait.watch fd) = .failed ∨
          Agrees waiter.counter fd (wait.select (wait.watch fd)))) ∨
      (waiter.phase = .blocked wait fd ∧
        Agrees waiter.counter fd (wait.select (wait.watch fd)))
  | .finish => ∃ wait fd, waiter.phase = .selected wait fd ∧
      (0 < waiter.counter → wait.killRead = 8)

/-- The call of `wait` that is under way returns and calls nothing: what ends its
`select` stays there until it is read, and then the call is over. -/
structure EndsQuietly (waiter : Waiter) (later : List Step) : Prop where
  due : ∀ first rest, later = first ++ rest → .finish ∉ first →
    0 < (machine.runFrom waiter first).counter
  quiet : ∀ first rest, later = first ++ .finish :: rest → .finish ∉ first →
    machine.emits (machine.runFrom waiter first) .finish = [.waited (.ok [])]

/-- What can follow is what could follow without the kill. -/
structure WithoutEffect (before : List Step) : Prop where
  allowed : ∀ later, machine.Meets Allowed (before ++ .kill :: later) ↔
    machine.Meets Allowed (before ++ later)
  trace : ∀ later, machine.traceFrom (machine.step (machine.run before) .kill) later =
    machine.traceFrom (machine.run before) later

/-- `kill` ends the call of `wait` that blocks, and throws where there is none. -/
structure KillsAsDocumented (steps : List Step) : Prop where
  blocked : ∀ before later, steps = before ++ .kill :: later →
    ∀ wait fd, (machine.run before).phase = .blocked wait fd →
      EndsQuietly (machine.step (machine.run before) .kill) later
  idle : ∀ before later, steps = before ++ .kill :: later →
    (machine.run before).phase = .idle →
      (∃ what, machine.emits (machine.run before) .kill =
        [.killed (some (.runtimeError what))]) ∧ WithoutEffect before

/-- No `kill` of the run comes between two calls of `wait` or before the first. -/
def KillsDuring (_ : List Action) (waiter : Waiter) (step : Step) : Prop :=
  step = .kill → waiter.phase ≠ .idle

def Phase.descriptor : Phase → Option Nat
  | .idle => none
  | .called _ => none
  | .locked _ fd => some fd
  | .blocked _ fd => some fd
  | .selected _ fd => some fd

/-- A call of `wait` that is past the lock uses the event that `kill` writes to. -/
def Current (waiter : Waiter) : Prop :=
  ∀ fd, waiter.phase.descriptor = some fd → waiter.killEventFD = some fd

namespace Waiter

variable {waiter : Waiter}

theorem kill_of_event {fd : Nat} (event : waiter.killEventFD = some fd) :
    waiter.kill = ({ waiter with counter := waiter.counter + killSignal }, none) := by
  simp only [kill, event]

theorem kill_of_none (unmade : waiter.killEventFD = none) : waiter.kill = (waiter, none) := by
  simp only [kill, unmade]

theorem emits_kill (waiter : Waiter) : machine.emits waiter .kill = [.killed none] := by
  change [Action.killed waiter.kill.2] = _
  cases event : waiter.killEventFD with
  | none => rw [kill_of_none event]
  | some fd => rw [kill_of_event event]

theorem finish_phase (waiter : Waiter) (wait : Wait) (fd : Nat) :
    (waiter.finish wait fd).phase = .idle := by
  unfold finish
  split
  · split
    · rfl
    · rfl
  · rfl

end Waiter

theorem Current.step {waiter : Waiter} (current : Current waiter) (step : Step) :
    Current (machine.step waiter step) := by
  obtain ⟨killEventFD, counter, phase⟩ := waiter
  cases step with
  | kill =>
      cases killEventFD with
      | none => exact current
      | some fd => exact current
  | call wait =>
      intro fd held
      cases held
  | lock =>
      cases phase with
      | called wait =>
          change Current (Waiter.lock _ wait)
          unfold Waiter.lock
          split
          · intro fd held
            cases held
          · intro fd held
            exact held
      | _ => exact current
  | block =>
      cases phase with
      | locked wait fd => exact current
      | _ => exact current
  | select =>
      cases phase with
      | locked wait fd => exact current
      | blocked wait fd => exact current
      | _ => exact current
  | finish =>
      cases phase with
      | selected wait fd =>
          intro other held
          change (Waiter.finish _ wait fd).phase.descriptor = some other at held
          rw [Waiter.finish_phase] at held
          cases held
      | _ => exact current

theorem current_run (steps : List Step) : Current (machine.run steps) := by
  refine @Machine.induction _ _ _ machine (fun _ waiter => Current waiter) ?_ ?_ steps
  · intro fd held
    cases held
  · intro _ waiter step current
    exact current.step step

/-- The call blocks with the event written to, or `select` has returned with it. -/
structure Woken (waiter : Waiter) : Prop where
  written : 0 < waiter.counter
  made : ∃ fd, waiter.killEventFD = some fd
  ending : ∃ wait fd, waiter.phase = .blocked wait fd ∨
    (waiter.phase = .selected wait fd ∧
      ∃ theSet, wait.select (wait.watch fd) = .ready theSet ∧ fd ∈ theSet)

namespace Woken

variable {waiter : Waiter} {trace : List Action}

theorem of_kill (current : Current waiter) {wait : Wait} {fd : Nat}
    (blocked : waiter.phase = .blocked wait fd) : Woken (machine.step waiter .kill) := by
  have event : waiter.killEventFD = some fd := by
    apply current
    rw [blocked]
    rfl
  change Woken waiter.kill.1
  rw [Waiter.kill_of_event event]
  exact ⟨by simp [killSignal], ⟨fd, event⟩, wait, fd, Or.inl blocked⟩

theorem step (woken : Woken waiter) {step : Step} (allowed : Allowed trace waiter step)
    (other : step ≠ .finish) : Woken (machine.step waiter step) := by
  obtain ⟨written, ⟨event, made⟩, wait, fd, ending⟩ := woken
  cases step with
  | kill =>
      change Woken waiter.kill.1
      rw [Waiter.kill_of_event made]
      exact ⟨Nat.add_pos_left written _, ⟨event, made⟩, wait, fd, ending⟩
  | call next =>
      have idle : waiter.phase = .idle := allowed
      simp [idle] at ending
  | lock =>
      obtain ⟨next, called⟩ := allowed
      simp [called] at ending
  | block =>
      obtain ⟨⟨next, descriptor, locked⟩, _⟩ := allowed
      simp [locked] at ending
  | select =>
      obtain ⟨next, descriptor, ⟨locked, _⟩ | ⟨blocked, agrees⟩⟩ := allowed
      · simp [locked] at ending
      · have selects : machine.step waiter .select =
            { waiter with phase := .selected next descriptor } := by
          simp only [machine, Waiter.step, blocked]
        rw [selects]
        refine ⟨written, ⟨event, made⟩, next, descriptor, Or.inr ⟨rfl, ?_⟩⟩
        cases selected : next.select (next.watch descriptor) with
        | failed =>
            rw [selected] at agrees
            exact absurd agrees (Nat.ne_of_gt written)
        | timeout =>
            rw [selected] at agrees
            exact absurd agrees (Nat.ne_of_gt written)
        | ready theSet =>
            rw [selected] at agrees
            exact ⟨theSet, rfl, agrees.mpr written⟩
  | finish => exact absurd rfl other

theorem finish (woken : Woken waiter) (allowed : Allowed trace waiter .finish) :
    machine.emits waiter .finish = [.waited (.ok [])] := by
  obtain ⟨written, _, wait, fd, ending⟩ := woken
  obtain ⟨next, descriptor, selected, read⟩ := allowed
  rcases ending with blocked | ⟨other, theSet, ready, inside⟩
  · simp [blocked] at selected
  · obtain ⟨rfl, rfl⟩ := Phase.selected.inj (other.symm.trans selected)
    simp only [machine, Waiter.emits, selected, Wait.run, Wait.killEvent, ready,
      Wait.dispatch, if_pos inside, read written]
    rfl

end Woken

theorem woken_run {before first : List Step} {wait : Wait} {fd : Nat}
    (blocked : (machine.run before).phase = .blocked wait fd)
    (allowed : machine.Meets Allowed (before ++ .kill :: first))
    (under : .finish ∉ first) : Woken (machine.run (before ++ .kill :: first)) := by
  induction first using List.reverseRecOn with
  | nil =>
      rw [Machine.run_concat]
      exact Woken.of_kill (current_run before) blocked
  | append_singleton first step ih =>
      rw [← List.cons_append, ← List.append_assoc] at allowed ⊢
      rw [Machine.run_concat]
      apply (ih allowed.of_concat fun inside => under (List.mem_append_left _ inside)).step
        allowed.last
      rintro rfl
      exact under (List.mem_append_right _ List.mem_cons_self)

theorem run_kill (before first : List Step) :
    machine.runFrom (machine.step (machine.run before) .kill) first =
      machine.run (before ++ .kill :: first) :=
  (machine.run_append before (.kill :: first)).symm

theorem endsQuietly {before later : List Step} {wait : Wait} {fd : Nat}
    (blocked : (machine.run before).phase = .blocked wait fd)
    (allowed : machine.Meets Allowed (before ++ .kill :: later)) :
    EndsQuietly (machine.step (machine.run before) .kill) later := by
  constructor
  · intro first rest split under
    rw [split, ← List.cons_append, ← List.append_assoc] at allowed
    rw [run_kill]
    exact (woken_run blocked allowed.of_append under).written
  · intro first rest split under
    rw [split, ← List.cons_append, ← List.append_assoc] at allowed
    rw [run_kill]
    exact (woken_run blocked allowed.of_append under).finish
      (allowed (before ++ .kill :: first) .finish rest rfl)

theorem not_documented {before later : List Step}
    (idle : (machine.run before).phase = .idle) :
    ¬ KillsAsDocumented (before ++ .kill :: later) := by
  intro documented
  obtain ⟨⟨what, throws⟩, _⟩ := documented.idle before later rfl idle
  rw [Waiter.emits_kill] at throws
  simp at throws

/-- The documentation is kept by the runs in which every `kill` finds a call of `wait`
under way. -/
theorem killsAsDocumented_iff {steps : List Step} (allowed : machine.Meets Allowed steps) :
    KillsAsDocumented steps ↔ machine.Meets KillsDuring steps := by
  constructor
  · rintro documented before step after rfl rfl idle
    exact not_documented idle documented
  · intro during
    constructor
    · intro before later split wait fd blocked
      rw [split] at allowed
      exact endsQuietly blocked allowed
    · intro before later split idle
      exact absurd idle (during before .kill later split rfl)

/-! One socket with the number 5, and the event with the number 4. -/

def polled (fd : Nat) : Wait where
  waiter := { sockets := {0} }
  order := [0]
  nodup := by decide
  enumerates := by simp
  heap _ := { fd := 5, isOpen := true }
  master := some 3
  eventfd := some 4
  select := Wait.selectOnly fd
  within := Wait.selectOnly_within fd
  killRead := 8
  stdinRead := .failed

def killedBlocked : List Step :=
  [.call (polled 4), .lock, .block, .kill, .select, .finish]

def servedOnce : List Step :=
  [.call (polled 5), .lock, .select, .finish]

def nextCall : List Step :=
  [.call (polled 4), .lock, .select, .finish]

theorem agrees_polled {counter : Nat} (written : 0 < counter) :
    Agrees counter 4 ((polled 4).select ((polled 4).watch 4)) := by
  change 4 ∈ ({4} : Finset Nat) ↔ 0 < counter
  simp [written]

theorem allowed_killedBlocked : machine.Meets Allowed killedBlocked := by
  have called : machine.Meets Allowed [.call (polled 4)] :=
    Machine.Meets.nil.concat rfl
  have locked : machine.Meets Allowed [.call (polled 4), .lock] :=
    called.concat ⟨_, rfl⟩
  have blocked : machine.Meets Allowed [.call (polled 4), .lock, .block] :=
    locked.concat ⟨⟨_, _, rfl⟩, rfl⟩
  have killed : machine.Meets Allowed [.call (polled 4), .lock, .block, .kill] :=
    blocked.concat (Or.inr (by decide))
  have selected : machine.Meets Allowed [.call (polled 4), .lock, .block, .kill, .select] :=
    killed.concat ⟨polled 4, 4, Or.inr ⟨rfl, agrees_polled (by decide)⟩⟩
  exact selected.concat ⟨polled 4, 4, rfl, fun _ => rfl⟩

theorem allowed_servedOnce : machine.Meets Allowed servedOnce := by
  have called : machine.Meets Allowed [.call (polled 5)] :=
    Machine.Meets.nil.concat rfl
  have locked : machine.Meets Allowed [.call (polled 5), .lock] :=
    called.concat ⟨_, rfl⟩
  have selected : machine.Meets Allowed [.call (polled 5), .lock, .select] := by
    refine locked.concat ⟨polled 5, 4, Or.inl ⟨rfl, Or.inr ?_⟩⟩
    change 4 ∈ ({5} : Finset Nat) ↔ 0 < 0
    decide
  exact selected.concat ⟨polled 5, 4, rfl, fun _ => rfl⟩

theorem allowed_nextCall : machine.Meets Allowed (servedOnce ++ .kill :: nextCall) := by
  have killed : machine.Meets Allowed (servedOnce ++ [.kill]) :=
    allowed_servedOnce.concat (Or.inr (by decide))
  have called : machine.Meets Allowed (servedOnce ++ [.kill, .call (polled 4)]) :=
    killed.concat rfl
  have locked : machine.Meets Allowed (servedOnce ++ [.kill, .call (polled 4), .lock]) :=
    called.concat ⟨_, rfl⟩
  have selected :
      machine.Meets Allowed (servedOnce ++ [.kill, .call (polled 4), .lock, .select]) :=
    locked.concat ⟨polled 4, 4, Or.inl ⟨rfl, Or.inr (agrees_polled (by decide))⟩⟩
  exact selected.concat ⟨polled 4, 4, rfl, fun _ => rfl⟩

theorem not_allowed_nextCall : ¬ machine.Meets Allowed (servedOnce ++ nextCall) := by
  intro allowed
  obtain ⟨wait, fd, ⟨locked, result⟩ | ⟨blocked, _⟩⟩ :=
    allowed (servedOnce ++ [.call (polled 4), .lock]) .select [.finish] rfl
  · obtain ⟨rfl, rfl⟩ : polled 4 = wait ∧ 4 = fd := Phase.locked.inj locked
    rcases result with failed | agrees
    · cases failed
    · exact absurd (agrees.mp (Finset.mem_singleton_self 4)) (by decide)
  · cases blocked

theorem killsAsDocumented_killedBlocked :
    KillsAsDocumented killedBlocked ↔ machine.Meets KillsDuring killedBlocked :=
  killsAsDocumented_iff allowed_killedBlocked

theorem kill_without_wait :
    (machine.Meets Allowed [.kill] ∧ machine.trace [.kill] = [.killed none] ∧
      ¬ KillsAsDocumented [.kill]) ∧
    machine.Meets Allowed (servedOnce ++ .kill :: nextCall) ∧
      machine.trace (servedOnce ++ .kill :: nextCall) =
        [.waited (.ok [.onSocket 0]), .killed none, .waited (.ok [])] ∧
      ¬ WithoutEffect servedOnce ∧
      ¬ KillsAsDocumented (servedOnce ++ .kill :: nextCall) := by
  refine ⟨⟨Machine.Meets.nil.concat (Or.inl rfl), rfl, @not_documented [] [] rfl⟩,
    allowed_nextCall, rfl, ?_, not_documented rfl⟩
  intro unaffected
  exact not_allowed_nextCall ((unaffected.allowed nextCall).mp allowed_nextCall)

end AndroidMessenger.Networking.Kill
