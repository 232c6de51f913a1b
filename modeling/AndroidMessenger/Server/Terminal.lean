import AndroidMessenger.Library.Rank
import AndroidMessenger.Server.Intake

namespace AndroidMessenger.Server.Loop

open Library Msg Networking

variable {codecs : Codecs} {inherited : Finset Nat}

/-! The terminal comes first: the loop looks at nothing else while stdin can be read. -/

def Carried (inherited : Finset Nat) (loop : Loop) : Prop :=
  ∃ process, Carries inherited loop process

theorem Carried.step (stdin : stdinFileno ∈ inherited) {loop : Loop}
    (carried : Carried inherited loop) (event : LoopEvent) :
    Carried inherited (loop.step codecs event) := by
  obtain ⟨process, carries⟩ := carried
  exact ⟨_, (refines stdin 0 none).step event carries⟩

theorem carried_run (stdin : stdinFileno ∈ inherited) (limit : Limit)
    (bindError : Option Nat) (events : List LoopEvent) :
    Carried inherited ((machine codecs inherited limit bindError).run events) :=
  ⟨_, carries_run stdin limit bindError events⟩

theorem Carried.turns (stdin : stdinFileno ∈ inherited) {loop : Loop}
    (carried : Carried inherited loop) (running : loop.process.running = true)
    (turn : Turn) :
    loop.step codecs (.turn turn) = loop.turn codecs turn ∧
      Turns codecs loop turn (loop.turn codecs turn) (loop.behind (.turn turn)) := by
  obtain ⟨process, carries⟩ := carried
  have goesOn := (goesOn_of_unheld carries.unheld).trans running
  exact ⟨step_of_goesOn goesOn turn, Loop.turns stdin (carries.running running).2 goesOn⟩

def roundOf : LoopEvent → Nat
  | .arrival _ => 0
  | .turn _ => 1

def rounds (events : List LoopEvent) : Nat :=
  (events.map roundOf).sum

/-! An exit line. -/

def isExit : StdinRead → Bool
  | .failed => false
  | .data chunk => chunk.input.map Utf8.decode = some "exit"

def waitsForExit (loop : Loop) : Prop :=
  ∃ read ∈ loop.kernel.stdin, isExit read = true

theorem not_running_of_exit {process : Process} (running : process.running = true) :
    ((Server.machine codecs).step process (.stdin "exit")).running = false := by
  rw [step_of_running running]
  rfl

theorem readable_of_waitsForExit {loop : Loop} (waits : loop.waitsForExit) :
    loop.kernel.readable stdinFileno = true := by
  obtain ⟨read, inside, _⟩ := waits
  rw [Kernel.readable, if_pos rfl]
  cases queue : loop.kernel.stdin with
  | nil =>
      rw [queue] at inside
      exact absurd inside List.not_mem_nil
  | cons first rest => rfl

def beforeExit (loop : Loop) : Nat :=
  loop.kernel.stdin.findIdx isExit

theorem Turns.exit {loop after : Loop} {turn : Turn} {events : List Event}
    (turns : Turns codecs loop turn after events) (running : loop.process.running = true)
    (waits : loop.waitsForExit) (goesOn : after.process.running = true) :
    after.waitsForExit ∧ after.beforeExit + 1 = loop.beforeExit := by
  have readable := readable_of_waitsForExit waits
  cases turns with
  | stops exn process unheld endpoint received =>
      rw [process, Process.running_iff] at goesOn
      cases goesOn.2
  | rests uninterrupted idle => exact absurd (idle.stdin.symm.trans readable) (by simp)
  | accepts quiet accepted => exact absurd (quiet.symm.trans readable) (by simp)
  | serves quiet none registered isOpen waiting =>
      exact absurd (quiet.symm.trans readable) (by simp)
  | @reads chunk line ready read input =>
      obtain ⟨exit, inside, isExit⟩ := waits
      obtain ⟨first, rest, queue⟩ := List.exists_cons_of_ne_nil (List.ne_nil_of_mem inside)
      obtain rfl : first = .data chunk := by
        rw [Kernel.stdinRead, queue] at read
        exact read
      have left : (loop.awake.handle codecs (.stdin (Utf8.decode line))
          { loop.withEvent with stdin := loop.kernel.stdin.drop 1 }).kernel.stdin = rest := by
        rw [stdin_handle, queue]
        rfl
      have other : Loop.isExit (.data chunk) = false := by
        apply Bool.eq_false_iff.mpr
        intro same
        rw [Loop.isExit, input, Option.map_some, decide_eq_true_eq] at same
        change ((Server.machine codecs).step loop.process
          (.stdin (Utf8.decode line))).running = true at goesOn
        rw [Option.some.inj same, not_running_of_exit running] at goesOn
        cases goesOn
      rw [queue] at inside
      rcases List.mem_cons.mp inside with rfl | later
      · exact absurd (other.symm.trans isExit) Bool.false_ne_true
      · refine ⟨⟨exit, by rw [left]; exact later, isExit⟩, ?_⟩
        rw [beforeExit, beforeExit, left, queue, List.findIdx_cons, other]
        rfl

theorem waitsForExit_arrive {loop : Loop} (waits : loop.waitsForExit) (arrival : Arrival) :
    waitsForExit { loop with kernel := loop.kernel.arrive arrival } ∧
      beforeExit { loop with kernel := loop.kernel.arrive arrival } = loop.beforeExit := by
  have added : ∃ more, (loop.kernel.arrive arrival).stdin = loop.kernel.stdin ++ more := by
    cases arrival with
    | connects =>
        rw [Kernel.arrive]
        split
        · exact ⟨[], (List.append_nil _).symm⟩
        · exact ⟨[], (List.append_nil _).symm⟩
    | sends sender recv =>
        rw [Kernel.arrive]
        split
        · exact ⟨[], (List.append_nil _).symm⟩
        · exact ⟨[], (List.append_nil _).symm⟩
    | types read =>
        rw [Kernel.arrive]
        split
        · exact ⟨[], (List.append_nil _).symm⟩
        · exact ⟨[read], rfl⟩
    | endsStdin => exact ⟨[], (List.append_nil _).symm⟩
  obtain ⟨more, same⟩ := added
  obtain ⟨exit, inside, isExit⟩ := waits
  constructor
  · refine ⟨exit, ?_, isExit⟩
    rw [same]
    exact List.mem_append_left more inside
  · rw [beforeExit, same, List.findIdx_append, if_pos]
    · rfl
    · exact List.findIdx_lt_length_of_exists ⟨exit, inside, isExit⟩

theorem Carried.exit (stdin : stdinFileno ∈ inherited) {loop : Loop}
    (carried : Carried inherited loop) {event : LoopEvent}
    (goesOn : (loop.step codecs event).process.running = true)
    (waits : loop.process.running = true → loop.waitsForExit) :
    (loop.step codecs event).waitsForExit ∧ loop.process.running = true ∧
      (loop.step codecs event).beforeExit + roundOf event = loop.beforeExit := by
  cases event with
  | arrival arrival =>
      obtain ⟨still, same⟩ := waitsForExit_arrive (waits goesOn) arrival
      exact ⟨still, goesOn, same⟩
  | turn turn =>
      cases running : loop.process.running with
      | false =>
          rw [step_of_stopped running, running] at goesOn
          cases goesOn
      | true =>
          obtain ⟨same, turns⟩ := @Carried.turns codecs _ stdin _ carried running turn
          rw [same] at goesOn ⊢
          obtain ⟨still, nearer⟩ := turns.exit running (waits running) goesOn
          exact ⟨still, rfl, nearer⟩

/-- Behind an exit line that has been typed there are no more rounds than there are reads
before it, and its own, whatever the clients do. -/
theorem stops_at_exit (stdin : stdinFileno ∈ inherited) (limit : Limit)
    (bindError : Option Nat) (events later : List LoopEvent)
    (typed : ((machine codecs inherited limit bindError).run events).waitsForExit)
    (more : ((machine codecs inherited limit bindError).run events).beforeExit <
      rounds later) :
    ((machine codecs inherited limit bindError).run (events ++ later)).process.running =
      false := by
  have spent := @Machine.not_live_of_rank_lt _ _ _ (machine codecs inherited limit bindError)
    (fun loop => Carried inherited loop ∧
      (loop.process.running = true → loop.waitsForExit))
    (fun loop => loop.process.running = true) beforeExit roundOf later ?_ ?_
    ((machine codecs inherited limit bindError).run events)
    ⟨carried_run stdin limit bindError events, fun _ => typed⟩ more
  · rw [Machine.run_append]
    exact Bool.eq_false_iff.mpr spent
  · intro loop event _ kept
    refine ⟨kept.1.step stdin event, ?_⟩
    intro goesOn
    exact (kept.1.exit stdin goesOn kept.2).1
  · intro loop event _ kept goesOn
    obtain ⟨_, running, nearer⟩ := kept.1.exit stdin goesOn kept.2
    exact ⟨running, Nat.le_of_eq nearer⟩

def exitChunk : StdinChunk where
  bytes := Utf8.encode "exit" ++ [10]
  bounded := by decide
  beyond := []

theorem stops_at_exitChunk :
    ((machine Codecs.compact (Finset.range 3) 1024 none).run
      [.arrival (.types (.data exitChunk)), .arrival .connects,
        .turn .plain]).process.running = false :=
  @stops_at_exit Codecs.compact (Finset.range 3) (by decide) 1024 none
    [.arrival (.types (.data exitChunk))] [.arrival .connects, .turn .plain]
    ⟨.data exitChunk, List.mem_singleton.mpr rfl, by decide +kernel⟩ (by decide +kernel)

/-! The end of stdin, which can be read for ever. -/

def AtEnd (loop : Loop) : Prop :=
  loop.kernel.ended = true ∧ loop.kernel.stdin = []

theorem input_atEnd : StdinChunk.atEnd.input = some [] := by
  decide +kernel

theorem decode_nil : Utf8.decode [] = "" := by
  decide

theorem AtEnd.readable {loop : Loop} (atEnd : loop.AtEnd) :
    loop.kernel.readable stdinFileno = true := by
  rw [Kernel.readable, if_pos rfl, atEnd.1, Bool.or_true]

theorem AtEnd.arrive {loop : Loop} (atEnd : loop.AtEnd) (arrival : Arrival) :
    AtEnd { loop with kernel := loop.kernel.arrive arrival } := by
  unfold AtEnd at *
  cases arrival with
  | connects =>
      simp only [Kernel.arrive]
      split
      · exact atEnd
      · exact atEnd
  | sends sender recv =>
      simp only [Kernel.arrive]
      split
      · exact atEnd
      · exact atEnd
  | types read =>
      rw [Kernel.arrive, if_pos atEnd.1]
      exact atEnd
  | endsStdin => exact ⟨rfl, atEnd.2⟩

theorem blank_ignored (process : Process) :
    (Server.machine codecs).step process (.stdin "") = process ∧
      (Server.machine codecs).emits process (.stdin "") = [] := by
  cases running : process.running with
  | false => exact ⟨Server.step_of_stopped running _, emits_of_stopped running _⟩
  | true =>
      have untouched := ((Process.running_iff _).mp running).2
      rw [step_of_running running, emits_of_running running]
      obtain ⟨server, thrown⟩ := process
      cases untouched
      exact ⟨rfl, rfl⟩

theorem traceFrom_blanks (process : Process) (count : Nat) :
    (Server.machine codecs).traceFrom process (List.replicate count (.stdin "")) = [] := by
  apply And.right
  apply Machine.runFrom_of_ignored
  intro event inside
  rw [List.eq_of_mem_replicate inside]
  exact blank_ignored process

theorem Turns.atEnd {loop after : Loop} {turn : Turn} {events : List Event}
    (turns : Turns codecs loop turn after events) (atEnd : loop.AtEnd) :
    after.process.server = loop.process.server ∧
      (events = [] ∧ after.process.running = false ∨
        events = [.stdin ""] ∧ after.process = loop.process ∧ after.AtEnd) := by
  have readable := atEnd.readable
  cases turns with
  | stops exn process unheld endpoint received =>
      rw [process]
      exact ⟨rfl, Or.inl ⟨rfl, Bool.and_false _⟩⟩
  | rests uninterrupted idle => exact absurd (idle.stdin.symm.trans readable) (by simp)
  | accepts quiet accepted => exact absurd (quiet.symm.trans readable) (by simp)
  | serves quiet none registered isOpen waiting =>
      exact absurd (quiet.symm.trans readable) (by simp)
  | @reads chunk line ready read input =>
      obtain rfl : StdinChunk.atEnd = chunk := by
        rw [Kernel.stdinRead, atEnd.2] at read
        exact StdinRead.data.inj read
      obtain rfl : [] = line := Option.some.inj (input_atEnd.symm.trans input)
      rw [decode_nil]
      have process : (loop.awake.handle codecs (.stdin "")
          { loop.withEvent with stdin := loop.kernel.stdin.drop 1 }).process =
            loop.process := (blank_ignored _).1
      refine ⟨by rw [process], Or.inr ⟨rfl, process, ?_⟩⟩
      rw [AtEnd, ended_handle, stdin_handle, atEnd.2]
      exact ⟨loop.ended_withEvent.trans atEnd.1, rfl⟩

theorem atEnd_step (stdin : stdinFileno ∈ inherited) {loop : Loop}
    (carried : Carried inherited loop) (event : LoopEvent)
    (atEnd : loop.process.running = true → loop.AtEnd) :
    (loop.step codecs event).process.server = loop.process.server ∧
      ((loop.step codecs event).process.running = true →
        (loop.step codecs event).AtEnd) ∧
      ∃ count ≤ roundOf event, loop.behind event = List.replicate count (.stdin "") ∧
        ((loop.step codecs event).process.running = true →
          loop.process.running = true ∧ count = roundOf event) := by
  cases event with
  | arrival arrival =>
      exact ⟨rfl, fun goesOn => (atEnd goesOn).arrive arrival, 0, Nat.le_refl 0, rfl,
        fun goesOn => ⟨goesOn, rfl⟩⟩
  | turn turn =>
      cases running : loop.process.running with
      | false =>
          rw [step_of_stopped running, behind_of_stopped running, running]
          refine ⟨rfl, ?_, 0, Nat.zero_le _, rfl, ?_⟩
          · intro goesOn
            cases goesOn
          · intro goesOn
            cases goesOn
      | true =>
          obtain ⟨same, turns⟩ := @Carried.turns codecs _ stdin _ carried running turn
          obtain ⟨server, ⟨none, stopped⟩ | ⟨blank, process, still⟩⟩ :=
            turns.atEnd (atEnd running)
          · rw [same, none, stopped]
            refine ⟨server, ?_, 0, Nat.zero_le _, rfl, ?_⟩
            · intro goesOn
              cases goesOn
            · intro goesOn
              cases goesOn
          · rw [same, blank]
            exact ⟨server, fun _ => still, 1, Nat.le_refl 1, rfl, fun _ => ⟨rfl, rfl⟩⟩

/-- From the end of stdin on the server accepts nobody, reads nothing and writes nothing,
whatever arrives.  Every round of the loop hands on an empty line. -/
theorem starves_at_end (stdin : stdinFileno ∈ inherited) (limit : Limit)
    (bindError : Option Nat) (events later : List LoopEvent)
    (atEnd : ((machine codecs inherited limit bindError).run events).AtEnd) :
    ((machine codecs inherited limit bindError).run (events ++ later)).process.server =
        ((machine codecs inherited limit bindError).run events).process.server ∧
      (machine codecs inherited limit bindError).trace (events ++ later) =
        (machine codecs inherited limit bindError).trace events ∧
      ∃ count ≤ rounds later,
        handled codecs inherited limit bindError (events ++ later) =
          handled codecs inherited limit bindError events ++
            List.replicate count (.stdin "") ∧
        (((machine codecs inherited limit bindError).run (events ++ later)).process.running =
          true → count = rounds later) := by
  suffices held : (((machine codecs inherited limit bindError).run
      (events ++ later)).process.running = true →
        ((machine codecs inherited limit bindError).run (events ++ later)).AtEnd) ∧ _ from
    held.2
  induction later using List.reverseRecOn with
  | nil =>
      rw [List.append_nil]
      exact ⟨fun _ => atEnd, rfl, rfl, 0, Nat.le_refl 0, (List.append_nil _).symm,
        fun _ => rfl⟩
  | append_singleton later event ih =>
      obtain ⟨stays, server, trace, count, most, blanks, all⟩ := ih
      obtain ⟨same, still, one, little, blank, each⟩ := @atEnd_step codecs _ stdin _
        (carried_run stdin limit bindError (events ++ later)) event stays
      have total : rounds (later ++ [event]) = rounds later + roundOf event := by
        simp [rounds]
      rw [← List.append_assoc, Machine.run_concat, Machine.trace_concat, handled,
        Machine.observing_concat, ← handled, blanks, blank, total]
      refine ⟨still, same.trans server, ?_, count + one, Nat.add_le_add most little, ?_, ?_⟩
      · rw [trace]
        change _ ++ (Server.machine codecs).traceFrom _ (behind _ event) = _
        rw [blank, traceFrom_blanks, List.append_nil]
      · rw [List.append_assoc, List.replicate_append_replicate]
      · intro goesOn
        obtain ⟨running, whole⟩ := each goesOn
        rw [all running, whole]

theorem starves_before_connection :
    (machine Codecs.compact (Finset.range 3) 1024 none).trace
      [.arrival .endsStdin, .arrival .connects, .turn .plain] = [] :=
  (@starves_at_end Codecs.compact (Finset.range 3) (by decide) 1024 none
    [.arrival .endsStdin] [.arrival .connects, .turn .plain] ⟨rfl, rfl⟩).2.1

end AndroidMessenger.Server.Loop
