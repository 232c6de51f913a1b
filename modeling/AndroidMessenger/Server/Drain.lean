import Mathlib.Algebra.Order.BigOperators.Group.Finset
import AndroidMessenger.Server.Privacy
import AndroidMessenger.Server.Terminal

namespace AndroidMessenger.Server.Loop

open Library Msg Networking

variable {codecs : Codecs} {inherited : Finset Nat}

/-! What is there to do, and that the loop gets it done. -/

/-- The connections that can still be read: those behind open registered sockets, and
those that are not accepted yet. -/
def awaited (loop : Loop) : Finset Nat :=
  (loop.process.server.flexWaiter.sockets.filter fun ptr =>
    (loop.process.server.heap ptr).isOpen = true) ∪ loop.kernel.backlog.toFinset

/-- The rounds that it takes to read and to accept all that is there. -/
def pending (loop : Loop) : Nat :=
  loop.kernel.stdin.length + loop.kernel.backlog.length +
    ∑ connection ∈ loop.awaited, (loop.kernel.received connection).length

theorem pending_eq_zero_iff (loop : Loop) :
    loop.pending = 0 ↔ loop.kernel.stdin = [] ∧ loop.kernel.backlog = [] ∧
      ∀ ptr ∈ loop.process.server.flexWaiter.sockets,
        (loop.process.server.heap ptr).isOpen = true → loop.kernel.received ptr = [] := by
  rw [pending, Nat.add_eq_zero_iff, Nat.add_eq_zero_iff, List.length_eq_zero_iff,
    List.length_eq_zero_iff, Finset.sum_eq_zero_iff, and_assoc]
  constructor
  · intro given
    rcases given with ⟨stdin, backlog, received⟩
    refine ⟨stdin, backlog, ?_⟩
    intro ptr registered isOpen
    apply List.length_eq_zero_iff.mp
    apply received
    exact Finset.mem_union_left _ (Finset.mem_filter.mpr ⟨registered, isOpen⟩)
  · intro given
    rcases given with ⟨stdin, backlog, received⟩
    refine ⟨stdin, backlog, ?_⟩
    intro connection inside
    rw [awaited, backlog, List.toFinset_nil, Finset.union_empty, Finset.mem_filter] at inside
    exact List.length_eq_zero_iff.mpr (received connection inside.1 inside.2)

theorem pending_of_idle {loop : Loop} (idle : loop.Idle) : loop.pending = 0 := by
  refine (pending_eq_zero_iff loop).mpr ⟨?_, idle.backlog, idle.received⟩
  have quiet := idle.stdin
  rw [Kernel.readable, if_pos rfl, Bool.or_eq_false_iff] at quiet
  simpa using quiet.1

theorem sum_received_lt {received : Nat → List Recv} {before after : Finset Nat}
    (fewer : after ⊆ before) {connection : Nat} (inside : connection ∈ before)
    {recv : Recv} {rest : List Recv} (waiting : received connection = recv :: rest) :
    ∑ other ∈ after, (Function.update received connection rest other).length <
      ∑ other ∈ before, (received other).length := by
  apply Nat.lt_of_le_of_lt (Finset.sum_le_sum_of_subset fewer)
  apply Finset.sum_lt_sum
  · intro other _
    by_cases same : other = connection
    · rw [same, Function.update_self, waiting]
      exact Nat.le_succ _
    · rw [Function.update_of_ne same]
  · refine ⟨connection, inside, ?_⟩
    rw [Function.update_self, waiting]
    exact Nat.lt_succ_self _

theorem awaited_handle {loop : Loop} {event : Event} {kernel : Kernel}
    (hosted : Hosted inherited loop) (running : loop.process.running = true)
    (unaccepted : ∀ fd, event ≠ .socketServer (.connection fd))
    (goesOn : ((Server.machine codecs).step loop.process event).running = true)
    (backlog : kernel.backlog = loop.kernel.backlog) :
    (loop.handle codecs event kernel).awaited ⊆ loop.awaited := by
  have steady := steady_of_running running unaccepted goesOn
  rw [awaited, awaited, backlog_handle, backlog]
  apply Finset.union_subset_union_left
  intro ptr inside
  obtain ⟨registered, isOpen⟩ := Finset.mem_filter.mp inside
  have before := steady.registered ptr registered
  refine Finset.mem_filter.mpr ⟨before, ?_⟩
  cases closed : (loop.process.server.heap ptr).isOpen with
  | true => rfl
  | false =>
      have noExit : event ≠ .stdin "exit" := by
        rintro rfl
        exact absurd (goesOn.symm.trans (not_running_of_exit running)) (by simp)
      have still := @react_keeps_closed codecs _ _ closed
        (Nat.ne_of_lt (hosted.registered ptr before)) _ noExit
      change (((Server.machine codecs).step loop.process event).server.heap ptr).isOpen = true
        at isOpen
      rw [step_of_running running] at isOpen
      exact still.symm.trans isOpen

theorem awaited_accept {loop : Loop} (hosted : Hosted inherited loop)
    (running : loop.process.running = true) {fd connection : Nat} {rest : List Nat}
    (queued : loop.kernel.backlog = connection :: rest) {kernel : Kernel}
    (left : kernel.backlog = rest) :
    (loop.handle codecs (.socketServer (.connection fd)) kernel).awaited = loop.awaited := by
  obtain ⟨rfl, _, _⟩ := hosted.next_of_queued queued
  have server : (loop.handle codecs (.socketServer (.connection fd)) kernel).process.server =
      (loop.process.server.makeSocket fd).2.addSocketConnection
        loop.process.server.nextPtr := by
    change ((Server.machine codecs).step loop.process _).server = _
    rw [step_of_running running]
    rfl
  ext ptr
  rw [awaited, awaited, backlog_handle, left, queued, server]
  simp only [Finset.mem_union, Finset.mem_filter, List.mem_toFinset, List.mem_cons]
  change (ptr ∈ insert loop.process.server.nextPtr loop.process.server.flexWaiter.sockets ∧
    (Function.update loop.process.server.heap loop.process.server.nextPtr _ ptr).isOpen =
      true) ∨ ptr ∈ rest ↔ _
  rw [Finset.mem_insert]
  by_cases new : ptr = loop.process.server.nextPtr
  · subst new
    simp
  · rw [Function.update_of_ne new]
    simp [new]

theorem pending_awake (loop : Loop) : loop.awake.pending = loop.pending := by
  have stdin : loop.awake.kernel.stdin = loop.kernel.stdin := loop.stdin_withEvent
  have backlog : loop.awake.kernel.backlog = loop.kernel.backlog := loop.backlog_withEvent
  have received : loop.awake.kernel.received = loop.kernel.received :=
    loop.received_withEvent
  have awaited : loop.awake.awaited = loop.awaited := by
    rw [Loop.awaited, Loop.awaited, backlog]
    rfl
  rw [pending, pending, stdin, backlog, received, awaited]

theorem Turns.pending {loop after : Loop} (hosted : Hosted inherited loop)
    (running : loop.process.running = true) {turn : Turn} {events : List Event}
    (turns : Turns codecs loop turn after events) (goesOn : after.process.running = true)
    (unended : loop.kernel.ended = false) :
    after.kernel.ended = false ∧
      (after.pending + 1 ≤ loop.pending ∨ after.pending = 0) := by
  have ended : loop.awake.kernel.ended = false := loop.ended_withEvent.trans unended
  cases turns with
  | stops exn process unheld endpoint received =>
      rw [process, Process.running_iff] at goesOn
      cases goesOn.2
  | rests uninterrupted idle =>
      exact ⟨ended, Or.inr ((pending_awake loop).trans (pending_of_idle idle))⟩
  | @reads chunk line ready read input =>
      refine ⟨by rw [ended_handle]; exact ended, Or.inl ?_⟩
      have fewer := @awaited_handle codecs _ _ _
        { loop.withEvent with stdin := loop.kernel.stdin.drop 1 } hosted.awake running
        (by simp) goesOn rfl
      rw [← pending_awake loop, Loop.pending, Loop.pending, stdin_handle, backlog_handle,
        received_handle]
      have queue : loop.kernel.stdin.length ≠ 0 := by
        rw [Kernel.readable, if_pos rfl, unended] at ready
        simpa using ready
      have fewerReads : (loop.kernel.stdin.drop 1).length + 1 = loop.awake.kernel.stdin.length := by
        change _ = loop.withEvent.stdin.length
        rw [stdin_withEvent, List.length_drop]
        omega
      have sums := @Finset.sum_le_sum_of_subset _ _ _ _ _
        (fun connection => (loop.awake.kernel.received connection).length) _ _ fewer
      change (loop.kernel.stdin.drop 1).length + loop.awake.kernel.backlog.length +
        ∑ connection ∈ _, (loop.awake.kernel.received connection).length + 1 ≤ _
      omega
  | @accepts result kernel quiet accepted =>
      cases result with
      | error errno =>
          change ((Server.machine codecs).step loop.process _).running = true at goesOn
          rw [step_of_running running, Process.running_iff] at goesOn
          cases goesOn.2
      | ok fd =>
          obtain ⟨connection, rest, queued, _, _, rfl, rfl⟩ := Kernel.accept_eq_ok accepted
          refine ⟨by rw [ended_handle]; exact ended, Or.inl ?_⟩
          rw [← pending_awake loop, Loop.pending, Loop.pending, stdin_handle, backlog_handle,
            received_handle, outcome, awaited_accept hosted.awake running queued rfl]
          change loop.withEvent.stdin.length + rest.length +
              ∑ connection ∈ _, (loop.withEvent.received connection).length + 1 ≤
            loop.withEvent.stdin.length + loop.withEvent.backlog.length +
              ∑ connection ∈ _, (loop.withEvent.received connection).length
          rw [queued, List.length_cons]
          omega
  | @serves child recv rest quiet none registered isOpen waiting =>
      refine ⟨by rw [ended_handle]; exact ended, Or.inl ?_⟩
      have fewer := @awaited_handle codecs _ _ _
        { loop.withEvent with
          received := Function.update loop.kernel.received child rest } hosted.awake running
        (by simp) goesOn rfl
      have inside : child ∈ loop.awake.awaited :=
        Finset.mem_union_left _ (Finset.mem_filter.mpr ⟨registered, isOpen⟩)
      have sums := sum_received_lt fewer inside waiting
      rw [← pending_awake loop, Loop.pending, Loop.pending, stdin_handle, backlog_handle,
        received_handle]
      have same : loop.awake.kernel.received = loop.kernel.received := loop.received_withEvent
      rw [same]
      change loop.awake.kernel.stdin.length + loop.awake.kernel.backlog.length +
        ∑ connection ∈ _, (Function.update loop.kernel.received child rest connection).length +
          1 ≤ _
      omega

theorem Carried.pending (stdin : stdinFileno ∈ inherited) {loop : Loop}
    (carried : Carried inherited loop) {turn : Turn}
    (unended : loop.process.running = true → loop.kernel.ended = false)
    (goesOn : (loop.step codecs (.turn turn)).process.running = true) :
    loop.process.running = true ∧ (loop.step codecs (.turn turn)).kernel.ended = false ∧
      ((loop.step codecs (.turn turn)).pending + 1 ≤ loop.pending ∨
        (loop.step codecs (.turn turn)).pending = 0) := by
  cases running : loop.process.running with
  | false =>
      rw [step_of_stopped running, running] at goesOn
      cases goesOn
  | true =>
      obtain ⟨same, turns⟩ := @Carried.turns codecs _ stdin _ carried running turn
      obtain ⟨process, carries⟩ := carried
      rw [same] at goesOn ⊢
      exact ⟨rfl, turns.pending (carries.running running).2 running goesOn (unended running)⟩

theorem rounds_of_turns {events : List LoopEvent}
    (turns : ∀ event ∈ events, ∃ turn, event = .turn turn) :
    rounds events = events.length := by
  have same : events.map roundOf = List.replicate events.length 1 := by
    apply List.eq_replicate_iff.mpr
    refine ⟨List.length_map _, ?_⟩
    intro cost inside
    obtain ⟨event, member, rfl⟩ := List.mem_map.mp inside
    obtain ⟨turn, rfl⟩ := turns event member
    rfl
  rw [rounds, same, List.sum_replicate_nat, Nat.mul_one]

theorem pending_of_rounds (stdin : stdinFileno ∈ inherited) (limit : Limit) (bindError : Option Nat)
    (events later : List LoopEvent)
    (unended : ((machine codecs inherited limit bindError).run events).kernel.ended = false)
    (turns : ∀ event ∈ later, ∃ turn, event = .turn turn)
    (enough : ((machine codecs inherited limit bindError).run events).pending ≤
      later.length)
    (running : ((machine codecs inherited limit bindError).run
      (events ++ later)).process.running = true) :
    ((machine codecs inherited limit bindError).run (events ++ later)).pending = 0 := by
  by_contra some
  have lives : ((machine codecs inherited limit bindError).runFrom
      ((machine codecs inherited limit bindError).run events) later).process.running = true ∧
    ((machine codecs inherited limit bindError).runFrom
      ((machine codecs inherited limit bindError).run events) later).pending ≠ 0 := by
    rw [← Machine.run_append]
    exact ⟨running, some⟩
  have spent := (@Machine.rank_runFrom _ _ _ (machine codecs inherited limit bindError)
    (fun loop => Carried inherited loop ∧
      (loop.process.running = true → loop.kernel.ended = false))
    (fun loop => loop.process.running = true ∧ loop.pending ≠ 0) Loop.pending roundOf later
    ?_ ?_ _ ⟨carried_run stdin limit bindError events, fun _ => unended⟩ lives).2
  · change _ + rounds later ≤ _ at spent
    rw [rounds_of_turns turns] at spent
    have none := lives.2
    omega
  · intro loop event inside kept
    obtain ⟨turn, rfl⟩ := turns event inside
    exact ⟨kept.1.step stdin (.turn turn), fun goesOn =>
      (kept.1.pending stdin kept.2 goesOn).2.1⟩
  · intro loop event inside kept lives
    obtain ⟨turn, rfl⟩ := turns event inside
    obtain ⟨before, _, less | none⟩ := kept.1.pending stdin kept.2 lives.1
    · refine ⟨⟨before, ?_⟩, less⟩
      intro zero
      rw [zero] at less
      cases less
    · exact absurd none lives.2

theorem acceptedSockets_of_rounds (stdin : stdinFileno ∈ inherited) (limit : Limit)
    (bindError : Option Nat) (events later : List LoopEvent)
    (unended : ((machine codecs inherited limit bindError).run events).kernel.ended = false)
    (turns : ∀ event ∈ later, ∃ turn, event = .turn turn)
    (enough : ((machine codecs inherited limit bindError).run events).pending ≤
      later.length)
    (running : ((machine codecs inherited limit bindError).run
      (events ++ later)).process.running = true) :
    acceptedSockets ((machine codecs inherited limit bindError).trace (events ++ later)) =
      List.range ((machine codecs inherited limit bindError).run
        (events ++ later)).kernel.connections := by
  have none := pending_of_rounds stdin limit bindError events later unended turns enough
    running
  have backlog := ((pending_eq_zero_iff _).mp none).2.1
  have accepted := acceptedSockets_append_backlog stdin limit bindError (events ++ later)
    running
  rw [backlog, List.append_nil] at accepted
  exact accepted

/-- As many rounds as there are things to do end the loop or get all of them done: every
line is read, every connection is accepted, and everything that has been sent on a
connection that is still open is read. -/
theorem drains (stdin : stdinFileno ∈ inherited) (limit : Limit) (bindError : Option Nat)
    (events later : List LoopEvent)
    (unended : ((machine codecs inherited limit bindError).run events).kernel.ended = false)
    (turns : ∀ event ∈ later, ∃ turn, event = .turn turn)
    (enough : ((machine codecs inherited limit bindError).run events).pending ≤
      later.length)
    (running : ((machine codecs inherited limit bindError).run
      (events ++ later)).process.running = true) :
    ((machine codecs inherited limit bindError).run (events ++ later)).kernel.stdin = [] ∧
      acceptedSockets ((machine codecs inherited limit bindError).trace (events ++ later)) =
        List.range ((machine codecs inherited limit bindError).run
          (events ++ later)).kernel.connections ∧
      ∀ ptr ∈ ((machine codecs inherited limit bindError).run
          (events ++ later)).process.server.flexWaiter.sockets,
        (((machine codecs inherited limit bindError).run
          (events ++ later)).process.server.heap ptr).isOpen = true →
        readOn ptr (handled codecs inherited limit bindError (events ++ later)) =
          sent codecs inherited limit bindError ptr (events ++ later) := by
  have none := pending_of_rounds stdin limit bindError events later unended turns enough
    running
  obtain ⟨lines, _, received⟩ := (pending_eq_zero_iff _).mp none
  refine ⟨lines, acceptedSockets_of_rounds stdin limit bindError events later unended turns
    enough running, ?_⟩
  intro ptr registered isOpen
  have all := @readOn_append_received codecs _ stdin limit bindError (events ++ later) ptr
  rw [received ptr registered isOpen, List.append_nil] at all
  exact all

theorem drains_two :
    acceptedSockets ((machine Codecs.compact (Finset.range 3) 1024 none).trace
      [.arrival .connects, .arrival .connects, .turn .plain, .turn .plain]) =
        List.range 2 :=
  (@drains Codecs.compact (Finset.range 3) (by decide) 1024 none
    [.arrival .connects, .arrival .connects] [.turn .plain, .turn .plain] rfl (by simp)
    (by decide) rfl).2.1

end AndroidMessenger.Server.Loop
