import AndroidMessenger.Server.Drain

namespace AndroidMessenger.Server.Loop

open Library Msg Networking

variable {codecs : Codecs} {inherited : Finset Nat}

/-! A running server gives no descriptor back, and there are only so many. -/

/-- All that the process has opened lies below its limit. -/
def Fits (inherited : Finset Nat) (loop : Loop) : Prop :=
  ∀ earlier < loop.opened, handedOut inherited earlier < loop.kernel.limit

section Limit

variable (loop : Loop) (event : Event) (kernel : Kernel)

@[simp] theorem limit_withEvent : loop.withEvent.limit = loop.kernel.limit := by
  rcases loop.withEvent_cases with same | ⟨_, _, same⟩
  · rw [same]
  · rw [same]

@[simp] theorem connections_withEvent :
    loop.withEvent.connections = loop.kernel.connections := by
  rcases loop.withEvent_cases with same | ⟨_, _, same⟩
  · rw [same]
  · rw [same]

@[simp] theorem limit_handle :
    (loop.handle codecs event kernel).kernel.limit = kernel.limit := by
  rw [handle, release_eq]

@[simp] theorem limit_arrive (arrival : Arrival) :
    (kernel.arrive arrival).limit = kernel.limit := by
  cases arrival with
  | connects =>
      rw [Kernel.arrive]
      split
      · rfl
      · rfl
  | sends connection recv =>
      rw [Kernel.arrive]
      split
      · rfl
      · rfl
  | types read =>
      rw [Kernel.arrive]
      split
      · rfl
      · rfl
  | endsStdin => rfl

end Limit

theorem Fits.succ {loop : Loop} (fits : Fits inherited loop)
    (hosted : Hosted inherited loop) (room : lowest loop.kernel.held < loop.kernel.limit) :
    ∀ earlier < loop.opened + 1, handedOut inherited earlier < loop.kernel.limit := by
  intro earlier below
  rcases Nat.lt_succ_iff_lt_or_eq.mp below with before | rfl
  · exact fits earlier before
  · rw [← hosted.lowest_held]
    exact room

theorem Fits.awake {loop : Loop} (fits : Fits inherited loop)
    (hosted : Hosted inherited loop) : Fits inherited loop.awake := by
  rcases loop.awake_cases with same | ⟨unmade, room, same⟩
  · rw [same]
    exact fits
  · have one : loop.opened = 1 := by
      rw [opened, unmade]
    have more := fits.succ hosted room
    rw [one] at more
    have none := hosted.nextPtr_of_unmade unmade
    rw [same]
    intro earlier below
    simp only [opened, none] at below
    exact more earlier below

theorem Fits.handle {loop : Loop} (fits : Fits inherited loop)
    (running : loop.process.running = true) {event : Event} {kernel : Kernel}
    (unaccepted : ∀ fd, event ≠ .socketServer (.connection fd))
    (goesOn : ((Server.machine codecs).step loop.process event).running = true)
    (limit : kernel.limit = loop.kernel.limit) :
    Fits inherited (loop.handle codecs event kernel) := by
  rw [Fits, opened_handle running unaccepted goesOn, limit_handle, limit]
  exact fits

theorem Fits.turn {loop after : Loop} (fits : Fits inherited loop)
    (hosted : Hosted inherited loop) (running : loop.process.running = true) {turn : Turn}
    {events : List Event} (turns : Turns codecs loop turn after events)
    (goesOn : after.process.running = true) : Fits inherited after := by
  have awake := fits.awake hosted
  cases turns with
  | stops exn process unheld endpoint received =>
      rw [process, Process.running_iff] at goesOn
      cases goesOn.2
  | rests uninterrupted idle => exact awake
  | reads ready read input => exact awake.handle running (by simp) goesOn rfl
  | @accepts result kernel quiet accepted =>
      cases result with
      | error errno =>
          change ((Server.machine codecs).step loop.process _).running = true at goesOn
          rw [step_of_running running, Process.running_iff] at goesOn
          cases goesOn.2
      | ok fd =>
          obtain ⟨connection, rest, queued, _, room, rfl, rfl⟩ := Kernel.accept_eq_ok accepted
          obtain ⟨event, made⟩ := made_of_room loop room
          have more := awake.succ hosted.awake room
          rw [Fits, outcome, opened_accept made running, limit_handle]
          exact more
  | serves quiet none registered isOpen waiting =>
      exact awake.handle running (by simp) goesOn rfl

theorem Turns.constants {loop after : Loop} {turn : Turn} {events : List Event}
    (turns : Turns codecs loop turn after events) (goesOn : after.process.running = true) :
    after.kernel.connections = loop.kernel.connections ∧
      after.kernel.limit = loop.kernel.limit := by
  cases turns with
  | stops exn process unheld endpoint received =>
      rw [process, Process.running_iff] at goesOn
      cases goesOn.2
  | rests uninterrupted idle => exact ⟨loop.connections_withEvent, loop.limit_withEvent⟩
  | reads ready read input =>
      rw [connections_handle, limit_handle]
      exact ⟨loop.connections_withEvent, loop.limit_withEvent⟩
  | accepts quiet accepted =>
      obtain ⟨_, connections, limit⟩ := Kernel.frame_accept accepted
      rw [connections_handle, limit_handle, connections, limit]
      exact ⟨loop.connections_withEvent, loop.limit_withEvent⟩
  | serves quiet none registered isOpen waiting =>
      rw [connections_handle, limit_handle]
      exact ⟨loop.connections_withEvent, loop.limit_withEvent⟩

theorem Fits.start {limit : Limit} {bindError : Option Nat}
    (running : (Loop.start inherited limit bindError).process.running = true) :
    Fits inherited (Loop.start inherited limit bindError) := by
  have hosted := Hosted.start running
  unfold Loop.start Kernel.socketServer at running hosted ⊢
  rcases (fresh inherited limit).openNext_cases with ⟨none, _⟩ | ⟨room, opens⟩
  · rw [none] at running
    cases running
  · cases bindError with
    | some errno =>
        rw [opens] at running
        cases running
    | none =>
        rw [opens] at hosted ⊢
        intro earlier below
        obtain rfl : earlier = 0 := Nat.lt_one_iff.mp below
        rw [← hosted.master]
        exact room

theorem fits_run (stdin : stdinFileno ∈ inherited) (limit : Limit) (bindError : Option Nat)
    (events : List LoopEvent)
    (running : ((machine codecs inherited limit bindError).run events).process.running =
      true) :
    Fits inherited ((machine codecs inherited limit bindError).run events) ∧
      ((machine codecs inherited limit bindError).run events).kernel.limit = limit := by
  induction events using List.reverseRecOn with
  | nil =>
      refine ⟨Fits.start running, ?_⟩
      change (Loop.start inherited limit bindError).kernel.limit = limit
      rw [start_kernel]
      rfl
  | append_singleton events event ih =>
      have carried := @carried_run codecs _ stdin limit bindError events
      rw [Machine.run_concat] at running ⊢
      generalize (machine codecs inherited limit bindError).run events = loop at *
      change Fits inherited (loop.step codecs event) ∧ _
      cases event with
      | arrival arrival =>
          obtain ⟨fits, same⟩ := ih running
          refine ⟨?_, (limit_arrive _ arrival).trans same⟩
          intro earlier below
          change _ < ((loop.kernel.arrive arrival).limit).val
          rw [limit_arrive]
          exact fits earlier below
      | turn turn =>
          cases before : loop.process.running with
          | false =>
              change (loop.step codecs (.turn turn)).process.running = true at running
              rw [step_of_stopped before, before] at running
              cases running
          | true =>
              obtain ⟨fits, same⟩ := ih before
              obtain ⟨step, turns⟩ := @Carried.turns codecs _ stdin _ carried before turn
              obtain ⟨process, carries⟩ := carried
              change (loop.step codecs (.turn turn)).process.running = true at running
              rw [step] at running
              change _ ∧ (loop.step codecs (.turn turn)).kernel.limit = limit
              rw [step, (turns.constants running).2]
              exact ⟨fits.turn (carries.running before).2 before turns running, same⟩

theorem connections_of_turns (stdin : stdinFileno ∈ inherited) (limit : Limit)
    (bindError : Option Nat) (events later : List LoopEvent)
    (turns : ∀ event ∈ later, ∃ turn, event = .turn turn)
    (running : ((machine codecs inherited limit bindError).run
      (events ++ later)).process.running = true) :
    ((machine codecs inherited limit bindError).run (events ++ later)).kernel.connections =
      ((machine codecs inherited limit bindError).run events).kernel.connections := by
  induction later using List.reverseRecOn with
  | nil => rw [List.append_nil]
  | append_singleton later event ih =>
      obtain ⟨turn, rfl⟩ := turns event (by simp)
      have others : ∀ event ∈ later, ∃ turn, event = .turn turn := by
        intro other inside
        exact turns other (List.mem_append_left _ inside)
      have carried := @carried_run codecs _ stdin limit bindError (events ++ later)
      rw [← List.append_assoc, Machine.run_concat] at running ⊢
      generalize (machine codecs inherited limit bindError).run (events ++ later) = loop at *
      change (loop.step codecs (.turn turn)).process.running = true at running
      change (loop.step codecs (.turn turn)).kernel.connections = _
      cases before : loop.process.running with
      | false =>
          rw [step_of_stopped before, before] at running
          cases running
      | true =>
          obtain ⟨step, turns⟩ := @Carried.turns codecs _ stdin _ carried before turn
          rw [step] at running ⊢
          rw [(turns.constants running).1]
          exact ih others before

theorem nextPtr_le_limit (stdin : stdinFileno ∈ inherited) (limit : Limit)
    (bindError : Option Nat) (events : List LoopEvent)
    (running : ((machine codecs inherited limit bindError).run events).process.running =
      true)
    (some : ((machine codecs inherited limit bindError).run events).process.server.nextPtr ≠
      0) :
    (inherited.filter (· < limit.val)).card + 2 +
      ((machine codecs inherited limit bindError).run events).process.server.nextPtr ≤
        limit := by
  have hosted := ((@carries_run codecs _ stdin limit bindError events).running running).2
  obtain ⟨fits, limited⟩ := fits_run stdin limit bindError events running
  generalize (machine codecs inherited limit bindError).run events = loop at *
  have opened : loop.opened = loop.process.server.nextPtr + 2 := by
    cases made : loop.killEventFD with
    | none => exact absurd (hosted.nextPtr_of_unmade made) some
    | some fd => rw [Loop.opened, made]
  have last := fits (loop.process.server.nextPtr + 1) (by rw [opened]; exact Nat.lt_succ_self _)
  rw [limited, handedOut_lt_iff] at last
  omega

/-- A running server has accepted no more connections than it has descriptors for, those
that have ended included. -/
theorem accepted_le_limit (stdin : stdinFileno ∈ inherited) (limit : Limit)
    (bindError : Option Nat) (events : List LoopEvent)
    (running : ((machine codecs inherited limit bindError).run events).process.running =
      true)
    (some : acceptedSockets ((machine codecs inherited limit bindError).trace events) ≠ []) :
    (inherited.filter (· < limit.val)).card + 2 +
      (acceptedSockets ((machine codecs inherited limit bindError).trace events)).length ≤
        limit := by
  rw [acceptedSockets_eq_range stdin limit bindError events running] at some ⊢
  rw [List.length_range]
  apply nextPtr_le_limit stdin limit bindError events running
  intro none
  rw [none] at some
  exact some rfl

theorem accepted_le_limit_twoConnect :
    (acceptedSockets ((machine Codecs.compact (Finset.range 3) 1024 none).trace
      twoConnect)).length ≤ 1019 :=
  Nat.le_of_add_le_add_left (@accepted_le_limit Codecs.compact (Finset.range 3) (by decide)
    1024 none twoConnect rfl (by decide))

/-- When more clients have connected since the start than there are descriptors for, the
server ends, also if all of them but the last have left. -/
theorem stops_when_full (stdin : stdinFileno ∈ inherited) (limit : Limit)
    (bindError : Option Nat) (events later : List LoopEvent)
    (unended : ((machine codecs inherited limit bindError).run events).kernel.ended = false)
    (turns : ∀ event ∈ later, ∃ turn, event = .turn turn)
    (enough : ((machine codecs inherited limit bindError).run events).pending ≤
      later.length)
    (some : 0 < ((machine codecs inherited limit bindError).run events).kernel.connections)
    (crowd : limit.val < (inherited.filter (· < limit.val)).card + 2 +
      ((machine codecs inherited limit bindError).run events).kernel.connections) :
    ((machine codecs inherited limit bindError).run (events ++ later)).process.running =
      false := by
  apply Bool.eq_false_iff.mpr
  intro running
  have accepted := acceptedSockets_of_rounds stdin limit bindError events later unended turns
    enough running
  rw [connections_of_turns stdin limit bindError events later turns running,
    acceptedSockets_eq_range stdin limit bindError _ running] at accepted
  have all := congrArg List.length accepted
  rw [List.length_range, List.length_range] at all
  have bound := nextPtr_le_limit stdin limit bindError (events ++ later) running
    (all ▸ Nat.ne_of_gt some)
  omega

theorem second_client_ends_server :
    ((machine Codecs.compact (Finset.range 3) 6 none).run
      [.arrival .connects, .arrival .connects, .turn .plain,
        .turn .plain]).process.running = false :=
  @stops_when_full Codecs.compact (Finset.range 3) (by decide) 6 none
    [.arrival .connects, .arrival .connects] [.turn .plain, .turn .plain] rfl (by simp)
    (by decide) (by decide) (by decide)

end AndroidMessenger.Server.Loop
