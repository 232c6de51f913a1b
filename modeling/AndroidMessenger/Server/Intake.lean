import AndroidMessenger.Server.Hosting

namespace AndroidMessenger.Server.Loop

open Library Msg Networking

variable {codecs : Codecs} {inherited : Finset Nat}

/-! What the clients send, against what the handlers read. -/

def sentOn (connection : Nat) (loop : Loop) : LoopEvent → List Recv
  | .arrival (.sends sender recv) =>
      if sender = connection ∧ sender < loop.kernel.connections then [recv] else []
  | _ => []

def sent (codecs : Codecs) (inherited : Finset Nat) (limit : Limit) (bindError : Option Nat)
    (connection : Nat) (events : List LoopEvent) : List Recv :=
  ((machine codecs inherited limit bindError).observing (sentOn connection)).trace events

/-- What the handlers have read on the socket. -/
def readOn (ptr : SocketPtr) (events : List Event) : List Recv :=
  events.filterMap fun
    | .socket other recv _ _ => if other = ptr then some recv else none
    | _ => none

@[simp] theorem readOn_append (ptr : SocketPtr) (first second : List Event) :
    readOn ptr (first ++ second) = readOn ptr first ++ readOn ptr second :=
  List.filterMap_append

theorem release_eq (server : Server) (actions : List Action) (kernel : Kernel) :
    release server actions kernel =
      { kernel with held := (release server actions kernel).held } := by
  unfold release
  induction actions generalizing kernel with
  | nil => rfl
  | cons action actions ih =>
      rw [List.foldl_cons, ih]
      cases action with
      | closed ptr => rfl
      | accepted ptr => rfl
      | answered ptr json res => rfl
      | wrote ptr text outcome => rfl
      | removed ptr => rfl

section Handle

variable (loop : Loop) (event : Event) (kernel : Kernel)

@[simp] theorem received_handle :
    (loop.handle codecs event kernel).kernel.received = kernel.received := by
  rw [handle, release_eq]

@[simp] theorem backlog_handle :
    (loop.handle codecs event kernel).kernel.backlog = kernel.backlog := by
  rw [handle, release_eq]

@[simp] theorem connections_handle :
    (loop.handle codecs event kernel).kernel.connections = kernel.connections := by
  rw [handle, release_eq]

@[simp] theorem stdin_handle :
    (loop.handle codecs event kernel).kernel.stdin = kernel.stdin := by
  rw [handle, release_eq]

@[simp] theorem ended_handle :
    (loop.handle codecs event kernel).kernel.ended = kernel.ended := by
  rw [handle, release_eq]

end Handle

theorem Turns.received {loop after : Loop} {turn : Turn} {events : List Event}
    (turns : Turns codecs loop turn after events) (connection : Nat) :
    readOn connection events ++ after.kernel.received connection =
      loop.kernel.received connection := by
  cases turns with
  | stops exn process unheld endpoint received =>
      rw [received]
      rfl
  | rests uninterrupted idle =>
      change loop.withEvent.received connection = _
      rw [received_withEvent]
  | reads ready read input =>
      rw [received_handle]
      change loop.withEvent.received connection = _
      rw [received_withEvent]
  | accepts quiet accepted =>
      rw [received_handle, (Kernel.frame_accept accepted).1, received_withEvent]
      rfl
  | @serves child recv rest quiet none registered isOpen waiting =>
      rw [received_handle]
      by_cases same : child = connection
      · subst same
        simp [readOn, waiting]
      · simp [readOn, same, Ne.symm same]

theorem nextPtr_step (process : Process) {event : Event}
    (unaccepted : ∀ fd, event ≠ .socketServer (.connection fd)) :
    ((Server.machine codecs).step process event).server.nextPtr = process.server.nextPtr := by
  cases running : process.running with
  | false => rw [Server.step_of_stopped running]
  | true =>
      rw [step_of_running running]
      exact nextPtr_react process.server unaccepted

theorem Turns.nextPtr {loop after : Loop} {turn : Turn} {events : List Event}
    (turns : Turns codecs loop turn after events)
    (unaccepted : ∀ fd, .socketServer (.connection fd) ∉ events) :
    after.process.server.nextPtr = loop.process.server.nextPtr := by
  cases turns with
  | stops exn process unheld endpoint received => rw [process]
  | rests uninterrupted idle => rfl
  | reads ready read input => exact nextPtr_step loop.process (by simp)
  | accepts quiet accepted =>
      apply nextPtr_step loop.process
      intro fd same
      exact unaccepted fd (List.mem_singleton.mpr same.symm)
  | serves quiet none registered isOpen waiting => exact nextPtr_step loop.process (by simp)

theorem Turns.accepted {loop after : Loop} (hosted : Hosted inherited loop) {turn : Turn}
    {fd : Nat} (turns : Turns codecs loop turn after [.socketServer (.connection fd)])
    (running : loop.process.running = true) :
    loop.process.server.nextPtr < loop.kernel.connections ∧
      after.process.server.nextPtr = loop.process.server.nextPtr + 1 := by
  generalize same : [Event.socketServer (.connection fd)] = events at turns
  cases turns with
  | stops exn process unheld endpoint received => cases same
  | rests uninterrupted idle => cases same
  | reads ready read input => cases same
  | @accepts result kernel quiet accepted =>
      cases result with
      | error errno => cases same
      | ok given =>
          obtain ⟨connection, rest, queued, _⟩ := Kernel.accept_eq_ok accepted
          rw [backlog_withEvent] at queued
          refine ⟨(hosted.next_of_queued queued).2.2, ?_⟩
          change ((Server.machine codecs).step loop.process _).server.nextPtr = _
          rw [step_of_running running]
          rfl
  | serves quiet none registered isOpen waiting => cases same

theorem Turns.served {loop after : Loop} {turn : Turn} {child : SocketPtr} {recv : Recv}
    {now : TimePoint} {writes : Nat → WriteOutcome}
    (turns : Turns codecs loop turn after [.socket child recv now writes]) :
    child ∈ loop.process.server.flexWaiter.sockets ∧
      (loop.process.server.heap child).isOpen = true := by
  generalize same : [Event.socket child recv now writes] = events at turns
  cases turns with
  | stops exn process unheld endpoint received => cases same
  | rests uninterrupted idle => cases same
  | reads ready read input => cases same
  | accepts quiet accepted => cases same
  | serves quiet none registered isOpen waiting =>
      cases same
      exact ⟨registered, isOpen⟩

theorem received_arrive (loop : Loop) (arrival : Arrival) (connection : Nat) :
    (loop.kernel.arrive arrival).received connection =
      loop.kernel.received connection ++ sentOn connection loop (.arrival arrival) := by
  cases arrival with
  | connects =>
      rw [Kernel.arrive]
      split
      · exact (List.append_nil _).symm
      · exact (List.append_nil _).symm
  | sends sender recv =>
      rw [Kernel.arrive, sentOn]
      by_cases known : sender < loop.kernel.connections
      · rw [if_pos known]
        by_cases same : sender = connection
        · subst same
          simp [known]
        · simp [same, Ne.symm same]
      · simp [known]
  | types read =>
      rw [Kernel.arrive]
      split
      · exact (List.append_nil _).symm
      · exact (List.append_nil _).symm
  | endsStdin => exact (List.append_nil _).symm

theorem received_step (stdin : stdinFileno ∈ inherited) {loop : Loop} {process : Process}
    (carries : Carries inherited loop process) (event : LoopEvent) (connection : Nat) :
    readOn connection (loop.behind event) ++
        (loop.step codecs event).kernel.received connection =
      loop.kernel.received connection ++ sentOn connection loop event := by
  cases event with
  | arrival arrival => exact received_arrive loop arrival connection
  | turn turn =>
      change _ = _ ++ []
      rw [List.append_nil]
      cases running : loop.process.running with
      | false =>
          rw [step_of_stopped running, behind_of_stopped running]
          rfl
      | true =>
          have goesOn := (goesOn_of_unheld carries.unheld).trans running
          rw [step_of_goesOn goesOn]
          exact (turns stdin (carries.running running).2 goesOn).received connection

theorem start_kernel (inherited : Finset Nat) (limit : Limit) (bindError : Option Nat) :
    (start inherited limit bindError).kernel =
      { fresh inherited limit with
        held := (start inherited limit bindError).kernel.held
        listening := (start inherited limit bindError).kernel.listening } := by
  unfold start Kernel.socketServer
  rcases (fresh inherited limit).openNext_cases with ⟨none, _⟩ | ⟨_, opens⟩
  · rw [none]
  · rw [opens]
    cases bindError with
    | none => rfl
    | some errno => rfl

theorem range_append_range' {first total : Nat} (below : first ≤ total) :
    List.range first ++ List.range' first (total - first) = List.range total := by
  have joined := @List.range'_append_1 0 first (total - first)
  rw [Nat.zero_add, Nat.add_sub_cancel' below] at joined
  rw [List.range_eq_range', List.range_eq_range']
  exact joined

theorem readOn_append_received (stdin : stdinFileno ∈ inherited) (limit : Limit)
    (bindError : Option Nat) (events : List LoopEvent) (connection : Nat) :
    readOn connection (handled codecs inherited limit bindError events) ++
        ((machine codecs inherited limit bindError).run events).kernel.received connection =
      sent codecs inherited limit bindError connection events := by
  induction events using List.reverseRecOn with
  | nil =>
      change (start inherited limit bindError).kernel.received connection = []
      rw [start_kernel]
      rfl
  | append_singleton events event ih =>
      have carries := @carries_run codecs _ stdin limit bindError events
      rw [handled, sent, Machine.observing_concat, Machine.observing_concat,
        Machine.run_concat, readOn_append, List.append_assoc]
      change _ ++ (readOn connection (behind _ event) ++
        (Loop.step _ codecs event).kernel.received connection) = _
      rw [received_step stdin carries, ← List.append_assoc]
      exact congrArg (· ++ _) ih

theorem acceptedSockets_eq_range (stdin : stdinFileno ∈ inherited) (limit : Limit)
    (bindError : Option Nat) (events : List LoopEvent)
    (running : ((machine codecs inherited limit bindError).run events).process.running =
      true) :
    acceptedSockets ((machine codecs inherited limit bindError).trace events) =
      List.range
        ((machine codecs inherited limit bindError).run events).process.server.nextPtr := by
  have same := ((carries_run stdin limit bindError events).running running).1
  have numbered := numbered_run (startup inherited)
    (@meets_acceptsLowest codecs _ stdin limit bindError events) (same ▸ running)
  rw [(refines stdin limit bindError).trace events, ← handled, numbered.accepted, ← same]

theorem acceptedSockets_append_backlog (stdin : stdinFileno ∈ inherited) (limit : Limit)
    (bindError : Option Nat) (events : List LoopEvent)
    (running : ((machine codecs inherited limit bindError).run events).process.running =
      true) :
    acceptedSockets ((machine codecs inherited limit bindError).trace events) ++
        ((machine codecs inherited limit bindError).run events).kernel.backlog =
      List.range ((machine codecs inherited limit bindError).run events).kernel.connections := by
  have hosted := ((@carries_run codecs _ stdin limit bindError events).running running).2
  rw [acceptedSockets_eq_range stdin limit bindError events running, hosted.backlog]
  exact range_append_range' hosted.connected

/-- What the handlers have read on a socket and what still waits there is what its client
has sent, in that order.  While the loop runs the socket is that of the client with its
number, and the clients that have connected are accepted in turn or wait for it. -/
theorem intake (stdin : stdinFileno ∈ inherited) (limit : Limit) (bindError : Option Nat)
    (events : List LoopEvent) :
    (∀ connection, readOn connection (handled codecs inherited limit bindError events) ++
        ((machine codecs inherited limit bindError).run events).kernel.received connection =
      sent codecs inherited limit bindError connection events) ∧
    (((machine codecs inherited limit bindError).run events).process.running = true →
      acceptedSockets ((machine codecs inherited limit bindError).trace events) ++
          ((machine codecs inherited limit bindError).run events).kernel.backlog =
        List.range ((machine codecs inherited limit bindError).run events).kernel.connections ∧
      ∀ ptr ∈ acceptedSockets ((machine codecs inherited limit bindError).trace events),
        ((machine codecs inherited limit bindError).run events).kernel.endpoint
          (((machine codecs inherited limit bindError).run events).process.server.heap ptr).fd =
            some ptr) := by
  refine ⟨readOn_append_received stdin limit bindError events, ?_⟩
  intro running
  refine ⟨acceptedSockets_append_backlog stdin limit bindError events running, ?_⟩
  intro ptr inside
  rw [acceptedSockets_eq_range stdin limit bindError events running] at inside
  have hosted := ((carries_run stdin limit bindError events).running running).2
  exact endpoint_fd hosted (List.mem_range.mp inside)

theorem intake_twoConnect :
    acceptedSockets
        ((machine Codecs.compact (Finset.range 3) 1024 none).trace twoConnect) ++
      ((machine Codecs.compact (Finset.range 3) 1024 none).run twoConnect).kernel.backlog =
        List.range 2 :=
  ((@intake Codecs.compact (Finset.range 3) (by decide) 1024 none twoConnect).2 rfl).1

end AndroidMessenger.Server.Loop
