import AndroidMessenger.Server.Capacity
import AndroidMessenger.Server.Loop

namespace AndroidMessenger.Server.Loop

open Library Msg Networking

variable {codecs : Codecs}

/-! What one round of a running loop can do. -/

def opened (loop : Loop) : Nat :=
  match loop.killEventFD with
  | none => 1
  | some _ => loop.process.server.nextPtr + 2

/-- The kernel knows the descriptors of the server as the server does.  A connection has
the number of its socket, since all are accepted in the order in which they came. -/
structure Hosted (inherited : Finset Nat) (loop : Loop) : Prop where
  unheld : loop.waits = false
  master : loop.master = handedOut inherited 0
  listening : loop.kernel.listening = some loop.master
  event : loop.killEventFD = none ∧ loop.process.server.nextPtr = 0 ∨
    loop.killEventFD = some (handedOut inherited 1)
  held : ∀ number, number ∈ loop.kernel.held ↔
    number ∈ inherited ∨ ∃ earlier < loop.opened, handedOut inherited earlier = number
  endpoint : ∀ fd connection, loop.kernel.endpoint fd = some connection ↔
    connection < loop.process.server.nextPtr ∧ fd = handedOut inherited (connection + 2)
  backlog : loop.kernel.backlog = List.range' loop.process.server.nextPtr
    (loop.kernel.connections - loop.process.server.nextPtr)
  connected : loop.process.server.nextPtr ≤ loop.kernel.connections
  numbers : ∀ ptr < loop.process.server.nextPtr,
    (loop.process.server.heap ptr).fd = handedOut inherited (ptr + 2)
  registered : ∀ ptr ∈ loop.process.server.flexWaiter.sockets,
    ptr < loop.process.server.nextPtr

def awake (loop : Loop) : Loop :=
  { loop with
    killEventFD := loop.killEventFD.or (loop.kernel.openNext.map Prod.fst)
    kernel := loop.withEvent }

/-- Nothing that the loop watches can be read. -/
structure Idle (loop : Loop) : Prop where
  stdin : loop.kernel.readable stdinFileno = false
  backlog : loop.kernel.backlog = []
  received : ∀ ptr ∈ loop.process.server.flexWaiter.sockets,
    (loop.process.server.heap ptr).isOpen = true → loop.kernel.received ptr = []

inductive Turns (codecs : Codecs) (loop : Loop) (turn : Turn) : Loop → List Event → Prop where
  | stops {after : Loop} (exn : Exn)
      (process : after.process = { loop.process with thrown := some exn })
      (unheld : after.waits = false)
      (endpoint : after.kernel.endpoint = loop.kernel.endpoint)
      (received : after.kernel.received = loop.kernel.received) :
      Turns codecs loop turn after []
  | rests (uninterrupted : turn.interrupted = false) (idle : loop.Idle) :
      Turns codecs loop turn loop.awake []
  | reads {chunk : StdinChunk} {line : Bytes}
      (ready : loop.kernel.readable stdinFileno = true)
      (read : loop.kernel.stdinRead = .data chunk) (input : chunk.input = some line) :
      Turns codecs loop turn
        (loop.awake.handle codecs (.stdin (Utf8.decode line))
          { loop.withEvent with stdin := loop.kernel.stdin.drop 1 })
        [.stdin (Utf8.decode line)]
  | accepts {result : Except Nat Nat} {kernel : Kernel}
      (quiet : loop.kernel.readable stdinFileno = false)
      (accepted : loop.withEvent.accept turn.aborted = some (result, kernel)) :
      Turns codecs loop turn
        (loop.awake.handle codecs (.socketServer (outcome result)) kernel)
        [.socketServer (outcome result)]
  | serves {child : SocketPtr} {recv : Recv} {rest : List Recv}
      (quiet : loop.kernel.readable stdinFileno = false) (none : loop.kernel.backlog = [])
      (registered : child ∈ loop.process.server.flexWaiter.sockets)
      (isOpen : (loop.process.server.heap child).isOpen = true)
      (waiting : loop.kernel.received child = recv :: rest) :
      Turns codecs loop turn
        (loop.awake.handle codecs (.socket child recv turn.now turn.writes)
          { loop.withEvent with
            received := Function.update loop.kernel.received child rest })
        [.socket child recv turn.now turn.writes]

section Hosted

variable {inherited : Finset Nat} (stdin : stdinFileno ∈ inherited) {loop : Loop}
  (hosted : Hosted inherited loop)

include stdin in
theorem handedOut_ne_stdin (count : Nat) : handedOut inherited count ≠ stdinFileno := by
  intro same
  exact handedOut_notMem inherited count (same ▸ stdin)

theorem handedOut_inj {first second : Nat} :
    handedOut inherited first = handedOut inherited second ↔ first = second :=
  (handedOut_strictMono inherited).injective.eq_iff

include hosted in
theorem endpoint_fd {ptr : SocketPtr} (old : ptr < loop.process.server.nextPtr) :
    loop.kernel.endpoint (loop.process.server.heap ptr).fd = some ptr :=
  (hosted.endpoint _ _).mpr ⟨old, hosted.numbers ptr old⟩

include stdin hosted

theorem readable_master :
    loop.kernel.readable loop.master = !loop.kernel.backlog.isEmpty := by
  have other : loop.master ≠ stdinFileno := by
    rw [hosted.master]
    exact handedOut_ne_stdin stdin 0
  rw [Kernel.readable, if_neg other, if_pos hosted.listening]

theorem readable_killEvent : loop.kernel.readable (handedOut inherited 1) = false := by
  have unlistened : loop.kernel.listening ≠ some (handedOut inherited 1) := by
    rw [hosted.listening, hosted.master]
    intro same
    exact absurd (handedOut_inj.mp (Option.some.inj same)) Nat.zero_ne_one
  have none : loop.kernel.endpoint (handedOut inherited 1) = none := by
    cases found : loop.kernel.endpoint (handedOut inherited 1) with
    | none => rfl
    | some connection =>
        have number := ((hosted.endpoint _ _).mp found).2
        have same := handedOut_inj.mp number
        omega
  rw [Kernel.readable, if_neg (handedOut_ne_stdin stdin 1), if_neg unlistened, none]

theorem readable_fd {ptr : SocketPtr} (old : ptr < loop.process.server.nextPtr) :
    loop.kernel.readable (loop.process.server.heap ptr).fd =
      !(loop.kernel.received ptr).isEmpty := by
  have unlistened : loop.kernel.listening ≠ some (loop.process.server.heap ptr).fd := by
    rw [hosted.listening, hosted.master, hosted.numbers ptr old]
    intro same
    have number := handedOut_inj.mp (Option.some.inj same)
    omega
  have other : (loop.process.server.heap ptr).fd ≠ stdinFileno := by
    rw [hosted.numbers ptr old]
    exact handedOut_ne_stdin stdin _
  rw [Kernel.readable, if_neg other, if_neg unlistened, endpoint_fd hosted old]

end Hosted

/-! The section of `wait` that makes the event. -/

theorem run_fst (wait : Wait) (killEventFD : Option Nat) :
    (wait.run killEventFD).1 = wait.killEvent killEventFD := by
  unfold Wait.run
  split
  · rename_i none
    rw [none]
  · rename_i fd some
    rw [some]

theorem killEvent_wait (loop : Loop) (turn : Turn) :
    (loop.wait turn).killEvent loop.killEventFD = loop.awake.killEventFD := by
  unfold Wait.killEvent
  split
  · rename_i fd made
    exact (congrArg (Option.or · _) made).symm
  · rename_i unmade
    exact (congrArg (Option.or · _) unmade).symm

section WithEvent

variable (loop : Loop)

theorem withEvent_cases :
    loop.withEvent = loop.kernel ∨ loop.killEventFD = none ∧
      lowest loop.kernel.held < loop.kernel.limit ∧ loop.withEvent =
        { loop.kernel with held := insert (lowest loop.kernel.held) loop.kernel.held } := by
  unfold withEvent
  split
  · rename_i fd kernel unmade opened
    rcases loop.kernel.openNext_cases with ⟨none, _⟩ | ⟨room, made⟩
    · rw [none] at opened
      cases opened
    · rw [made] at opened
      obtain rfl := (Prod.mk.inj (Option.some.inj opened)).2
      exact Or.inr ⟨unmade, room, rfl⟩
  · exact Or.inl rfl

theorem awake_cases :
    loop.awake = loop ∨ loop.killEventFD = none ∧
      lowest loop.kernel.held < loop.kernel.limit ∧ loop.awake =
        { loop with
          killEventFD := some (lowest loop.kernel.held)
          kernel := { loop.kernel with
            held := insert (lowest loop.kernel.held) loop.kernel.held } } := by
  obtain ⟨process, master, killEventFD, kernel, waits⟩ := loop
  cases killEventFD with
  | some fd => exact Or.inl rfl
  | none =>
      rcases kernel.openNext_cases with ⟨none, _⟩ | ⟨room, opens⟩
      · left
        simp only [awake, withEvent, none]
        rfl
      · right
        simp only [awake, withEvent, opens]
        exact ⟨trivial, room, rfl⟩

@[simp] theorem endpoint_withEvent : loop.withEvent.endpoint = loop.kernel.endpoint := by
  rcases loop.withEvent_cases with same | ⟨_, _, same⟩
  · rw [same]
  · rw [same]

@[simp] theorem received_withEvent : loop.withEvent.received = loop.kernel.received := by
  rcases loop.withEvent_cases with same | ⟨_, _, same⟩
  · rw [same]
  · rw [same]

@[simp] theorem ended_withEvent : loop.withEvent.ended = loop.kernel.ended := by
  rcases loop.withEvent_cases with same | ⟨_, _, same⟩
  · rw [same]
  · rw [same]

@[simp] theorem stdin_withEvent : loop.withEvent.stdin = loop.kernel.stdin := by
  rcases loop.withEvent_cases with same | ⟨_, _, same⟩
  · rw [same]
  · rw [same]

@[simp] theorem backlog_withEvent : loop.withEvent.backlog = loop.kernel.backlog := by
  rcases loop.withEvent_cases with same | ⟨_, _, same⟩
  · rw [same]
  · rw [same]

end WithEvent

/-! A round, by what its `wait` comes to. -/

theorem select_of_uninterrupted {loop : Loop} {turn : Turn}
    (uninterrupted : turn.interrupted = false) (watch : Watch) :
    (loop.wait turn).select watch = loop.kernel.select watch := by
  change (if turn.interrupted = true then _ else _) = _
  rw [uninterrupted]
  rfl

theorem readable_of_stdinOf {loop : Loop} {turn : Turn}
    (reads : ((loop.wait turn).stdinOf loop.killEventFD).isSome = true) :
    loop.kernel.readable stdinFileno = true := by
  unfold Wait.stdinOf at reads
  split at reads
  · cases reads
  · rename_i fd _
    split at reads
    · rename_i theSet selected
      split at reads
      · rename_i inside
        change (if turn.interrupted = true then _ else _) = _ at selected
        split at selected
        · cases selected
        · exact ((Kernel.mem_ready (loop.wait turn).watch_le_maxFD selected _).mp inside.2).2
      · cases reads
    · cases reads

section Waited

variable {loop : Loop} (turn : Turn)

theorem waited_of_unread (unread : (loop.wait turn).stdinOf loop.killEventFD = none) :
    (loop.waited turn).1 = loop.awake := by
  simp only [waited, unread, Option.isSome_none, Bool.false_and, Bool.or_false, run_fst,
    killEvent_wait]
  rfl

theorem waited_of_read (reads : ((loop.wait turn).stdinOf loop.killEventFD).isSome = true) :
    (loop.waited turn).1 =
      { loop.awake with
        kernel := { loop.withEvent with stdin := loop.kernel.stdin.drop 1 } } := by
  have ready := readable_of_stdinOf reads
  simp only [waited, reads, ready, run_fst, killEvent_wait]
  simp [awake]

theorem waited_cases :
    (loop.waited turn).1 = loop.awake ∨ (loop.waited turn).1 =
      { loop.awake with
        kernel := { loop.withEvent with stdin := loop.kernel.stdin.drop 1 } } := by
  cases reads : (loop.wait turn).stdinOf loop.killEventFD with
  | none => exact Or.inl (waited_of_unread turn reads)
  | some chunk =>
      right
      apply waited_of_read
      rw [reads]
      rfl

end Waited

section Round

variable {loop : Loop} {turn : Turn} (goesOn : loop.goesOn = true)

include goesOn in
theorem unheld_of_goesOn : loop.waits = false := by
  simp only [Loop.goesOn, Bool.and_eq_true, Bool.not_eq_true'] at goesOn
  exact goesOn.2

include goesOn in
theorem turns_of_error {exn : Exn} (failed : (loop.waited turn).2 = .error exn) :
    Turns codecs loop turn (loop.turn codecs turn) (loop.behind (.turn turn)) := by
  have after : loop.turn codecs turn =
      { (loop.waited turn).1 with
        process := { (loop.waited turn).1.process with thrown := some exn } } := by
    rw [Loop.turn]
    generalize loop.waited turn = waited at failed
    obtain ⟨_, _⟩ := waited
    cases failed
    rfl
  have none : loop.behind (.turn turn) = [] := by
    rw [behind, if_pos goesOn]
    generalize loop.waited turn = waited at failed
    obtain ⟨_, _⟩ := waited
    cases failed
    rfl
  have unheld := unheld_of_goesOn goesOn
  rw [after, none]
  rcases waited_cases turn with same | same
  · rw [same]
    exact .stops exn rfl unheld loop.endpoint_withEvent loop.received_withEvent
  · rw [same]
    exact .stops exn rfl unheld loop.endpoint_withEvent loop.received_withEvent

include goesOn in
theorem turn_of_none (called : (loop.waited turn).2 = .ok []) :
    loop.turn codecs turn = (loop.waited turn).1 ∧ loop.behind (.turn turn) = [] := by
  rw [Loop.turn, behind, if_pos goesOn]
  generalize loop.waited turn = waited at called
  obtain ⟨_, _⟩ := waited
  cases called
  exact ⟨rfl, rfl⟩

include goesOn in
theorem turn_of_call {activity : Activity} {event : Event} {kernel : Kernel}
    (called : (loop.waited turn).2 = .ok [activity])
    (found : (loop.waited turn).1.event turn activity = some (event, kernel)) :
    loop.turn codecs turn = (loop.waited turn).1.handle codecs event kernel ∧
      loop.behind (.turn turn) = [event] := by
  rw [Loop.turn, behind, if_pos goesOn]
  generalize loop.waited turn = waited at called found
  obtain ⟨_, _⟩ := waited
  cases called
  simp only at found
  simp [call, found]

end Round

section Selected

variable {inherited : Finset Nat} (stdin : stdinFileno ∈ inherited) {loop : Loop}
  (hosted : Hosted inherited loop) {turn : Turn}

include hosted in
theorem killEvent_awake {fd : Nat} (made : loop.awake.killEventFD = some fd) :
    fd = handedOut inherited 1 := by
  rcases hosted.event with ⟨unmade, _⟩ | before
  · simp only [awake, unmade, Option.none_or, Option.map_eq_some_iff] at made
    obtain ⟨given, opens, rfl⟩ := made
    have least : IsLeast { number | number ∉ loop.kernel.held } given.1 := by
      rcases loop.kernel.openNext_cases with ⟨none, _⟩ | ⟨_, found⟩
      · rw [none] at opens
        cases opens
      · rw [found] at opens
        rw [← Option.some.inj opens]
        exact isLeast_lowest _
    apply (isLeast_free_iff ?_ given.1).mp least
    have one : loop.opened = 1 := by
      rw [opened, unmade]
    rw [← one]
    exact hosted.held
  · simp only [awake, before, Option.some_or, Option.some.injEq] at made
    exact made.symm

include hosted in
theorem fd_inj {ptr other : SocketPtr} (old : ptr < loop.process.server.nextPtr)
    (oldOther : other < loop.process.server.nextPtr)
    (same : (loop.process.server.heap ptr).fd = (loop.process.server.heap other).fd) :
    ptr = other := by
  rw [hosted.numbers ptr old, hosted.numbers other oldOther, handedOut_inj] at same
  exact Nat.add_right_cancel same

/-- What is ready is stdin, the master or an open socket with something to read. -/
structure Ready (loop : Loop) (theSet : Finset Nat) : Prop where
  stdin : stdinFileno ∈ theSet ↔ loop.kernel.readable stdinFileno = true
  master : loop.master ∈ theSet ↔ loop.kernel.backlog ≠ []
  socket : ∀ ptr ∈ loop.process.server.flexWaiter.sockets,
    (loop.process.server.heap ptr).fd ∈ theSet ↔
      (loop.process.server.heap ptr).isOpen = true ∧ loop.kernel.received ptr ≠ []
  only : ∀ fd ∈ theSet, fd = stdinFileno ∨ fd = loop.master ∨
    ∃ ptr ∈ loop.process.server.flexWaiter.sockets, (loop.process.server.heap ptr).fd = fd

include stdin hosted in
theorem ready_of_selected {theSet : Finset Nat}
    (selected : loop.kernel.select ((loop.wait turn).watch (handedOut inherited 1)) =
      .ready theSet) : Ready loop theSet ∧ handedOut inherited 1 ∉ theSet := by
  have member := Kernel.mem_ready (loop.wait turn).watch_le_maxFD selected
  have quiet : handedOut inherited 1 ∉ theSet := by
    rw [member, readable_killEvent stdin hosted]
    exact fun given => Bool.false_ne_true given.2
  refine ⟨⟨?_, ?_, ?_, ?_⟩, quiet⟩
  · rw [member, Wait.mem_watch]
    simp
  · rw [member, Wait.mem_watch, readable_master stdin hosted]
    simp [wait]
  · intro ptr registered
    have old := hosted.registered ptr registered
    rw [member, Wait.mem_watch, readable_fd stdin hosted old]
    constructor
    · intro given
      refine ⟨?_, by simpa using given.2⟩
      rcases given.1 with same | same | same | ⟨other, listed, isOpen, same⟩
      · rw [hosted.numbers ptr old, handedOut_inj] at same
        omega
      · rw [hosted.numbers ptr old] at same
        exact absurd same (handedOut_ne_stdin stdin _)
      · have number := (Option.some.inj same).symm
        rw [hosted.numbers ptr old, hosted.master, handedOut_inj] at number
        omega
      · have registeredOther := ((loop.wait turn).enumerates other).mp listed
        rw [← fd_inj hosted (hosted.registered other registeredOther) old same]
        exact isOpen
    · intro given
      refine ⟨Or.inr (Or.inr (Or.inr ⟨ptr, ?_, given.1, rfl⟩)), by simpa using given.2⟩
      exact ((loop.wait turn).enumerates ptr).mpr registered
  · intro fd inside
    rcases (loop.wait turn).mem_watch.mp ((member fd).mp inside).1 with
      same | same | same | ⟨ptr, listed, _, same⟩
    · rw [same] at inside
      exact absurd inside quiet
    · exact Or.inl same
    · exact Or.inr (Or.inl (Option.some.inj same).symm)
    · exact Or.inr (Or.inr ⟨ptr, ((loop.wait turn).enumerates ptr).mp listed, same⟩)

include stdin hosted in
theorem idle_of_unready
    (unready : ∀ fd ∈ ((loop.wait turn).watch (handedOut inherited 1)).theSet,
      loop.kernel.readable fd = false) : loop.Idle where
  stdin := unready _ ((loop.wait turn).mem_watch.mpr (Or.inr (Or.inl rfl)))
  backlog := by
    have master := unready loop.master
      ((loop.wait turn).mem_watch.mpr (Or.inr (Or.inr (Or.inl rfl))))
    rw [readable_master stdin hosted] at master
    simpa using master
  received ptr registered isOpen := by
    have socket := unready (loop.process.server.heap ptr).fd
      ((loop.wait turn).mem_watch.mpr (Or.inr (Or.inr (Or.inr
        ⟨ptr, ((loop.wait turn).enumerates ptr).mpr registered, isOpen, rfl⟩))))
    rw [readable_fd stdin hosted (hosted.registered ptr registered)] at socket
    simpa using socket

theorem run_of_selected {fd : Nat} (kill : loop.awake.killEventFD = some fd)
    (uninterrupted : turn.interrupted = false) :
    (loop.waited turn).2 =
        (match loop.kernel.select ((loop.wait turn).watch fd) with
        | .failed =>
            .error (.runtimeError "Unexpected error in synchronization object")
        | .timeout => .ok []
        | .ready theSet => (loop.wait turn).dispatch fd theSet) ∧
      (loop.wait turn).stdinOf loop.killEventFD =
        match loop.kernel.select ((loop.wait turn).watch fd) with
        | .ready theSet =>
            if fd ∉ theSet ∧ stdinFileno ∈ theSet then
              match loop.kernel.stdinRead with
              | .failed => none
              | .data chunk => some chunk
            else none
        | _ => none := by
  have found := killEvent_wait loop turn
  rw [kill] at found
  cases selected : loop.kernel.select ((loop.wait turn).watch fd) with
  | failed =>
      simp only [waited, Wait.run, Wait.stdinOf, found, select_of_uninterrupted uninterrupted,
        selected, and_self]
  | timeout =>
      simp only [waited, Wait.run, Wait.stdinOf, found, select_of_uninterrupted uninterrupted,
        selected, and_self]
  | ready theSet =>
      simp only [waited, Wait.run, Wait.stdinOf, found, select_of_uninterrupted uninterrupted,
        selected, true_and]
      rfl

theorem turns_of_timeout {fd : Nat} (goesOn : loop.goesOn = true)
    (kill : loop.awake.killEventFD = some fd) (uninterrupted : turn.interrupted = false)
    (selected : loop.kernel.select ((loop.wait turn).watch fd) = .timeout)
    (idle : loop.Idle) :
    Turns codecs loop turn (loop.turn codecs turn) (loop.behind (.turn turn)) := by
  obtain ⟨ran, unread⟩ := run_of_selected kill uninterrupted
  rw [selected] at ran unread
  obtain ⟨after, none⟩ := @turn_of_none codecs _ _ goesOn ran
  rw [after, none, waited_of_unread turn unread]
  exact .rests uninterrupted idle

section Dispatched

variable {theSet : Finset Nat} {fd : Nat} (goesOn : loop.goesOn = true)
  (kill : loop.awake.killEventFD = some fd) (uninterrupted : turn.interrupted = false)
  (selected : loop.kernel.select ((loop.wait turn).watch fd) = .ready theSet)
  (ready : Ready loop theSet) (quiet : fd ∉ theSet)

include goesOn kill uninterrupted selected ready quiet

theorem turns_of_stdin (typed : stdinFileno ∈ theSet) :
    Turns codecs loop turn (loop.turn codecs turn) (loop.behind (.turn turn)) := by
  obtain ⟨ran, reads⟩ := run_of_selected kill uninterrupted
  rw [selected] at ran reads
  simp only [Wait.dispatch, if_neg quiet, if_pos typed] at ran reads
  change _ = match loop.kernel.stdinRead with
    | .failed => _
    | .data chunk => _ at ran
  rw [if_pos ⟨quiet, typed⟩] at reads
  cases read : loop.kernel.stdinRead with
  | failed =>
      rw [read] at ran
      exact turns_of_error goesOn ran
  | data chunk =>
      rw [read] at ran reads
      simp only at ran reads
      cases input : chunk.input with
      | none =>
          rw [input] at ran
          exact turns_of_error goesOn ran
      | some line =>
          rw [input] at ran
          have waited := @waited_of_read loop turn (by rw [reads]; rfl)
          obtain ⟨after, event⟩ := @turn_of_call codecs _ _ goesOn _
            (.stdin (Utf8.decode line)) (loop.waited turn).1.kernel ran rfl
          rw [after, event, waited]
          exact .reads ((ready.stdin).mp typed) read input

variable (untyped : stdinFileno ∉ theSet)

include untyped

omit goesOn ready in
theorem waited_of_untyped :
    (loop.waited turn).1 = loop.awake ∧
      (loop.waited turn).2 = if loop.master ∈ theSet then .ok [.onSocketServer]
        else .ok (dispatchSockets loop.process.server.heap theSet (loop.wait turn).order) := by
  obtain ⟨ran, unread⟩ := run_of_selected kill uninterrupted
  rw [selected] at ran unread
  simp only at unread
  rw [if_neg (fun given => untyped given.2)] at unread
  refine ⟨waited_of_unread turn unread, ?_⟩
  rw [ran]
  simp only [Wait.dispatch, if_neg quiet, if_neg untyped]
  rfl

theorem turns_of_master (connected : loop.master ∈ theSet) :
    Turns codecs loop turn (loop.turn codecs turn) (loop.behind (.turn turn)) := by
  obtain ⟨waited, ran⟩ := waited_of_untyped kill uninterrupted selected quiet untyped
  rw [if_pos connected] at ran
  have queued := ready.master.mp connected
  rcases loop.withEvent.accept_cases turn.aborted with ⟨empty, _⟩ | ⟨result, kernel, accepted⟩
  · rw [backlog_withEvent] at empty
    exact absurd empty queued
  · have found : (loop.waited turn).1.event turn .onSocketServer =
        some (.socketServer (outcome result), kernel) := by
      rw [waited]
      change (loop.withEvent.accept turn.aborted).map _ = _
      rw [accepted]
      rfl
    obtain ⟨after, event⟩ := @turn_of_call codecs _ _ goesOn _ _ _ ran found
    rw [after, event, waited]
    exact .accepts (Bool.eq_false_iff.mpr (mt ready.stdin.mpr untyped)) accepted

include hosted in
theorem turns_of_child (unconnected : loop.master ∉ theSet) (some : theSet.Nonempty) :
    Turns codecs loop turn (loop.turn codecs turn) (loop.behind (.turn turn)) := by
  obtain ⟨waited, ran⟩ := waited_of_untyped kill uninterrupted selected quiet untyped
  rw [if_neg unconnected] at ran
  have listed : ∃ ptr ∈ (loop.wait turn).order,
      (loop.process.server.heap ptr).fd ∈ theSet := by
    obtain ⟨fd, inside⟩ := some
    rcases ready.only fd inside with rfl | rfl | ⟨ptr, registered, rfl⟩
    · exact absurd inside untyped
    · exact absurd inside unconnected
    · exact ⟨ptr, ((loop.wait turn).enumerates ptr).mpr registered, inside⟩
  obtain ⟨before, child, after, split, inside, missed⟩ := exists_first_ready listed
  have first := dispatchSockets_eq_singleton_iff.mpr ⟨before, after, split, inside, missed⟩
  have registered : child ∈ loop.process.server.flexWaiter.sockets := by
    apply ((loop.wait turn).enumerates child).mp
    rw [split]
    simp
  obtain ⟨isOpen, waiting⟩ := (ready.socket child registered).mp inside
  rw [first] at ran
  cases queue : loop.kernel.received child with
  | nil => exact absurd queue waiting
  | cons recv rest =>
      have read : loop.withEvent.recv (loop.process.server.heap child).fd =
          .some (recv, { loop.withEvent with
            received := Function.update loop.kernel.received child rest }) := by
        rw [Kernel.recv, endpoint_withEvent,
          endpoint_fd hosted (hosted.registered child registered)]
        simp only [received_withEvent, endpoint_withEvent, queue]
      have found : (loop.waited turn).1.event turn (.onSocket child) =
          .some (.socket child recv turn.now turn.writes, { loop.withEvent with
            received := Function.update loop.kernel.received child rest }) := by
        rw [waited]
        simp only [Loop.event, awake, isOpen, if_true]
        rw [read]
        rfl
      obtain ⟨after, event⟩ := @turn_of_call codecs _ _ goesOn _ _ _ ran found
      rw [after, event, waited]
      refine .serves (Bool.eq_false_iff.mpr (mt ready.stdin.mpr untyped)) ?_ registered isOpen
        queue
      exact not_not.mp (mt ready.master.mpr unconnected)

end Dispatched

include stdin hosted in
/-- What a round of a loop that goes on can do, whatever it finds. -/
theorem turns (goesOn : loop.goesOn = true) :
    Turns codecs loop turn (loop.turn codecs turn) (loop.behind (.turn turn)) := by
  cases kill : loop.awake.killEventFD with
  | none =>
      have found := killEvent_wait loop turn
      rw [kill] at found
      apply turns_of_error goesOn
      change ((loop.wait turn).run loop.killEventFD).2 = _
      rw [Wait.run, found]
  | some fd =>
      cases interrupted : turn.interrupted with
      | true =>
          have found := killEvent_wait loop turn
          rw [kill] at found
          apply turns_of_error goesOn
          change ((loop.wait turn).run loop.killEventFD).2 = _
          rw [Wait.run, found]
          change (match (if turn.interrupted = true then Selected.failed else _) with
            | .failed => _
            | .timeout => _
            | .ready theSet => _) = _
          rw [interrupted]
          rfl
      | false =>
          obtain rfl := killEvent_awake hosted kill
          rcases loop.kernel.select_cases (loop.wait turn).watch_le_maxFD with
            ⟨selected, unready⟩ | ⟨theSet, selected, some⟩
          · apply turns_of_timeout goesOn kill interrupted selected
            exact idle_of_unready stdin hosted unready
          · obtain ⟨ready, quiet⟩ := ready_of_selected stdin hosted selected
            by_cases typed : stdinFileno ∈ theSet
            · exact turns_of_stdin goesOn kill interrupted selected ready quiet typed
            · by_cases connected : loop.master ∈ theSet
              · exact turns_of_master goesOn kill interrupted selected ready quiet typed
                  connected
              · exact turns_of_child hosted goesOn kill interrupted selected ready quiet
                  typed connected some

end Selected

end AndroidMessenger.Server.Loop
