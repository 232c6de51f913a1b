import AndroidMessenger.Library.Refinement
import AndroidMessenger.Server.Turns

namespace AndroidMessenger.Server.Loop

open Library Msg Networking

variable {codecs : Codecs} {inherited : Finset Nat}

/-! A running loop stays hosted. -/

/-- What the descriptors are looked up in. -/
structure SameDescriptors (before after : Kernel) : Prop where
  held : after.held = before.held
  listening : after.listening = before.listening
  endpoint : after.endpoint = before.endpoint
  backlog : after.backlog = before.backlog
  connections : after.connections = before.connections

/-- An event of a running server that opens and closes no descriptor. -/
structure Steady (before after : Server) (actions : List Action) : Prop where
  nextPtr : after.nextPtr = before.nextPtr
  unclosed : ∀ ptr, .closed ptr ∉ actions
  numbers : ∀ ptr < before.nextPtr, (after.heap ptr).fd = (before.heap ptr).fd
  registered : ∀ ptr ∈ after.flexWaiter.sockets, ptr ∈ before.flexWaiter.sockets

theorem steady_of_running {process : Process} (running : process.running = true)
    {event : Event} (unaccepted : ∀ fd, event ≠ .socketServer (.connection fd))
    (goesOn : ((Server.machine codecs).step process event).running = true) :
    Steady process.server ((Server.machine codecs).step process event).server
      ((Server.machine codecs).emits process event) := by
  rw [step_of_running running] at goesOn ⊢
  rw [emits_of_running running]
  rcases moves_cases codecs running event with ⟨fd, rfl⟩ | rfl |
    ⟨ptr, now, writes, rfl, _, _, _, removal⟩ | ⟨_, quiet⟩
  · exact absurd rfl (unaccepted fd)
  · rw [Process.running_iff] at goesOn
    exact absurd goesOn.1 Bool.false_ne_true
  · refine ⟨?_, ?_, fun other => fd_react _ _, ?_⟩
    · rw [removal]
      rfl
    · intro other closed
      rw [removal] at closed
      simp [removeSocketConnection, Socket.destroy] at closed
    · intro other inside
      rw [removal, sockets_removeSocketConnection] at inside
      exact Finset.mem_of_mem_erase inside
  · refine ⟨quiet.nextPtr, fun ptr closed => Bool.false_ne_true (quiet.talk _ closed),
      fun other => fd_react _ _, ?_⟩
    intro ptr inside
    rw [quiet.flexWaiter] at inside
    exact inside

theorem release_of_unclosed (server : Server) {actions : List Action}
    (unclosed : ∀ ptr, .closed ptr ∉ actions) (kernel : Kernel) :
    release server actions kernel = kernel := by
  unfold release
  induction actions generalizing kernel with
  | nil => rfl
  | cons action actions ih =>
      rw [List.foldl_cons]
      rw [ih fun ptr closed => unclosed ptr (List.mem_cons_of_mem action closed)]
      cases action with
      | closed ptr => exact absurd List.mem_cons_self (unclosed ptr)
      | accepted ptr => rfl
      | answered ptr json res => rfl
      | wrote ptr text outcome => rfl
      | removed ptr => rfl

theorem made_of_room (loop : Loop)
    (room : lowest loop.withEvent.held < loop.withEvent.limit) :
    ∃ fd, loop.awake.killEventFD = some fd := by
  cases made : loop.killEventFD with
  | some fd => exact ⟨fd, by rw [Loop.awake, made, Option.some_or]⟩
  | none =>
      rcases loop.kernel.openNext_cases with ⟨none, full⟩ | ⟨_, opens⟩
      · have same : loop.withEvent = loop.kernel := by
          rw [withEvent, made, none]
        rw [same] at room
        exact absurd room (Nat.not_lt.mpr full)
      · exact ⟨_, by rw [Loop.awake, made, opens]; rfl⟩

theorem sameDescriptors_stdin (loop : Loop) (stdin : List StdinRead) :
    SameDescriptors loop.awake.kernel { loop.withEvent with stdin } :=
  ⟨rfl, rfl, rfl, rfl, rfl⟩

theorem opened_handle {loop : Loop} {event : Event} {kernel : Kernel}
    (running : loop.process.running = true)
    (unaccepted : ∀ fd, event ≠ .socketServer (.connection fd))
    (goesOn : ((Server.machine codecs).step loop.process event).running = true) :
    (loop.handle codecs event kernel).opened = loop.opened := by
  have next : (loop.handle codecs event kernel).process.server.nextPtr =
      loop.process.server.nextPtr := (steady_of_running running unaccepted goesOn).nextPtr
  rw [opened, opened, next]
  rfl

theorem opened_accept {loop : Loop} {event fd : Nat} {kernel : Kernel}
    (made : loop.killEventFD = some event) (running : loop.process.running = true) :
    (loop.handle codecs (.socketServer (.connection fd)) kernel).opened =
      loop.opened + 1 := by
  have next : (loop.handle codecs (.socketServer (.connection fd))
      kernel).process.server.nextPtr = loop.process.server.nextPtr + 1 := by
    change ((Server.machine codecs).step loop.process _).server.nextPtr = _
    rw [step_of_running running]
    rfl
  have still : (loop.handle codecs (.socketServer (.connection fd)) kernel).killEventFD =
      some event := made
  simp only [opened, next, still, made]

namespace Hosted

variable {loop : Loop}

theorem start {limit : Limit} {bindError : Option Nat}
    (running : (Loop.start inherited limit bindError).process.running = true) :
    Hosted inherited (Loop.start inherited limit bindError) := by
  have first : lowest inherited = handedOut inherited 0 := by
    refine (@isLeast_free_iff inherited inherited 0 ?_ _).mp (isLeast_lowest inherited)
    intro number
    simp
  unfold Loop.start Kernel.socketServer at running ⊢
  rcases (fresh inherited limit).openNext_cases with ⟨none, _⟩ | ⟨_, opens⟩
  · rw [none] at running
    cases running
  · cases bindError with
    | some errno =>
        rw [opens] at running
        cases running
    | none =>
        rw [opens]
        refine ⟨rfl, first, rfl, Or.inl ⟨rfl, rfl⟩, ?_, ?_, rfl, Nat.le_refl 0, ?_, ?_⟩
        · intro number
          change number ∈ insert (lowest inherited) inherited ↔ _
          rw [Finset.mem_insert, or_comm, first]
          simp [opened, eq_comm]
        · intro fd connection
          simp [fresh, Server.start]
        · intro ptr below
          exact absurd below (Nat.not_lt_zero ptr)
        · intro ptr inside
          exact absurd inside (Finset.notMem_empty ptr)

theorem arrive (hosted : Hosted inherited loop) (arrival : Arrival) :
    Hosted inherited { loop with kernel := loop.kernel.arrive arrival } := by
  cases arrival with
  | connects =>
      have queued : loop.kernel.arrive .connects = { loop.kernel with
          backlog := loop.kernel.backlog ++ [loop.kernel.connections]
          connections := loop.kernel.connections + 1 } :=
        if_pos (by rw [hosted.listening]; rfl)
      rw [queued]
      refine { hosted with backlog := ?_, connected := Nat.le_succ_of_le hosted.connected }
      change loop.kernel.backlog ++ [loop.kernel.connections] = List.range' _ _
      have last : loop.process.server.nextPtr +
          (loop.kernel.connections - loop.process.server.nextPtr) = loop.kernel.connections :=
        Nat.add_sub_cancel' hosted.connected
      rw [hosted.backlog, Nat.succ_sub hosted.connected, List.range'_concat, Nat.one_mul, last]
  | sends connection recv =>
      rw [Kernel.arrive]
      split
      · exact { hosted with }
      · exact hosted
  | types read =>
      rw [Kernel.arrive]
      split
      · exact hosted
      · exact { hosted with }
  | endsStdin => exact { hosted with }

theorem lowest_held (hosted : Hosted inherited loop) :
    lowest loop.kernel.held = handedOut inherited loop.opened :=
  (isLeast_free_iff hosted.held _).mp (isLeast_lowest _)

theorem insert_held (hosted : Hosted inherited loop) (number : Nat) :
    number ∈ insert (lowest loop.kernel.held) loop.kernel.held ↔
      number ∈ inherited ∨
        ∃ earlier < loop.opened + 1, handedOut inherited earlier = number := by
  rw [Finset.mem_insert, hosted.held, hosted.lowest_held]
  constructor
  · intro given
    rcases given with rfl | taken | ⟨earlier, below, same⟩
    · exact Or.inr ⟨_, Nat.lt_succ_self _, rfl⟩
    · exact Or.inl taken
    · exact Or.inr ⟨earlier, Nat.lt_succ_of_lt below, same⟩
  · intro given
    rcases given with taken | ⟨earlier, below, same⟩
    · exact Or.inr (Or.inl taken)
    · rcases Nat.lt_succ_iff_lt_or_eq.mp below with before | rfl
      · exact Or.inr (Or.inr ⟨earlier, before, same⟩)
      · exact Or.inl same.symm

theorem nextPtr_of_unmade (hosted : Hosted inherited loop)
    (unmade : loop.killEventFD = none) : loop.process.server.nextPtr = 0 := by
  rcases hosted.event with given | made
  · exact given.2
  · rw [unmade] at made
    cases made

theorem awake (hosted : Hosted inherited loop) : Hosted inherited loop.awake := by
  rcases loop.awake_cases with same | ⟨unmade, room, same⟩
  · rw [same]
    exact hosted
  · have none := hosted.nextPtr_of_unmade unmade
    have one : loop.opened = 1 := by
      rw [opened, unmade]
    rw [same]
    refine { hosted with event := ?_, held := ?_ }
    · rw [hosted.lowest_held, one]
      exact Or.inr rfl
    · intro number
      have two : (1 : Nat) + 1 = loop.process.server.nextPtr + 2 := by rw [none]
      rw [hosted.insert_held, one, two]
      rfl

theorem next_of_queued (hosted : Hosted inherited loop) {connection : Nat} {rest : List Nat}
    (queued : loop.kernel.backlog = connection :: rest) :
    loop.process.server.nextPtr = connection ∧
      rest = List.range' (loop.process.server.nextPtr + 1)
        (loop.kernel.connections - (loop.process.server.nextPtr + 1)) ∧
      loop.process.server.nextPtr + 1 ≤ loop.kernel.connections := by
  have range := hosted.backlog
  rw [queued] at range
  have more : loop.process.server.nextPtr < loop.kernel.connections := by
    apply Nat.lt_of_le_of_ne hosted.connected
    intro same
    rw [same, Nat.sub_self] at range
    cases range
  have count : loop.kernel.connections - loop.process.server.nextPtr =
      loop.kernel.connections - (loop.process.server.nextPtr + 1) + 1 :=
    (Nat.succ_pred_eq_of_pos (Nat.sub_pos_of_lt more)).symm
  rw [count, List.range'_succ] at range
  obtain ⟨first, others⟩ := List.cons.inj range
  exact ⟨first.symm, others, more⟩

theorem accept (hosted : Hosted inherited loop)
    (made : loop.killEventFD = some (handedOut inherited 1))
    (running : loop.process.running = true) {connection : Nat} {rest : List Nat}
    (queued : loop.kernel.backlog = connection :: rest) :
    Hosted inherited (loop.handle codecs
      (.socketServer (.connection (lowest loop.kernel.held)))
      { loop.kernel with
        held := insert (lowest loop.kernel.held) loop.kernel.held
        backlog := rest
        endpoint := Function.update loop.kernel.endpoint (lowest loop.kernel.held)
          (some connection) }) := by
  have opened : loop.opened = loop.process.server.nextPtr + 2 := by
    rw [Loop.opened, made]
  obtain ⟨rfl, others, more⟩ := hosted.next_of_queued queued
  have fd := hosted.lowest_held
  rw [opened] at fd
  have stepped : (Server.machine codecs).step loop.process
      (.socketServer (.connection (lowest loop.kernel.held))) =
      { server := (loop.process.server.makeSocket (lowest loop.kernel.held)).2.addSocketConnection
          loop.process.server.nextPtr
        thrown := none } := step_of_running running _
  have unclosed : ∀ ptr, .closed ptr ∉ (Server.machine codecs).emits loop.process
      (.socketServer (.connection (lowest loop.kernel.held))) := by
    intro ptr
    rw [emits_of_running running]
    simp [react, onSocketServer, makeSocket]
  rw [Loop.handle, stepped, release_of_unclosed _ unclosed]
  refine ⟨hosted.unheld, hosted.master, hosted.listening, Or.inr made, ?_, ?_, others, more,
    ?_, ?_⟩
  · intro number
    simp only [Loop.opened, made]
    rw [hosted.insert_held, opened]
    rfl
  · intro other connection
    change Function.update loop.kernel.endpoint _ _ other = _ ↔
      connection < loop.process.server.nextPtr + 1 ∧ _
    rw [Function.update_apply, fd]
    by_cases last : other = handedOut inherited (loop.process.server.nextPtr + 2)
    · rw [if_pos last, last, handedOut_inj]
      constructor
      · intro same
        rw [← Option.some.inj same]
        exact ⟨Nat.lt_succ_self _, rfl⟩
      · intro given
        rw [Nat.add_right_cancel given.2]
    · rw [if_neg last, hosted.endpoint]
      constructor
      · intro given
        exact ⟨Nat.lt_succ_of_lt given.1, given.2⟩
      · intro given
        refine ⟨Nat.lt_of_le_of_ne (Nat.le_of_lt_succ given.1) ?_, given.2⟩
        rintro rfl
        exact last given.2
  · intro ptr below
    change ((loop.process.server.setSocket loop.process.server.nextPtr _).heap ptr).fd = _
    by_cases last : ptr = loop.process.server.nextPtr
    · rw [last, heap_setSocket_self]
      exact fd
    · rw [heap_setSocket_of_ne _ _ last]
      exact hosted.numbers ptr (Nat.lt_of_le_of_ne (Nat.le_of_lt_succ below) last)
  · intro ptr inside
    rcases Finset.mem_insert.mp inside with rfl | before
    · exact Nat.lt_succ_self _
    · exact Nat.lt_succ_of_lt (hosted.registered ptr before)

theorem handle (hosted : Hosted inherited loop) {event : Event} {kernel : Kernel}
    (same : SameDescriptors loop.kernel kernel) (running : loop.process.running = true)
    (unaccepted : ∀ fd, event ≠ .socketServer (.connection fd))
    (goesOn : ((Server.machine codecs).step loop.process event).running = true) :
    Hosted inherited (loop.handle codecs event kernel) := by
  have steady := steady_of_running running unaccepted goesOn
  have kept : (loop.handle codecs event kernel).kernel = kernel :=
    release_of_unclosed _ steady.unclosed kernel
  have next : (loop.handle codecs event kernel).process.server.nextPtr =
      loop.process.server.nextPtr := steady.nextPtr
  have opened := @opened_handle codecs _ _ kernel running unaccepted goesOn
  refine ⟨hosted.unheld, hosted.master, ?_, ?_, ?_, ?_, ?_, ?_, ?_, ?_⟩
  · rw [kept, same.listening]
    exact hosted.listening
  · rw [next]
    exact hosted.event
  · rw [kept, opened, same.held]
    exact hosted.held
  · rw [kept, next, same.endpoint]
    exact hosted.endpoint
  · rw [kept, next, same.backlog, same.connections]
    exact hosted.backlog
  · rw [kept, next, same.connections]
    exact hosted.connected
  · intro ptr below
    rw [next] at below
    exact (steady.numbers ptr below).trans (hosted.numbers ptr below)
  · intro ptr inside
    rw [next]
    exact hosted.registered ptr (steady.registered ptr inside)

theorem turn (hosted : Hosted inherited loop) (running : loop.process.running = true)
    {turn : Turn} {after : Loop} {events : List Event}
    (turns : Turns codecs loop turn after events) (goesOn : after.process.running = true) :
    Hosted inherited after := by
  cases turns with
  | stops exn process unheld endpoint received =>
      rw [process, Process.running_iff] at goesOn
      cases goesOn.2
  | rests uninterrupted idle => exact hosted.awake
  | reads ready read input =>
      exact hosted.awake.handle (sameDescriptors_stdin loop _) running (by simp) goesOn
  | @accepts result kernel quiet accepted =>
      cases result with
      | error errno =>
          change ((Server.machine codecs).step loop.process _).running = true at goesOn
          rw [step_of_running running, Process.running_iff] at goesOn
          cases goesOn.2
      | ok fd =>
          obtain ⟨connection, rest, queued, _, room, rfl, rfl⟩ := Kernel.accept_eq_ok accepted
          obtain ⟨event, made⟩ := made_of_room loop room
          have number := killEvent_awake hosted made
          rw [number] at made
          exact hosted.awake.accept made running queued
  | serves quiet none registered isOpen waiting =>
      exact hosted.awake.handle ⟨rfl, rfl, rfl, rfl, rfl⟩ running (by simp) goesOn

end Hosted

/-! The loop carries out the machine of the handlers. -/

/-- As long as the loop runs, its process is that of the handlers; what ends it may be an
exception of `wait`, which they do not know of. -/
structure Carries (inherited : Finset Nat) (loop : Loop) (process : Process) : Prop where
  server : loop.process.server = process.server
  unheld : loop.waits = false
  running : loop.process.running = true →
    loop.process = process ∧ Hosted inherited loop

theorem Carries.arrive {loop : Loop} {process : Process}
    (carries : Carries inherited loop process) (arrival : Arrival) :
    Carries inherited { loop with kernel := loop.kernel.arrive arrival } process := by
  refine ⟨carries.server, carries.unheld, ?_⟩
  intro running
  obtain ⟨same, hosted⟩ := carries.running running
  exact ⟨same, hosted.arrive arrival⟩

theorem goesOn_of_unheld {loop : Loop} (unheld : loop.waits = false) :
    loop.goesOn = loop.process.running := by
  rw [goesOn, unheld]
  simp

theorem Turns.process_eq {loop after : Loop} {turn : Turn} {events : List Event}
    (turns : Turns codecs loop turn after events) :
    after.process = (Server.machine codecs).runFrom loop.process events ∨
      events = [] ∧ after.process.server = loop.process.server ∧
        after.process.running = false := by
  cases turns with
  | stops exn process unheld endpoint received =>
      right
      rw [process]
      exact ⟨rfl, rfl, Bool.and_false _⟩
  | rests uninterrupted idle => exact Or.inl rfl
  | reads ready read input => exact Or.inl rfl
  | accepts quiet accepted => exact Or.inl rfl
  | serves quiet none registered isOpen waiting => exact Or.inl rfl

theorem Turns.length_le_one {loop after : Loop} {turn : Turn} {events : List Event}
    (turns : Turns codecs loop turn after events) : events.length ≤ 1 := by
  cases turns with
  | stops exn process unheld endpoint received => exact Nat.zero_le 1
  | rests uninterrupted idle => exact Nat.zero_le 1
  | reads ready read input => exact Nat.le_refl 1
  | accepts quiet accepted => exact Nat.le_refl 1
  | serves quiet none registered isOpen waiting => exact Nat.le_refl 1

theorem Turns.unheld {loop after : Loop} {turn : Turn} {events : List Event}
    (turns : Turns codecs loop turn after events) (before : loop.waits = false) :
    after.waits = false := by
  cases turns with
  | stops exn process unheld endpoint received => exact unheld
  | rests uninterrupted idle => exact before
  | reads ready read input => exact before
  | accepts quiet accepted => exact before
  | serves quiet none registered isOpen waiting => exact before

theorem behind_of_stopped {loop : Loop} (stopped : loop.process.running = false)
    (event : LoopEvent) : loop.behind event = [] := by
  cases event with
  | arrival arrival => rfl
  | turn turn =>
      have stays : loop.goesOn = false := by
        rw [goesOn, stopped]
        rfl
      rw [behind, stays]
      rfl

theorem step_of_stopped {loop : Loop} (stopped : loop.process.running = false)
    (turn : Turn) : loop.step codecs (.turn turn) = loop := by
  have stays : loop.goesOn = false := by
    rw [goesOn, stopped]
    rfl
  rw [step, stays]
  rfl

theorem step_of_goesOn {loop : Loop} (goesOn : loop.goesOn = true) (turn : Turn) :
    loop.step codecs (.turn turn) = loop.turn codecs turn :=
  if_pos goesOn

theorem refines (stdin : stdinFileno ∈ inherited) (limit : Limit) (bindError : Option Nat) :
    (machine codecs inherited limit bindError).Refines (Server.machine codecs) behind
      (Carries inherited) where
  initial := by
    have cases : (start inherited limit bindError).process =
        (Server.machine codecs).initial ∨
        (start inherited limit bindError).process.running = false := by
      unfold start
      split
      · right
        exact Bool.and_false _
      · exact Or.inl rfl
    refine ⟨?_, ?_, ?_⟩
    · change (start inherited limit bindError).process.server = Server.start
      unfold start
      split
      · rfl
      · rfl
    · change (start inherited limit bindError).waits = false
      unfold start
      split
      · rfl
      · rfl
    · intro running
      refine ⟨?_, Hosted.start running⟩
      rcases cases with same | stopped
      · exact same
      · exact absurd (stopped.symm.trans running) Bool.false_ne_true
  step := by
    intro loop process event carries
    change Carries inherited (loop.step codecs event) _
    cases event with
    | arrival arrival => exact carries.arrive arrival
    | turn turn =>
        cases running : loop.process.running with
        | false =>
            rw [step_of_stopped running, behind_of_stopped running]
            exact carries
        | true =>
            obtain ⟨rfl, hosted⟩ := carries.running running
            have goesOn := (goesOn_of_unheld carries.unheld).trans running
            have turns := @turns codecs _ stdin _ hosted turn goesOn
            rw [step_of_goesOn goesOn]
            have unheld := turns.unheld carries.unheld
            rcases turns.process_eq with same | ⟨none, server, stopped⟩
            · exact ⟨by rw [same], unheld, fun active =>
                ⟨same, hosted.turn running turns active⟩⟩
            · rw [none]
              refine ⟨server, unheld, ?_⟩
              intro active
              exact absurd (stopped.symm.trans active) Bool.false_ne_true
  emits := by
    intro loop process event carries
    change (Server.machine codecs).traceFrom loop.process (loop.behind event) = _
    cases running : loop.process.running with
    | false =>
        rw [behind_of_stopped running]
        rfl
    | true => rw [(carries.running running).1]

theorem Turns.connection {loop after : Loop} (hosted : Hosted inherited loop) {turn : Turn}
    {events : List Event} (turns : Turns codecs loop turn after events) {fd : Nat}
    (inside : .socketServer (.connection fd) ∈ events) :
    fd = handedOut inherited (loop.process.server.nextPtr + 2) := by
  cases turns with
  | stops exn process unheld endpoint received => exact absurd inside List.not_mem_nil
  | rests uninterrupted idle => exact absurd inside List.not_mem_nil
  | reads ready read input => cases List.mem_singleton.mp inside
  | @accepts result kernel quiet accepted =>
      have same := List.mem_singleton.mp inside
      cases result with
      | error errno => cases same
      | ok given =>
          cases same
          obtain ⟨connection, rest, _, _, room, rfl, _⟩ := Kernel.accept_eq_ok accepted
          obtain ⟨event, made⟩ := made_of_room loop room
          have lowest := hosted.awake.lowest_held
          rw [opened, made] at lowest
          exact lowest
  | serves quiet none registered isOpen waiting => cases List.mem_singleton.mp inside

theorem startup (inherited : Finset Nat) :
    Startup inherited (lowest inherited) (lowest (insert (lowest inherited) inherited)) :=
  ⟨isLeast_lowest inherited, isLeast_lowest _⟩

def handled (codecs : Codecs) (inherited : Finset Nat) (limit : Limit)
    (bindError : Option Nat) (events : List LoopEvent) : List Event :=
  ((machine codecs inherited limit bindError).observing behind).trace events

theorem carries_run (stdin : stdinFileno ∈ inherited) (limit : Limit) (bindError : Option Nat)
    (events : List LoopEvent) :
    Carries inherited ((machine codecs inherited limit bindError).run events)
      ((Server.machine codecs).run (handled codecs inherited limit bindError events)) :=
  (refines stdin limit bindError).run events

theorem behind_length_le_one (stdin : stdinFileno ∈ inherited) {loop : Loop}
    {process : Process} (carries : Carries inherited loop process) (event : LoopEvent) :
    (loop.behind event).length ≤ 1 := by
  cases running : loop.process.running with
  | false =>
      rw [behind_of_stopped running]
      exact Nat.zero_le 1
  | true =>
      cases event with
      | arrival arrival => exact Nat.zero_le 1
      | turn turn =>
          have goesOn := (goesOn_of_unheld carries.unheld).trans running
          have hosted := (carries.running running).2
          exact (@turns Codecs.compact _ stdin _ hosted turn goesOn).length_le_one

theorem connection_of_behind (stdin : stdinFileno ∈ inherited) {loop : Loop}
    {process : Process} (carries : Carries inherited loop process) {event : LoopEvent}
    {fd : Nat} (inside : .socketServer (.connection fd) ∈ loop.behind event) :
    fd = handedOut inherited (process.server.nextPtr + 2) := by
  cases running : loop.process.running with
  | false =>
      rw [behind_of_stopped running] at inside
      exact absurd inside List.not_mem_nil
  | true =>
      obtain ⟨rfl, hosted⟩ := carries.running running
      cases event with
      | arrival arrival => exact absurd inside List.not_mem_nil
      | turn turn =>
          have goesOn := (goesOn_of_unheld carries.unheld).trans running
          exact (@turns Codecs.compact _ stdin _ hosted turn goesOn).connection hosted inside

theorem meets_acceptsLowest (stdin : stdinFileno ∈ inherited) (limit : Limit)
    (bindError : Option Nat) (events : List LoopEvent) :
    (Server.machine codecs).Meets (AcceptsLowest inherited (lowest inherited)
      (lowest (insert (lowest inherited) inherited)))
      (handled codecs inherited limit bindError events) := by
  induction events using List.reverseRecOn with
  | nil => exact Machine.Meets.nil
  | append_singleton events event ih =>
      have carries := @carries_run codecs _ stdin limit bindError events
      apply Machine.Refines.meets_concat_of_one ih (behind_length_le_one stdin carries event)
      intro other inside
      cases other with
      | socket ptr recv now writes => exact trivial
      | stdin line => exact trivial
      | socketServer accepted =>
          cases accepted with
          | failed errno => exact trivial
          | connection fd =>
              intro active
              have numbered := numbered_run (startup inherited) ih active
              apply (isLeast_free_iff (numbered.mem_held (startup inherited)) fd).mpr
              exact connection_of_behind stdin carries inside

/-- Every run of the loop of `start` is a run of the handlers, with the descriptors that
the kernel hands out, and only `select` ever waits for something to read. -/
theorem loop_runs_handlers (stdin : stdinFileno ∈ inherited) (limit : Limit)
    (bindError : Option Nat) (events : List LoopEvent) :
    (machine codecs inherited limit bindError).trace events =
        (Server.machine codecs).trace (handled codecs inherited limit bindError events) ∧
      ((machine codecs inherited limit bindError).run events).process.server =
        ((Server.machine codecs).run (handled codecs inherited limit bindError events)).server ∧
      ((machine codecs inherited limit bindError).run events).waits = false ∧
      (Server.machine codecs).Meets (AcceptsLowest inherited (lowest inherited)
        (lowest (insert (lowest inherited) inherited)))
        (handled codecs inherited limit bindError events) := by
  have carries := @carries_run codecs _ stdin limit bindError events
  exact ⟨(refines stdin limit bindError).trace events, carries.server, carries.unheld,
    meets_acceptsLowest stdin limit bindError events⟩

/-! Two clients connect to a server that has inherited the standard streams. -/

def twoConnect : List LoopEvent :=
  [.arrival .connects, .turn .plain, .arrival .connects, .turn .plain]

theorem handled_twoConnect :
    handled Codecs.compact (Finset.range 3) 1024 none twoConnect =
      [.socketServer (.connection 5), .socketServer (.connection 6)] := by
  rfl

theorem twoConnect_runs_handlers :
    (machine Codecs.compact (Finset.range 3) 1024 none).trace twoConnect =
        (Server.machine Codecs.compact).trace
          [.socketServer (.connection 5), .socketServer (.connection 6)] ∧
      (Server.machine Codecs.compact).Meets (AcceptsLowest (Finset.range 3) 3 4)
        [.socketServer (.connection 5), .socketServer (.connection 6)] := by
  have runs := @loop_runs_handlers Codecs.compact (Finset.range 3) (by decide) 1024 none
    twoConnect
  rw [handled_twoConnect] at runs
  exact ⟨runs.1, runs.2.2.2⟩

end AndroidMessenger.Server.Loop
