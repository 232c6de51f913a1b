import AndroidMessenger.Msg.Compact
import AndroidMessenger.Server.Registry

namespace AndroidMessenger.Server

open Library Msg Networking

variable {codecs : Codecs}

/-! The list of the server and the set of the waiter against what was accepted and
what was read. -/

/-- The sockets that were accepted, in that order. -/
def acceptedSockets (trace : List Action) : List SocketPtr :=
  trace.filterMap fun
    | .accepted ptr => some ptr
    | _ => none

theorem acceptedSockets_append (first second : List Action) :
    acceptedSockets (first ++ second) = acceptedSockets first ++ acceptedSockets second :=
  List.filterMap_append

/-- The socket, if any, on which the read of the event returns 0. -/
def readsZero (process : Process) : Event → List SocketPtr
  | .socket ptr recv _ _ =>
      if process.running = true ∧ ptr ∈ process.server.flexWaiter.sockets ∧
          ((process.server.heap ptr).read recv).1 = .disconnected then [ptr]
      else []
  | _ => []

/-- The sockets on which a read of the run has returned 0. -/
def zeroReads (codecs : Codecs) (events : List Event) : List SocketPtr :=
  ((machine codecs).observing readsZero).trace events

/-- The list holds the accepted sockets but those that were shut down, in order and
once each, and the set has the same members. -/
structure Containers (accepted shut : List SocketPtr) (server : Server) : Prop where
  list : server.socketList = accepted.filter fun ptr => ptr ∉ shut
  nodup : server.socketList.Nodup
  waiter : ∀ ptr, ptr ∈ server.flexWaiter.sockets ↔ ptr ∈ server.socketList

/-- What carries the containers from event to event: no pointer is handed out twice,
and only accepted sockets are read. -/
structure InStep (accepted shut : List SocketPtr) (server : Server) : Prop
    extends Containers accepted shut server where
  fresh : ∀ ptr ∈ accepted, ptr < server.nextPtr
  known : ∀ ptr ∈ shut, ptr ∈ accepted

namespace InStep

variable {accepted shut : List SocketPtr} {server : Server}

theorem initial : InStep [] [] start where
  list := rfl
  nodup := List.nodup_nil
  waiter := by simp [start]
  fresh := by simp
  known := by simp

theorem frame (held : InStep accepted shut server) {after : Server}
    (socketList : after.socketList = server.socketList)
    (flexWaiter : after.flexWaiter = server.flexWaiter)
    (nextPtr : after.nextPtr = server.nextPtr) : InStep accepted shut after where
  list := socketList.trans held.list
  nodup := socketList ▸ held.nodup
  waiter := by simpa [socketList, flexWaiter] using held.waiter
  fresh := by simpa [nextPtr] using held.fresh
  known := held.known

theorem accept (held : InStep accepted shut server) (fd : Nat) :
    InStep (accepted ++ [server.nextPtr]) shut
      ((server.makeSocket fd).2.addSocketConnection server.nextPtr) := by
  have unused : server.nextPtr ∉ accepted := fun inside =>
    Nat.lt_irrefl _ (held.fresh _ inside)
  have alive : server.nextPtr ∉ shut := fun inside => unused (held.known _ inside)
  have unlisted : server.nextPtr ∉ server.socketList := by
    rw [held.list]
    intro inside
    exact unused (List.mem_filter.mp inside).1
  refine ⟨⟨?_, ?_, ?_⟩, ?_, ?_⟩
  · change server.socketList ++ [server.nextPtr] = _
    rw [List.filter_append, ← held.list]
    simp [alive]
  · change (server.socketList ++ [server.nextPtr]).Nodup
    rw [List.nodup_append]
    refine ⟨held.nodup, by simp, ?_⟩
    intro ptr inside other last
    rw [List.mem_singleton.mp last]
    intro same
    subst same
    exact unlisted inside
  · intro ptr
    change ptr ∈ insert server.nextPtr server.flexWaiter.sockets ↔
      ptr ∈ server.socketList ++ [server.nextPtr]
    rw [Finset.mem_insert, held.waiter, List.mem_append, List.mem_singleton, or_comm]
  · intro ptr inside
    change ptr < server.nextPtr + 1
    rcases List.mem_append.mp inside with before | last
    · exact Nat.lt_succ_of_lt (held.fresh ptr before)
    · rw [List.mem_singleton.mp last]
      exact Nat.lt_succ_self _
  · intro ptr inside
    exact List.mem_append_left _ (held.known ptr inside)

theorem remove (held : InStep accepted shut server) {ptr : SocketPtr}
    (registered : ptr ∈ server.flexWaiter.sockets) :
    InStep accepted (shut ++ [ptr]) (server.removeSocketConnection ptr).server := by
  have listed : ptr ∈ server.socketList := (held.waiter ptr).mp registered
  refine ⟨⟨?_, ?_, ?_⟩, ?_, ?_⟩
  · rw [socketList_removeSocketConnection, held.list, List.filter_filter]
    apply List.filter_congr
    intro other _
    simp [and_comm]
  · rw [socketList_removeSocketConnection]
    exact held.nodup.filter _
  · intro other
    rw [sockets_removeSocketConnection, socketList_removeSocketConnection,
      Finset.mem_erase, held.waiter, List.mem_filter, and_comm]
    simp
  · exact held.fresh
  · intro other inside
    rcases List.mem_append.mp inside with before | last
    · exact held.known other before
    · rw [List.mem_singleton.mp last]
      rw [held.list] at listed
      exact (List.mem_filter.mp listed).1

end InStep

theorem read_eq_disconnected_iff (sock : Socket) (recv : Recv) :
    (sock.read recv).1 = .disconnected ↔ sock.isOpen = true ∧ recv = .shutdown := by
  unfold Socket.read
  cases sock.isOpen with
  | false => simp
  | true =>
      cases recv with
      | failed => simp
      | shutdown => simp
      | data chunk =>
          cases hstored : chunk.stored with
          | none => simp [hstored]
          | some str => simp [hstored]

/-! Only an accepted connection, a read that returns 0 and an exit line move a
socket. -/

/-- The action is neither about accepting nor about removing a socket. -/
def speaks : Action → Bool
  | .accepted _ => false
  | .answered .. => true
  | .wrote .. => true
  | .removed _ => false
  | .closed _ => false

theorem acceptedSockets_of_speaks {trace : List Action}
    (talk : ∀ action ∈ trace, speaks action = true) : acceptedSockets trace = [] := by
  apply List.filterMap_eq_nil_iff.mpr
  intro action inside
  cases action with
  | accepted ptr => exact absurd (talk _ inside) Bool.false_ne_true
  | answered ptr json res => rfl
  | wrote ptr text outcome => rfl
  | removed ptr => rfl
  | closed ptr => rfl

structure Quiet (server : Server) (reaction : Reaction) : Prop where
  socketList : reaction.server.socketList = server.socketList
  flexWaiter : reaction.server.flexWaiter = server.flexWaiter
  nextPtr : reaction.server.nextPtr = server.nextPtr
  talk : ∀ action ∈ reaction.actions, speaks action = true

theorem Quiet.refl (server : Server) (thrown : Option Exn) :
    Quiet server { server, actions := [], thrown } :=
  ⟨rfl, rfl, rfl, fun _ inside => absurd inside List.not_mem_nil⟩

theorem onSocket_quiet {ptr : SocketPtr} {recv : Recv} {server : Server}
    (read : ((server.heap ptr).read recv).1 ≠ .disconnected) (now : TimePoint)
    (writes : Nat → WriteOutcome) :
    Quiet server (server.onSocket codecs ptr recv now writes) := by
  rcases onSocket_cases codecs ptr recv now writes server with
    ⟨chunk, str, json, res, granted, _, _, _, responded, reaction⟩ |
    ⟨shut, opened, _⟩ | ⟨sock, thrown, _, reaction⟩
  · obtain ⟨_, _, call, _, dispatched⟩ := respond_eq_ok_iff.mp responded
    have frame := dispatch_frame dispatched
    have same := broadcast_sameTables codecs writes res granted
    rw [reaction]
    refine ⟨?_, ?_, ?_, ?_⟩
    · exact same.socketList.trans (by rw [frame])
    · exact same.flexWaiter.trans (by rw [frame])
    · exact same.nextPtr.trans (by rw [frame])
    · intro action inside
      rcases List.mem_cons.mp inside with rfl | inside
      · rfl
      · rw [broadcast_eq_writeLoop] at inside
        obtain ⟨_, _, _, rfl, _⟩ := wrote_of_mem_writeLoop _ _ _ _ _ _ inside
        rfl
  · exact absurd ((read_eq_disconnected_iff _ _).mpr ⟨opened, shut⟩) read
  · rw [reaction]
    exact ⟨rfl, rfl, rfl, fun _ inside => absurd inside List.not_mem_nil⟩

theorem readsZero_of_stopped {process : Process} (stopped : process.running = false)
    (event : Event) : readsZero process event = [] := by
  cases event <;> simp [readsZero, stopped]

theorem moves_cases (codecs : Codecs) {process : Process} (running : process.running = true)
    (event : Event) :
    (∃ fd, event = .socketServer (.connection fd)) ∨ event = .stdin "exit" ∨
    (∃ ptr now writes, event = .socket ptr .shutdown now writes ∧
      ptr ∈ process.server.flexWaiter.sockets ∧
      (process.server.heap ptr).isOpen = true ∧ readsZero process event = [ptr] ∧
      process.server.react codecs event = (process.server.setSocket ptr
        { process.server.heap ptr with isOpen := false }).removeSocketConnection ptr) ∨
    (readsZero process event = [] ∧
      Quiet process.server (process.server.react codecs event)) := by
  cases event with
  | socketServer outcome =>
      cases outcome with
      | connection fd => exact Or.inl ⟨fd, rfl⟩
      | failed errno => exact Or.inr (Or.inr (Or.inr ⟨rfl, Quiet.refl _ _⟩))
  | stdin line =>
      right
      by_cases exit : line = "exit"
      · exact Or.inl (by rw [exit])
      · right
        right
        rw [react, onSTDIN, if_neg exit]
        exact ⟨rfl, Quiet.refl _ _⟩
  | socket ptr recv now writes =>
      right
      right
      by_cases registered : ptr ∈ process.server.flexWaiter.sockets
      · rw [react, if_pos registered]
        by_cases read :
            ((process.server.heap ptr).read recv).1 = Socket.ReadResult.disconnected
        · left
          obtain ⟨opened, rfl⟩ := (read_eq_disconnected_iff _ _).mp read
          exact ⟨ptr, now, writes, rfl, registered, opened,
            if_pos ⟨running, registered, read⟩, onSocket_of_shutdown opened now writes⟩
        · right
          exact ⟨if_neg fun given => read given.2.2, onSocket_quiet read now writes⟩
      · right
        rw [react, if_neg registered]
        exact ⟨if_neg fun given => registered given.2.1, Quiet.refl _ _⟩

theorem acceptedSockets_removal (server : Server) (ptr : SocketPtr) :
    acceptedSockets (server.removeSocketConnection ptr).actions = [] := by
  apply List.filterMap_eq_nil_iff.mpr
  intro action inside
  rcases mem_actions_removeSocketConnection _ _ inside with rfl | rfl
  · rfl
  · rfl

theorem InStep.step {accepted shut : List SocketPtr} {process : Process}
    (held : InStep accepted shut process.server) {event : Event}
    (noExit : event ≠ .stdin "exit") :
    InStep (accepted ++ acceptedSockets ((machine codecs).emits process event))
      (shut ++ readsZero process event) ((machine codecs).step process event).server := by
  cases running : process.running with
  | false =>
      rw [step_of_stopped running, emits_of_stopped running, readsZero_of_stopped running]
      simpa [acceptedSockets] using held
  | true =>
      rw [step_of_running running, emits_of_running running]
      rcases moves_cases codecs running event with ⟨fd, rfl⟩ | exit |
        ⟨ptr, now, writes, rfl, registered, _, read, removal⟩ | ⟨unread, quiet⟩
      · change InStep _ (shut ++ []) _
        rw [List.append_nil]
        exact held.accept fd
      · exact absurd exit noExit
      · rw [read, removal, acceptedSockets_removal, List.append_nil]
        have closed := @InStep.frame _ _ _ held (process.server.setSocket ptr
          { process.server.heap ptr with isOpen := false }) rfl rfl rfl
        exact closed.remove registered
      · rw [unread, acceptedSockets_of_speaks quiet.talk, List.append_nil, List.append_nil]
        exact held.frame quiet.socketList quiet.flexWaiter quiet.nextPtr

theorem inStep (codecs : Codecs) {events : List Event}
    (noExit : Event.stdin "exit" ∉ events) :
    InStep (acceptedSockets ((machine codecs).trace events)) (zeroReads codecs events)
      ((machine codecs).run events).server := by
  induction events using List.reverseRecOn with
  | nil => exact InStep.initial
  | append_singleton events event ih =>
      obtain ⟨before, last⟩ : Event.stdin "exit" ∉ events ∧ event ≠ .stdin "exit" := by
        simpa [eq_comm] using noExit
      rw [Machine.trace_concat, acceptedSockets_append, zeroReads, Machine.observing_concat,
        Machine.run_concat]
      exact (ih before).step last

/-- Until an exit line is read the list holds the accepted sockets on which no read
has returned 0, in accept order and once each, the set has the same members, and every
event keeps it so. -/
theorem containers_until_exit (codecs : Codecs) (events : List Event)
    (noExit : Event.stdin "exit" ∉ events) :
    Containers (acceptedSockets ((machine codecs).trace events)) (zeroReads codecs events)
        ((machine codecs).run events).server ∧
      ∀ accepted shut process event, event ≠ .stdin "exit" →
        InStep accepted shut process.server →
        InStep (accepted ++ acceptedSockets ((machine codecs).emits process event))
          (shut ++ readsZero process event)
          ((machine codecs).step process event).server :=
  ⟨(inStep codecs noExit).toContainers, fun _ _ _ _ other held => held.step other⟩

/-! Two connections, the first of which ends. -/

def firstLeaves : List Event :=
  [.socketServer (.connection 5), .socketServer (.connection 6),
    .socket 0 .shutdown 0 fun _ => .whole]

theorem containers_firstLeaves :
    Containers (acceptedSockets ((machine Codecs.compact).trace firstLeaves))
        (zeroReads Codecs.compact firstLeaves)
        ((machine Codecs.compact).run firstLeaves).server ∧
      acceptedSockets ((machine Codecs.compact).trace firstLeaves) = [0, 1] ∧
      zeroReads Codecs.compact firstLeaves = [0] := by
  refine ⟨(containers_until_exit Codecs.compact firstLeaves ?_).1, ?_, ?_⟩
  · simp [firstLeaves]
  · decide
  · decide

end AndroidMessenger.Server
