import AndroidMessenger.Networking.Descriptor
import AndroidMessenger.Server.Containers
import AndroidMessenger.Server.Exit

namespace AndroidMessenger.Server

open Library Msg Networking

variable {codecs : Codecs}

/-! The descriptors of the sockets that the server has removed. -/

def ReleasesRemoved (codecs : Codecs) (events : List Event) : Prop :=
  ∀ ptr, .removed ptr ∈ (machine codecs).trace events →
    .closed ptr ∈ (machine codecs).trace events

/-- No read of the event returns 0, and what an exit line removes is open. -/
def RemovesOpen (_ : List Action) (process : Process) (event : Event) : Prop :=
  readsZero process event = [] ∧
    (process.running = true → event = .stdin "exit" →
      ∀ ptr ∈ visitedOf process.server.socketList,
        (process.server.heap ptr).isOpen = true)

theorem closed_mem_removal_iff (server : Server) (ptr : SocketPtr) :
    .closed ptr ∈ (server.removeSocketConnection ptr).actions ↔
      (server.heap ptr).isOpen = true := by
  cases opened : (server.heap ptr).isOpen with
  | false => simp [removeSocketConnection, Socket.destroy, opened]
  | true => simp [removeSocketConnection, Socket.destroy, Socket.close, opened]

theorem removed_mem_exit_iff {server : Server} (nodup : server.socketList.Nodup)
    (ptr : SocketPtr) :
    .removed ptr ∈ (server.onSTDIN "exit").actions ↔ ptr ∈ visitedOf server.socketList := by
  rw [(onSTDIN_exit_spec nodup).2, List.mem_flatMap]
  constructor
  · intro given
    rcases given with ⟨other, visited, inside⟩
    rcases mem_actions_removeSocketConnection _ _ inside with same | same
    · cases same
      exact visited
    · cases same
  · intro visited
    exact ⟨ptr, visited, removed_mem_actions server ptr⟩

theorem closed_mem_exit_iff {server : Server} (nodup : server.socketList.Nodup)
    (ptr : SocketPtr) :
    .closed ptr ∈ (server.onSTDIN "exit").actions ↔
      ptr ∈ visitedOf server.socketList ∧ (server.heap ptr).isOpen = true := by
  rw [(onSTDIN_exit_spec nodup).2, List.mem_flatMap]
  constructor
  · intro given
    rcases given with ⟨other, visited, inside⟩
    rcases mem_actions_removeSocketConnection _ _ inside with same | same
    · cases same
    · cases same
      exact ⟨visited, (closed_mem_removal_iff server ptr).mp inside⟩
  · intro given
    rcases given with ⟨visited, opened⟩
    exact ⟨ptr, visited, (closed_mem_removal_iff server ptr).mpr opened⟩

theorem Quiet.keeps {server : Server} {reaction : Reaction} (quiet : Quiet server reaction)
    (ptr : SocketPtr) :
    .removed ptr ∉ reaction.actions ∧ .closed ptr ∉ reaction.actions :=
  ⟨fun removed => Bool.false_ne_true (quiet.talk _ removed),
    fun closed => Bool.false_ne_true (quiet.talk _ closed)⟩

theorem listed_of_removed (codecs : Codecs) {process : Process}
    (running : process.running = true) (nodup : process.server.socketList.Nodup)
    (waiter : ∀ ptr, ptr ∈ process.server.flexWaiter.sockets ↔
      ptr ∈ process.server.socketList) {event : Event} {ptr : SocketPtr}
    (removed : .removed ptr ∈ (process.server.react codecs event).actions) :
    ptr ∈ process.server.socketList := by
  rcases moves_cases codecs running event with ⟨fd, rfl⟩ | rfl |
    ⟨gone, now, writes, rfl, registered, _, _, removal⟩ | ⟨_, quiet⟩
  · simp [react, onSocketServer] at removed
  · exact mem_of_mem_visitedOf ((removed_mem_exit_iff nodup ptr).mp removed)
  · rw [removal] at removed
    rcases mem_actions_removeSocketConnection _ _ removed with same | same
    · cases same
      exact (waiter ptr).mp registered
    · cases same
  · exact absurd removed (quiet.keeps ptr).1

theorem removed_iff_closed (codecs : Codecs) {process : Process}
    (running : process.running = true) (nodup : process.server.socketList.Nodup)
    (event : Event) :
    (∀ ptr, .closed ptr ∈ (process.server.react codecs event).actions →
      .removed ptr ∈ (process.server.react codecs event).actions) ∧
    ((∀ ptr, .removed ptr ∈ (process.server.react codecs event).actions →
        .closed ptr ∈ (process.server.react codecs event).actions) ↔
      RemovesOpen [] process event) := by
  rcases moves_cases codecs running event with ⟨fd, rfl⟩ | rfl |
    ⟨ptr, now, writes, rfl, _, _, read, removal⟩ | ⟨unread, quiet⟩
  · simp [react, onSocketServer, RemovesOpen, readsZero]
  · rw [react]
    simp only [closed_mem_exit_iff nodup, removed_mem_exit_iff nodup]
    refine ⟨fun ptr closed => closed.1, ?_⟩
    constructor
    · intro closes
      exact ⟨rfl, fun _ _ ptr visited => (closes ptr visited).2⟩
    · intro removes ptr visited
      exact ⟨visited, removes.2 running rfl ptr visited⟩
  · have unclosed : ∀ other, .closed other ∉ (process.server.react codecs
        (.socket ptr .shutdown now writes)).actions := by
      intro other
      rw [removal]
      simp [removeSocketConnection, Socket.destroy]
    refine ⟨fun other closed => absurd closed (unclosed other), ?_⟩
    constructor
    · intro closes
      apply absurd (closes ptr _) (unclosed ptr)
      rw [removal]
      exact removed_mem_actions _ ptr
    · intro removes
      rw [RemovesOpen, read] at removes
      exact absurd removes.1 (by simp)
  · refine ⟨fun ptr closed => absurd closed (quiet.keeps ptr).2, ?_⟩
    constructor
    · intro _
      refine ⟨unread, ?_⟩
      intro _ same ptr visited
      subst same
      have removed := (removed_mem_exit_iff nodup ptr).mpr visited
      exact absurd removed (quiet.keeps ptr).1
    · intro _ ptr removed
      exact absurd removed (quiet.keeps ptr).1

theorem removed_iff_closed_emits (codecs : Codecs) (events : List Event) (event : Event) :
    (∀ ptr, .closed ptr ∈ (machine codecs).emits ((machine codecs).run events) event →
      .removed ptr ∈ (machine codecs).emits ((machine codecs).run events) event) ∧
    ((∀ ptr, .removed ptr ∈ (machine codecs).emits ((machine codecs).run events) event →
        .closed ptr ∈ (machine codecs).emits ((machine codecs).run events) event) ↔
      RemovesOpen ((machine codecs).trace events) ((machine codecs).run events) event) := by
  cases running : ((machine codecs).run events).running with
  | false =>
      rw [emits_of_stopped running]
      simp [RemovesOpen, readsZero_of_stopped running, running]
  | true =>
      rw [emits_of_running running]
      exact removed_iff_closed codecs running (registry codecs events).nodup event

theorem removed_of_closed (codecs : Codecs) (events : List Event) (ptr : SocketPtr)
    (closed : .closed ptr ∈ (machine codecs).trace events) :
    .removed ptr ∈ (machine codecs).trace events := by
  induction events using List.reverseRecOn with
  | nil => exact absurd closed List.not_mem_nil
  | append_singleton events event ih =>
      rw [Machine.trace_concat, List.mem_append] at closed ⊢
      rcases closed with before | last
      · exact Or.inl (ih before)
      · exact Or.inr ((removed_iff_closed_emits codecs events event).1 ptr last)

theorem removed_once (codecs : Codecs) (events : List Event) {event : Event}
    {ptr : SocketPtr}
    (removed : .removed ptr ∈ (machine codecs).emits ((machine codecs).run events) event) :
    .removed ptr ∉ (machine codecs).trace events := by
  have tables := registry codecs events
  obtain ⟨running, inside⟩ := mem_emits removed
  have listed := listed_of_removed codecs running tables.nodup tables.waiter inside
  exact ((tables.listed ptr).mp listed).2

/-- The descriptors of removed sockets are all released exactly when every step removes
open sockets only. -/
theorem releasesRemoved_iff (codecs : Codecs) (events : List Event) :
    ReleasesRemoved codecs events ↔ (machine codecs).Meets RemovesOpen events := by
  induction events using List.reverseRecOn with
  | nil =>
      refine ⟨fun _ => Machine.Meets.nil, ?_⟩
      intro _ ptr removed
      exact absurd removed List.not_mem_nil
  | append_singleton events event ih =>
      obtain ⟨_, step⟩ := removed_iff_closed_emits codecs events event
      constructor
      · intro releases
        refine (ih.mp ?_).concat (step.mp ?_)
        · intro ptr removed
          have closed := releases ptr (by
            rw [Machine.trace_concat]
            exact List.mem_append_left _ removed)
          rw [Machine.trace_concat, List.mem_append] at closed
          rcases closed with before | last
          · exact before
          · have again := (removed_iff_closed_emits codecs events event).1 ptr last
            exact absurd removed (removed_once codecs events again)
        · intro ptr removed
          have closed := releases ptr (by
            rw [Machine.trace_concat]
            exact List.mem_append_right _ removed)
          rw [Machine.trace_concat, List.mem_append] at closed
          rcases closed with before | last
          · have earlier := removed_of_closed codecs events ptr before
            exact absurd earlier (removed_once codecs events removed)
          · exact last
      · intro meets ptr removed
        rw [Machine.trace_concat, List.mem_append] at removed ⊢
        rcases removed with before | last
        · exact Or.inl (ih.mpr meets.of_concat ptr before)
        · exact Or.inr (step.mpr meets.last ptr last)

/-- A socket is closed exactly once, and the server holds no descriptor of a socket
that it has removed, exactly as long as no flag is cleared by a failed call. -/
theorem descriptors_released_iff (fd : Nat) (operations : List Operation)
    (codecs : Codecs) (events : List Event) :
    (Descriptor.ClosedOnce fd operations ↔ Descriptor.Graceful operations) ∧
      (ReleasesRemoved codecs events ↔ (machine codecs).Meets RemovesOpen events) :=
  ⟨Descriptor.closedOnce_iff fd operations, releasesRemoved_iff codecs events⟩

theorem shutdown_leaks_descriptor :
    ¬ Descriptor.ClosedOnce 5 [.read .shutdown] ∧
      ¬ ReleasesRemoved Codecs.compact [.socketServer (.connection 5),
        .socket 0 .shutdown 0 fun _ => .whole] := by
  refine ⟨?_, ?_⟩
  · intro closed
    exact absurd closed.once (by decide)
  · intro releases
    exact absurd (releases 0 (by decide)) (by decide)

end AndroidMessenger.Server
