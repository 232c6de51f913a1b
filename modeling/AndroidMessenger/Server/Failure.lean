import AndroidMessenger.Server.Names

namespace AndroidMessenger.Server

open Library Msg Networking

variable {codecs : Codecs}

/-! System calls that fail for one client, and what it would take for the other
clients not to notice. -/

/-- A call of `recv` or `::write` on the socket fails in the reaction. -/
def FailsFor (codecs : Codecs) (server : Server) (event : Event) (ptr : SocketPtr) :
    Prop :=
  (∃ now writes, event = .socket ptr .failed now writes ∧
    ptr ∈ server.flexWaiter.sockets ∧ (server.heap ptr).isOpen = true) ∨
  ∃ text outcome, .wrote ptr text outcome ∈ (server.react codecs event).actions ∧
    outcome.delivered (Utf8.encode text) ≠ Utf8.encode text

def SystemCallFails (codecs : Codecs) (server : Server) (event : Event) : Prop :=
  (∃ errno, event = .socketServer (.failed errno)) ∨
    ∃ ptr, FailsFor codecs server event ptr

def ReceivesAll (codecs : Codecs) (process : Process) (event : Event)
    (ptr : SocketPtr) : Prop :=
  ∀ asker json res, .answered asker json res ∈ (machine codecs).emits process event →
    ∃ text outcome, Json.toText codecs (res.toJson codecs) false = .ok text ∧
      .wrote ptr text outcome ∈ (machine codecs).emits process event ∧
      outcome.delivered (Utf8.encode text) = Utf8.encode text

def FaultFree (codecs : Codecs) (process : Process) (events : List Event) : Prop :=
  ∀ before event after, events = before ++ event :: after →
    ¬ SystemCallFails codecs ((machine codecs).runFrom process before).server event

/-- The step survives the failure and drops the failed socket.  The other open
sockets get this response and, as long as no further call fails and they stay
listed, every later one. -/
structure Tolerates (codecs : Codecs) (process : Process) (event : Event) : Prop where
  returns : ((machine codecs).step process event).thrown = none
  drops : ∀ ptr, FailsFor codecs process.server event ptr →
    ptr ∉ ((machine codecs).step process event).server.socketList ∧
      ptr ∉ ((machine codecs).step process event).server.flexWaiter.sockets
  serves : ∀ ptr ∈ process.server.socketList, (process.server.heap ptr).isOpen = true →
    ¬ FailsFor codecs process.server event ptr →
    ReceivesAll codecs process event ptr ∧
      ∀ later next,
        FaultFree codecs ((machine codecs).step process event) (later ++ [next]) →
        ptr ∈ ((machine codecs).runFrom ((machine codecs).step process event)
          later).server.socketList →
        ReceivesAll codecs ((machine codecs).runFrom
          ((machine codecs).step process event) later) next ptr

theorem listed_of_failsFor {server : Server} {event : Event} {ptr : SocketPtr}
    (fails : FailsFor codecs server event ptr) :
    ptr ∈ (server.react codecs event).server.socketList ∨
      ptr ∈ (server.react codecs event).server.flexWaiter.sockets := by
  rcases fails with ⟨now, writes, rfl, registered, opened⟩ | ⟨text, outcome, inside, _⟩
  · right
    rw [react, if_pos registered, onSocket_of_failed opened]
    exact registered
  · left
    obtain ⟨listed, same, _⟩ := answered_of_wrote inside
    rw [same]
    exact listed

theorem not_tolerates (codecs : Codecs) (events : List Event) (event : Event)
    (running : ((machine codecs).run events).running = true)
    (fails : SystemCallFails codecs ((machine codecs).run events).server event) :
    ¬ Tolerates codecs ((machine codecs).run events) event := by
  intro tolerates
  have step := @step_of_running codecs _ running event
  rcases fails with ⟨errno, rfl⟩ | ⟨ptr, fails⟩
  · have returns := tolerates.returns
    rw [step] at returns
    cases returns
  · obtain ⟨unlisted, unwatched⟩ := tolerates.drops ptr fails
    rw [step] at unlisted unwatched
    rcases listed_of_failsFor fails with listed | watched
    · exact unlisted listed
    · exact unwatched watched

theorem not_tolerates_partial_write :
    ¬ Tolerates Codecs.compact
      ((machine Codecs.compact).run [.socketServer (.connection 5)])
      (.socket 0 (.data bobChunk) 0 fun _ => .short 3) := by
  apply not_tolerates Codecs.compact
  · rfl
  · refine Or.inr ⟨0, Or.inr ⟨bobGranted.text Codecs.compact, .short 3, ?_, ?_⟩⟩
    · have connected : (machine Codecs.compact).run [.socketServer (.connection 5)] =
          { server := (start.makeSocket 5).2.addSocketConnection 0, thrown := none } := rfl
      rw [connected, react_of_unfailed (visit_bob (by decide) (by decide)) 0 (by simp)
        (visitLogin_of_notMem 0 (by decide)) (by decide)]
      exact List.mem_cons_of_mem _ List.mem_cons_self
    · decide +kernel

theorem failed_socket_stays_registered :
    SystemCallFails Codecs.compact
        ((machine Codecs.compact).run [.socketServer (.connection 5)]).server
        (.socket 0 .failed 0 fun _ => .whole) ∧
      ¬ Tolerates Codecs.compact
        ((machine Codecs.compact).run [.socketServer (.connection 5)])
        (.socket 0 .failed 0 fun _ => .whole) := by
  have fails : FailsFor Codecs.compact
      ((machine Codecs.compact).run [.socketServer (.connection 5)]).server
      (.socket 0 .failed 0 fun _ => .whole) 0 :=
    Or.inl ⟨0, _, rfl, by decide, by decide⟩
  refine ⟨Or.inr ⟨0, fails⟩, ?_⟩
  intro tolerates
  exact absurd (tolerates.drops 0 fails).1 (by decide)

end AndroidMessenger.Server
