import AndroidMessenger.Chat.Transit

namespace AndroidMessenger.Chat.Network

open Library Msg Networking Client

variable {codecs : Codecs} {platform : Platform codecs} {writer : GsonWriter platform}
  {inherited : Finset Nat}

/-! The network carries out the system. -/

structure Related (writer : GsonWriter platform) (inherited : Finset Nat)
    (network : Network) (system : System) : Prop where
  reached : ∃ events, system = (System.machine platform).run events
  carries : Server.Loop.Carries inherited network.loop system.process
  peers : ∀ client connection, (network.clients client).sock = some connection ↔
    network.peers[connection]? = some client
  connections : network.loop.process.running = true →
    network.loop.kernel.connections = network.peers.length
  unsent : network.loop.process.running = true →
    ∀ connection ≥ network.loop.kernel.connections,
      network.loop.kernel.received connection = []
  mirrors : ∀ client, Mirrors writer network.loop (network.clients client)
    (system.clients client)

namespace Related

variable {network : Network} {system : System}

theorem initial (stdin : stdinFileno ∈ inherited) (limit : Limit) (bindError : Option Nat) :
    Related writer inherited (machine writer inherited limit bindError).initial
      (System.machine platform).initial := by
  have start := Server.Loop.start_kernel inherited limit bindError
  have carries := (@Server.Loop.refines codecs _ stdin limit bindError).initial
  refine ⟨⟨[], rfl⟩, carries, ?_, ?_, ?_, ?_⟩
  · intro client connection
    constructor
    · intro opened
      cases opened
    · intro known
      exact absurd known (by simp [machine])
  · intro _
    change (Server.Loop.start inherited limit bindError).kernel.connections = 0
    rw [start]
    rfl
  · intro _ connection _
    change (Server.Loop.start inherited limit bindError).kernel.received connection = []
    rw [start]
    rfl
  · intro client
    exact ⟨[], OnWay.none, rfl⟩

variable (related : Related writer inherited network system)

include related

theorem unopened (client : Nat) : (system.clients client).Unopened := by
  obtain ⟨events, rfl⟩ := related.reached
  exact System.unopened_run platform events client

theorem nothing (client : Nat) (unsocketed : (system.clients client).sock = none) :
    (system.clients client).incoming = [] := by
  obtain ⟨events, rfl⟩ := related.reached
  have turns := System.texts_in_turn platform events client
  rw [unsocketed] at turns
  exact (List.append_eq_nil_iff.mp turns).2

theorem silent (event : Event) (ptr : SocketPtr)
    (beyond : network.loop.process.server.nextPtr ≤ ptr) :
    textsTo ((Server.machine codecs).emits system.process event) ptr = [] := by
  obtain ⟨events, rfl⟩ := related.reached
  apply List.eq_nil_iff_forall_not_mem.mpr
  intro text inside
  obtain ⟨_, written⟩ := Server.mem_emits (mem_textsTo_iff.mp inside)
  have listed := (Server.answered_of_wrote written).1
  rw [related.carries.server] at beyond
  rw [(System.refines platform).run events] at listed beyond
  exact Nat.lt_irrefl _
    (Nat.lt_of_lt_of_le (Server.nextPtr_of_listed codecs _ ptr listed) beyond)

theorem named {client : Nat} {request : NetworkRequest} {rest : List NetworkRequest}
    (waiting : (system.clients client).outgoing = request :: rest) : System.Named request := by
  obtain ⟨events, rfl⟩ := related.reached
  apply System.named_of_outgoing
  rw [waiting]
  exact List.mem_cons_self

theorem sock_ne {client other : Nat} {connection : Nat}
    (opened : (network.clients client).sock = some connection) (different : other ≠ client) :
    (network.clients other).sock ≠ some connection := by
  intro also
  have known := (related.peers client connection).mp opened
  rw [(related.peers other connection).mp also] at known
  exact different (Option.some.inj known)

theorem reached_runFrom (events : List SystemEvent) :
    ∃ before, (System.machine platform).runFrom system events =
      (System.machine platform).run before := by
  obtain ⟨before, rfl⟩ := related.reached
  exact ⟨before ++ events, ((System.machine platform).run_append before events).symm⟩

/-! What the threads do. -/

theorem acts {client : Nat} {change : MainActivity → MainActivity}
    (alive : (network.clients client).alive = true)
    (sock : (change (network.clients client)).sock = (network.clients client).sock)
    {after : System} (reached : ∃ events, after = (System.machine platform).run events)
    (process : after.process = system.process)
    (others : ∀ other ≠ client, after.clients other = system.clients other)
    (own : Mirrors writer network.loop (change (network.clients client))
      (after.clients client)) :
    Related writer inherited (network.act client change) after := by
  rw [act, if_pos alive]
  refine ⟨reached, process ▸ related.carries, ?_, related.connections, related.unsent, ?_⟩
  · intro other connection
    rw [← related.peers]
    change (Function.update network.clients client _ other).sock = _ ↔ _
    by_cases same : other = client
    · subst same
      rw [Function.update_self, sock]
    · rw [Function.update_of_ne same]
  · intro other
    change Mirrors writer network.loop (Function.update network.clients client _ other) _
    by_cases same : other = client
    · subst same
      rw [Function.update_self]
      exact own
    · rw [Function.update_of_ne same, others other same]
      exact related.mirrors other

theorem calls {client : Nat} (alive : (network.clients client).alive = true)
    (call : ThreadCall) :
    Related writer inherited (network.act client (call.change platform))
      (System.step platform system (call.event client)) := by
  have mirrors := related.mirrors client
  have lives : (system.clients client).alive = true := by
    rw [mirrors.alive_eq, alive]
    rfl
  have own := mirrors.unopened (related.unopened client)
  have stepped : System.step platform system (call.event client) =
      system.update client (call.change platform) := by
    rw [ThreadCall.step_event, System.act, if_pos lives]
  have reached : ∃ events, system.update client (call.change platform) =
      (System.machine platform).run events := by
    rw [← stepped]
    exact related.reached_runFrom [call.event client]
  rw [stepped]
  apply related.acts alive (sock_change platform own call) reached rfl
  · intro other different
    exact System.clients_update_of_ne different _ system
  · rw [System.clients_update_self]
    exact mirrors.call alive (related.unopened client) (related.nothing client) call

theorem finishes {client : Nat} (alive : (network.clients client).alive = true) :
    Related writer inherited (network.act client MainActivity.finish)
      ((System.machine platform).runFrom system
        (if waits network.loop (network.clients client) = false then [.finish client]
        else [])) := by
  have mirrors := related.mirrors client
  cases waiting : waits network.loop (network.clients client) with
  | true =>
      exact related.acts alive rfl related.reached rfl (fun _ _ => rfl)
        (mirrors.finish_of_waits waiting)
  | false =>
      have lives : (system.clients client).alive = true := by
        rw [mirrors.alive_eq, alive]
        rfl
      have stepped : System.step platform system (.finish client) =
          system.update client MainActivity.finish := by
        change system.act client _ = _
        rw [System.act, if_pos lives]
      have reached : ∃ events, system.update client MainActivity.finish =
          (System.machine platform).run events := by
        rw [← stepped]
        exact related.reached_runFrom [.finish client]
      change Related writer inherited _ (System.step platform system (.finish client))
      rw [stepped]
      apply related.acts alive rfl reached rfl
      · intro other different
        exact System.clients_update_of_ne different _ system
      · rw [System.clients_update_self]
        exact mirrors.finish waiting

/-! What comes to the kernel. -/

theorem terminal {arrival : Arrival}
    (received : (network.loop.kernel.arrive arrival).received = network.loop.kernel.received)
    (connections : (network.loop.kernel.arrive arrival).connections =
      network.loop.kernel.connections) :
    Related writer inherited (network.arrive arrival) system := by
  refine ⟨related.reached, related.carries.arrive arrival, related.peers, ?_, ?_, ?_⟩
  · intro running
    exact connections.trans (related.connections running)
  · intro running connection beyond
    change (network.loop.kernel.arrive arrival).received connection = []
    rw [received]
    exact related.unsent running connection (connections ▸ beyond)
  · intro client
    exact (related.mirrors client).frame rfl (queued_of_received received _)

theorem connects (client : Nat) :
    Related writer inherited (network.connect client) system := by
  unfold connect
  split
  · rename_i ready
    obtain ⟨running, alive, present, unsocketed⟩ := ready
    have hosted := (related.carries.running running).2
    have kernel : network.loop.kernel.arrive .connects = { network.loop.kernel with
        backlog := network.loop.kernel.backlog ++ [network.loop.kernel.connections]
        connections := network.loop.kernel.connections + 1 } :=
      if_pos (by rw [hosted.listening]; rfl)
    have opened : ((network.clients client).accept network.loop.kernel.connections).sock =
        some network.loop.kernel.connections := by
      obtain ⟨made, found⟩ := Option.isSome_iff_exists.mp present
      simp [MainActivity.sock, MainActivity.accept, MainActivity.onConnection, found]
    refine ⟨related.reached, related.carries.arrive .connects, ?_, ?_, ?_, ?_⟩
    · intro other connection
      change (Function.update network.clients client _ other).sock = some connection ↔
        (network.peers ++ [client])[connection]? = some other
      rw [getElem?_concat_eq_some, ← related.peers, ← related.connections running]
      by_cases same : other = client
      · subst same
        rw [Function.update_self, opened, unsocketed]
        simp [eq_comm]
      · rw [Function.update_of_ne same]
        simp [Ne.symm same]
    · intro _
      change (network.loop.kernel.arrive .connects).connections =
        (network.peers ++ [client]).length
      rw [kernel, List.length_append, ← related.connections running]
      rfl
    · intro _ connection beyond
      change (network.loop.kernel.arrive .connects).connections ≤ connection at beyond
      change (network.loop.kernel.arrive .connects).received connection = []
      rw [kernel] at beyond ⊢
      exact related.unsent running connection (Nat.le_of_succ_le beyond)
    · intro other
      change Mirrors writer (network.arrive .connects).loop
        (Function.update network.clients client _ other) _
      by_cases same : other = client
      · subst same
        rw [Function.update_self]
        refine (related.mirrors other).connects alive present unsocketed rfl
          hosted.connected ?_
        change (network.loop.kernel.arrive .connects).received _ = []
        rw [kernel]
        exact related.unsent running _ (Nat.le_refl _)
      · rw [Function.update_of_ne same]
        refine (related.mirrors other).frame rfl (queued_of_received ?_ _)
        change (network.loop.kernel.arrive .connects).received = _
        rw [kernel]
  · exact related

theorem sends {client connection : Nat}
    (opened : (network.clients client).sock = some connection) (recv : Recv)
    {own : MainActivity} (sock : own.sock = some connection)
    (mirrors : Mirrors writer (network.arrive (.sends connection recv)).loop own
      (system.clients client)) :
    Related writer inherited
      { network.arrive (.sends connection recv) with
        clients := Function.update network.clients client own } system := by
  have received : ∀ other ≠ connection,
      (network.loop.kernel.arrive (.sends connection recv)).received other =
        network.loop.kernel.received other := by
    intro other different
    rw [Kernel.arrive]
    split
    · exact Function.update_of_ne different ..
    · rfl
  have connections : (network.loop.kernel.arrive (.sends connection recv)).connections =
      network.loop.kernel.connections := by
    rw [Kernel.arrive]
    split
    · rfl
    · rfl
  refine ⟨related.reached, related.carries.arrive _, ?_, ?_, ?_, ?_⟩
  · intro other target
    change (Function.update network.clients client own other).sock = _ ↔
      network.peers[target]? = _
    rw [← related.peers]
    by_cases same : other = client
    · subst same
      rw [Function.update_self, sock, opened]
    · rw [Function.update_of_ne same]
  · intro running
    exact connections.trans (related.connections running)
  · intro running target beyond
    change (network.loop.kernel.arrive (.sends connection recv)).connections ≤ target at beyond
    change (network.loop.kernel.arrive (.sends connection recv)).received target = []
    rw [connections] at beyond
    by_cases same : target = connection
    · subst same
      rw [Kernel.arrive, if_neg (Nat.not_lt.mpr beyond)]
      exact related.unsent running target beyond
    · rw [received target same]
      exact related.unsent running target beyond
  · intro other
    change Mirrors writer (network.arrive (.sends connection recv)).loop
      (Function.update network.clients client own other) _
    by_cases same : other = client
    · subst same
      rw [Function.update_self]
      exact mirrors
    · rw [Function.update_of_ne same]
      refine (related.mirrors other).frame rfl ?_
      rw [queued, queued]
      cases found : (network.clients other).sock with
      | none => rfl
      | some target =>
          apply received target
          rintro rfl
          exact related.sock_ne opened same found

omit related in
theorem queued_sends {client : MainActivity} {connection : Nat}
    (opened : client.sock = some connection)
    (made : connection < network.loop.kernel.connections) (recv : Recv) :
    queued (network.arrive (.sends connection recv)).loop client =
      queued network.loop client ++ [recv] := by
  rw [queued, queued, opened]
  change (network.loop.kernel.arrive (.sends connection recv)).received connection =
    network.loop.kernel.received connection ++ [recv]
  rw [Kernel.arrive, if_pos made]
  exact Function.update_self ..

theorem transmits (client : Nat) (chunk : Chunk) :
    Related writer inherited (network.transmit writer client chunk) system := by
  unfold transmit
  split
  · rename_i connection request rest opened waiting
    split
    · rename_i ready
      obtain ⟨running, _, stored⟩ := ready
      have known := (related.peers client connection).mp opened
      have made : connection < network.loop.kernel.connections := by
        rw [related.connections running]
        exact (List.getElem?_eq_some_iff.mp known).1
      have sock := (network.clients client).sock_takeRequest.trans opened
      apply related.sends opened (.data chunk) sock
      exact (related.mirrors client).transmits rfl waiting stored
        (queued_sends opened made (.data chunk))
    · exact related
  · exact related

theorem hangsUp (client : Nat) (reset : Bool) :
    Related writer inherited (network.hangUp client reset) system := by
  unfold hangUp
  split
  · rename_i connection opened
    split
    · exact related
    · generalize ends : (if reset then Recv.failed else Recv.shutdown) = recv
      have empty : ∀ chunk, recv ≠ .data chunk := by
        intro chunk
        rw [← ends]
        cases reset with
        | false => exact fun same => by cases same
        | true => exact fun same => by cases same
      have sent : Related writer inherited
          { network.arrive (.sends connection recv) with
            clients := Function.update network.clients client (network.clients client) }
          system := by
        apply related.sends opened recv opened
        by_cases made : connection < network.loop.kernel.connections
        · exact (related.mirrors client).hangsUp rfl empty (queued_sends opened made recv)
        · refine (related.mirrors client).frame rfl (queued_of_received ?_ _)
          change (network.loop.kernel.arrive (.sends connection recv)).received = _
          rw [Kernel.arrive, if_neg made]
      rw [Function.update_eq_self] at sent
      exact sent
  · exact related

end Related

end AndroidMessenger.Chat.Network
