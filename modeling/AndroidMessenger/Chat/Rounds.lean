import AndroidMessenger.Chat.Hosting

namespace AndroidMessenger.Chat.Network

open Library Msg Networking Client

variable {codecs : Codecs} {platform : Platform codecs} {writer : GsonWriter platform}
  {inherited : Finset Nat}

/-! What a round of the loop does to the activities. -/

/-- What the system makes of an event of the server. -/
def Serves (platform : Platform codecs) (network : Network) (system : System) (event : Event)
    (clients : Nat → MainActivity) : Prop :=
  (System.machine platform).runFrom system (network.systemEvents event) =
      { process := (Server.machine codecs).step system.process event
        clients client := (clients client).receive
          (textsTo ((Server.machine codecs).emits system.process event)) } ∧
    (System.machine platform).traceFrom system (network.systemEvents event) =
      (Server.machine codecs).emits system.process event

theorem step_served {system prepared : System} {served : Event} {event : SystemEvent}
    (running : system.process.running = true)
    (serves : System.step platform system event = system.serve codecs event)
    (prepares : system.serverEvent codecs event = some (served, prepared)) :
    (System.machine platform).step system event =
        { process := (Server.machine codecs).step system.process served
          clients client := (prepared.clients client).receive
            (textsTo ((Server.machine codecs).emits system.process served)) } ∧
      (System.machine platform).emits system event =
        (Server.machine codecs).emits system.process served := by
  have same := System.process_of_serverEvent prepares
  constructor
  · change System.step platform system event = _
    rw [serves, System.serve, if_pos running, prepares]
    simp only [System.react, same]
  · change system.emits codecs event = _
    rw [System.emits, if_pos running, prepares]

theorem serves_of_one {network : Network} {system prepared : System} {served : Event}
    {event : SystemEvent} (one : network.systemEvents served = [event])
    (running : system.process.running = true)
    (serves : System.step platform system event = system.serve codecs event)
    (prepares : system.serverEvent codecs event = some (served, prepared)) :
    Serves platform network system served prepared.clients := by
  obtain ⟨stepped, emits⟩ := step_served running serves prepares
  rw [Serves, one]
  exact ⟨stepped, (List.append_nil _).trans emits⟩

theorem serves_of_two {network : Network} {system prepared : System} {served : Event}
    {event : SystemEvent} {client : Nat}
    (two : network.systemEvents served = [event, .finish client])
    (running : system.process.running = true)
    (serves : System.step platform system event = system.serve codecs event)
    (prepares : system.serverEvent codecs event = some (served, prepared))
    (alive : (prepared.clients client).alive = true) :
    Serves platform network system served
      (Function.update prepared.clients client (prepared.clients client).finish) := by
  obtain ⟨stepped, emits⟩ := step_served running serves prepares
  rw [Serves, two, Machine.runFrom_cons, Machine.traceFrom_cons, emits, stepped]
  constructor
  · change System.act client MainActivity.finish _ = _
    rw [System.act, if_pos (by exact alive), System.update]
    congr 1
    funext other
    by_cases same : other = client
    · subst same
      rw [Function.update_self, Function.update_self]
      rfl
    · rw [Function.update_of_ne same, Function.update_of_ne same]
  · change _ ++ (System.emits codecs _ (.finish client) ++ []) = _
    rw [System.emits_of_serverEvent rfl, List.append_nil, List.append_nil]

theorem running_of_behind {loop : Server.Loop} {turn : Server.Turn} {event : Event}
    {rest : List Event} (handles : loop.behind (.turn turn) = event :: rest) :
    loop.process.running = true := by
  cases running : loop.process.running with
  | false =>
      rw [Server.Loop.behind_of_stopped running] at handles
      cases handles
  | true => rfl

namespace Related

variable {network : Network} {system : System} (related : Related writer inherited network system)

include related

theorem turns_of_running (stdin : stdinFileno ∈ inherited)
    (running : network.loop.process.running = true) (turn : Server.Turn) :
    Server.Loop.Turns codecs network.loop turn (network.loop.step codecs (.turn turn))
      (network.loop.behind (.turn turn)) := by
  have goesOn := (Server.Loop.goesOn_of_unheld related.carries.unheld).trans running
  rw [Server.Loop.step_of_goesOn goesOn]
  exact Server.Loop.turns stdin (related.carries.running running).2 goesOn

theorem turned (stdin : stdinFileno ∈ inherited) (turn : Server.Turn) {after : System}
    (reached : ∃ events, after = (System.machine platform).run events)
    (process : after.process = (Server.machine codecs).runFrom system.process
      (network.loop.behind (.turn turn)))
    (mirrors : ∀ client, Mirrors writer (network.loop.step codecs (.turn turn))
      ((network.turn codecs turn).clients client) (after.clients client)) :
    Related writer inherited (network.turn codecs turn) after := by
  have carries := (@Server.Loop.refines codecs _ stdin network.loop.kernel.limit none).step
    (.turn turn) related.carries
  have constants : (network.loop.step codecs (.turn turn)).process.running = true →
      network.loop.process.running = true ∧
        (network.loop.step codecs (.turn turn)).kernel.connections =
          network.loop.kernel.connections ∧
        ∀ connection, network.loop.kernel.received connection = [] →
          (network.loop.step codecs (.turn turn)).kernel.received connection = [] := by
    intro goesOn
    cases running : network.loop.process.running with
    | false =>
        rw [Server.Loop.step_of_stopped running] at goesOn
        exact absurd (running.symm.trans goesOn) Bool.false_ne_true
    | true =>
        have turns := related.turns_of_running stdin running turn
        refine ⟨rfl, (turns.constants goesOn).1, ?_⟩
        intro connection empty
        have rest := turns.received connection
        rw [empty] at rest
        exact (List.append_eq_nil_iff.mp rest).2
  refine ⟨reached, ?_, ?_, ?_, ?_, mirrors⟩
  · rw [process]
    exact carries
  · intro client connection
    change ((network.clients client).receive _).sock = _ ↔ network.peers[connection]? = _
    rw [MainActivity.sock_receive]
    exact related.peers client connection
  · intro goesOn
    obtain ⟨running, connections, _⟩ := constants goesOn
    exact connections.trans (related.connections running)
  · intro goesOn connection beyond
    obtain ⟨running, connections, empty⟩ := constants goesOn
    exact empty connection (related.unsent running connection (connections ▸ beyond))

variable {after : Server.Loop}

theorem opened {connection : Nat} (made : connection < network.peers.length) :
    (network.clients (network.peer connection)).sock = some connection := by
  apply (related.peers _ _).mpr
  rw [peer, List.getD_eq_getElem?_getD, List.getElem?_eq_getElem made]
  rfl

theorem mConnection_isSome {client connection : Nat}
    (opened : (network.clients client).sock = some connection) :
    (system.clients client).mConnection.isSome = true := by
  obtain ⟨made, found, _⟩ := Option.bind_eq_some_iff.mp opened
  obtain ⟨onWay, _, same⟩ := related.mirrors client
  rw [same]
  change ((network.clients client).mConnection.map _).isSome = true
  rw [found]
  rfl

theorem alive_of_waits {client : Nat}
    (waiting : waits network.loop (network.clients client) = true) :
    (system.clients client).alive = true := by
  rw [(related.mirrors client).alive_eq, waiting, Bool.or_true]

theorem serverEvent_accept {client : Nat}
    (opened : (network.clients client).sock = some network.loop.process.server.nextPtr)
    (fd : Nat) :
    system.serverEvent codecs (.onSocketServer client (.connection fd)) =
      some (.socketServer (.connection fd),
        system.update client (MainActivity.accept network.loop.process.server.nextPtr)) := by
  have waiting : waits network.loop (network.clients client) = true :=
    waits_iff.mpr ⟨_, opened, Nat.le_refl _⟩
  have unsocketed : (system.clients client).sock = none := by
    rw [(related.mirrors client).sock_eq, accepted_of_waits waiting]
  rw [System.serverEvent, related.carries.server]
  exact if_pos ⟨related.alive_of_waits waiting, related.mConnection_isSome opened, unsocketed⟩

theorem serves_accept (running : system.process.running = true) {fd : Nat}
    (more : network.loop.process.server.nextPtr < network.peers.length)
    (next : after.process.server.nextPtr = network.loop.process.server.nextPtr + 1)
    (queue : ∀ client, queued after (network.clients client) =
      queued network.loop (network.clients client)) :
    ∃ clients, Serves platform network system (.socketServer (.connection fd)) clients ∧
      ∀ client, Mirrors writer after (network.clients client) (clients client) := by
  have opened : (network.clients network.joining).sock = _ := related.opened more
  have prepares := related.serverEvent_accept opened fd
  refine ⟨Function.update system.clients network.joining
    (if (network.clients network.joining).alive then
      (system.clients network.joining).accept network.loop.process.server.nextPtr
    else ((system.clients network.joining).accept
      network.loop.process.server.nextPtr).finish), ?_, ?_⟩
  · cases alive : (network.clients network.joining).alive with
    | true =>
        have one : network.systemEvents (.socketServer (.connection fd)) =
            [.onSocketServer network.joining (.connection fd)] := by
          rw [systemEvents, alive]
          rfl
        exact serves_of_one one running rfl prepares
    | false =>
        have two : network.systemEvents (.socketServer (.connection fd)) =
            [.onSocketServer network.joining (.connection fd), .finish network.joining] := by
          rw [systemEvents, alive]
          rfl
        have lives := related.alive_of_waits (waits_iff.mpr ⟨_, opened, Nat.le_refl _⟩)
        have serves := @serves_of_two codecs platform _ _ _ _ _ _ two running rfl prepares
          (by rw [System.clients_update_self]; exact lives)
        rw [System.clients_update_self] at serves
        simpa [System.update] using serves
  · intro client
    by_cases same : client = network.joining
    · subst same
      rw [Function.update_self]
      exact (related.mirrors _).accepts opened next (queue _)
    · rw [Function.update_of_ne same]
      exact (related.mirrors client).passed (related.sock_ne opened same) next (queue client)

theorem serverEvent_socket {client : Nat} {child : SocketPtr}
    (opened : (network.clients client).sock = some child)
    (registered : child ∈ network.loop.process.server.flexWaiter.sockets)
    (isOpen : (network.loop.process.server.heap child).isOpen = true)
    (old : child < network.loop.process.server.nextPtr) (recv : Recv) (now : TimePoint)
    (writes : Nat → WriteOutcome)
    (next : after.process.server.nextPtr = network.loop.process.server.nextPtr)
    (queue : queued network.loop (network.clients client) =
      recv :: queued after (network.clients client)) :
    ∃ prepared, system.serverEvent codecs (.onSocket client recv now writes) =
        some (.socket child recv now writes, prepared) ∧
      (∀ other ≠ client, prepared.clients other = system.clients other) ∧
      Mirrors writer after (network.clients client) (prepared.clients client) := by
  have mirrors := related.mirrors client
  have listens : (system.clients client).sock = some child := by
    rw [mirrors.sock_eq, (accepted_eq_some opened old).1]
  rcases mirrors.reads next queue with ⟨chunk, request, rest, rfl, stored, waiting, own⟩ |
    ⟨empty, own⟩
  · obtain ⟨json, call, parsed, representable, decoded, readAs⟩ :=
      System.readAs_of_line writer (related.named waiting)
    rw [related.carries.server] at registered isOpen
    have visited := Server.visits_eq_some_iff.mpr ⟨chunk, now, writes, rfl,
      registered, isOpen, ⟨_, stored, parsed⟩, representable, decoded⟩
    have first := System.visitsNext_iff.mpr ⟨_, request, rest, visited, waiting, readAs⟩
    refine ⟨system.update client MainActivity.takeRequest, ?_, ?_, ?_⟩
    · simp only [System.serverEvent, listens, first, if_true]
    · intro other different
      exact System.clients_update_of_ne different _ system
    · rw [System.clients_update_self]
      exact own
  · have unvisited : Server.visits codecs (.socket child recv now writes)
        system.process.server = none := by
      cases visited : Server.visits codecs (.socket child recv now writes)
          system.process.server with
      | none => rfl
      | some visit =>
          obtain ⟨chunk, _, _, same, _⟩ := Server.visits_eq_some_iff.mp visited
          cases same
          exact absurd rfl (empty chunk)
    refine ⟨system, ?_, fun _ _ => rfl, own⟩
    simp only [System.serverEvent, listens, unvisited, System.visitsNext, Bool.false_eq_true,
      if_false]

theorem serves_socket (running : system.process.running = true) {child : SocketPtr}
    {recv : Recv} {now : TimePoint} {writes : Nat → WriteOutcome}
    (registered : child ∈ network.loop.process.server.flexWaiter.sockets)
    (isOpen : (network.loop.process.server.heap child).isOpen = true)
    (old : child < network.loop.process.server.nextPtr)
    (made : child < network.peers.length)
    (next : after.process.server.nextPtr = network.loop.process.server.nextPtr)
    (queue : ∀ client, queued network.loop (network.clients client) =
      (if (network.clients client).sock = some child then [recv] else []) ++
        queued after (network.clients client)) :
    ∃ clients, Serves platform network system (.socket child recv now writes) clients ∧
      ∀ client, Mirrors writer after (network.clients client) (clients client) := by
  have opened := related.opened made
  have own := queue (network.peer child)
  rw [if_pos opened] at own
  obtain ⟨prepared, prepares, others, mirrors⟩ :=
    related.serverEvent_socket opened registered isOpen old recv now writes next own
  refine ⟨prepared.clients, serves_of_one rfl running rfl prepares, ?_⟩
  intro client
  by_cases same : client = network.peer child
  · subst same
    exact mirrors
  · have rest := queue client
    rw [if_neg (related.sock_ne opened same)] at rest
    rw [others client same]
    exact (related.mirrors client).frame next rest.symm

theorem serves (stdin : stdinFileno ∈ inherited) {turn : Server.Turn} {event : Event}
    (goesOn : network.loop.process.running = true)
    (handles : network.loop.behind (.turn turn) = [event]) :
    ∃ clients, Serves platform network system event clients ∧
      ∀ client, Mirrors writer (network.loop.step codecs (.turn turn)) (network.clients client)
        (clients client) := by
  have turns := related.turns_of_running stdin goesOn turn
  obtain ⟨process, hosted⟩ := related.carries.running goesOn
  have running : system.process.running = true := process ▸ goesOn
  have connections := related.connections goesOn
  rw [handles] at turns
  have unread : (∀ connection, Server.Loop.readOn connection [event] = []) → ∀ client,
      queued (network.loop.step codecs (.turn turn)) (network.clients client) =
        queued network.loop (network.clients client) := by
    intro none client
    rw [queued_turn turns (network.clients client)]
    cases (network.clients client).sock with
    | none => rfl
    | some connection => rw [Option.map_some, none]; rfl
  cases event with
  | socketServer accepted =>
      have same := unread fun _ => rfl
      cases accepted with
      | connection fd =>
          obtain ⟨more, next⟩ := turns.accepted hosted goesOn
          exact related.serves_accept running (connections ▸ more) next same
      | failed errno =>
          refine ⟨system.clients, serves_of_one rfl running rfl rfl, ?_⟩
          intro client
          exact (related.mirrors client).frame (turns.nextPtr (by simp)) (same client)
  | socket child recv now writes =>
      obtain ⟨registered, isOpen⟩ := turns.served
      have old := hosted.registered child registered
      have made := Nat.lt_of_lt_of_le old (connections ▸ hosted.connected)
      apply related.serves_socket running registered isOpen old made
        (turns.nextPtr (by simp))
      intro client
      rw [queued_turn turns (network.clients client)]
      cases (network.clients client).sock with
      | none => rfl
      | some connection =>
          by_cases same : connection = child
          · subst same
            simp [Server.Loop.readOn]
          · simp [Server.Loop.readOn, same, Ne.symm same]
  | stdin line =>
      refine ⟨system.clients, serves_of_one rfl running rfl rfl, ?_⟩
      intro client
      exact (related.mirrors client).frame (turns.nextPtr (by simp)) (unread (fun _ => rfl) client)

theorem rests (stdin : stdinFileno ∈ inherited) {turn : Server.Turn}
    (handles : network.loop.behind (.turn turn) = []) :
    Related writer inherited (network.turn codecs turn) system := by
  have same : (network.loop.step codecs (.turn turn)).process.server.nextPtr =
        network.loop.process.server.nextPtr ∧
      ∀ client, queued (network.loop.step codecs (.turn turn)) (network.clients client) =
        queued network.loop (network.clients client) := by
    cases running : network.loop.process.running with
    | false =>
        rw [Server.Loop.step_of_stopped running]
        exact ⟨rfl, fun _ => rfl⟩
    | true =>
        have turns := related.turns_of_running stdin running turn
        rw [handles] at turns
        refine ⟨turns.nextPtr (by simp), ?_⟩
        intro client
        rw [queued_turn turns (network.clients client)]
        cases (network.clients client).sock with
        | none => rfl
        | some connection => rfl
  apply related.turned stdin turn related.reached
  · rw [handles]
    rfl
  · intro client
    have silent : network.loop.emits codecs (.turn turn) = [] := by
      rw [Server.Loop.emits, handles]
      rfl
    change Mirrors writer _ ((network.clients client).receive _) _
    rw [silent, receive_nothing]
    exact (related.mirrors client).frame same.1 (same.2 client)

theorem handled (stdin : stdinFileno ∈ inherited) {turn : Server.Turn} {event : Event}
    (goesOn : network.loop.process.running = true)
    (handles : network.loop.behind (.turn turn) = [event]) :
    Related writer inherited (network.turn codecs turn)
        ((System.machine platform).runFrom system (network.systemEvents event)) ∧
      network.loop.emits codecs (.turn turn) =
        (System.machine platform).traceFrom system (network.systemEvents event) := by
  have process := (related.carries.running goesOn).1
  have emits : network.loop.emits codecs (.turn turn) =
      (Server.machine codecs).emits system.process event := by
    rw [Server.Loop.emits, handles, process]
    exact List.append_nil _
  have grows : network.loop.process.server.nextPtr ≤
      (network.loop.step codecs (.turn turn)).process.server.nextPtr := by
    have turns := related.turns_of_running stdin goesOn turn
    rw [handles] at turns
    by_cases accepts : ∃ fd, event = .socketServer (.connection fd)
    · obtain ⟨fd, rfl⟩ := accepts
      rw [(turns.accepted (related.carries.running goesOn).2 goesOn).2]
      exact Nat.le_succ _
    · rw [turns.nextPtr]
      intro fd inside
      exact accepts ⟨fd, (List.mem_singleton.mp inside).symm⟩
  obtain ⟨clients, ⟨stepped, emitted⟩, mirrors⟩ :=
    related.serves stdin goesOn handles
  refine ⟨?_, emits.trans emitted.symm⟩
  apply related.turned stdin turn (related.reached_runFrom _)
  · rw [handles, stepped]
    rfl
  · intro client
    rw [stepped]
    change Mirrors writer _ ((network.clients client).receive _) _
    rw [emits]
    apply (mirrors client).receive
    intro ptr beyond
    exact related.silent event ptr (grows.trans beyond)

theorem turn (stdin : stdinFileno ∈ inherited) (turn : Server.Turn) :
    Related writer inherited (network.turn codecs turn)
        ((System.machine platform).runFrom system
          ((network.loop.behind (.turn turn)).flatMap network.systemEvents)) ∧
      network.loop.emits codecs (.turn turn) = (System.machine platform).traceFrom system
          ((network.loop.behind (.turn turn)).flatMap network.systemEvents) := by
  have one := Server.Loop.behind_length_le_one stdin related.carries (.turn turn)
  cases handles : network.loop.behind (.turn turn) with
  | nil =>
      refine ⟨related.rests stdin handles, ?_⟩
      rw [Server.Loop.emits, handles]
      rfl
  | cons event rest =>
      rw [handles] at one
      obtain rfl : rest = [] :=
        List.eq_nil_of_length_eq_zero (Nat.le_zero.mp (Nat.le_of_succ_le_succ one))
      rw [List.flatMap_singleton]
      exact related.handled stdin (running_of_behind handles) handles

end Related

theorem act_of_dead {network : Network} {client : Nat}
    (dead : (network.clients client).alive = false) (change : MainActivity → MainActivity) :
    network.act client change = network := by
  rw [act, dead]
  rfl

theorem silent_calls (system : System) (client : Nat) (call : ThreadCall) :
    (System.machine platform).traceFrom system [call.event client] = [] := by
  have own : system.serverEvent codecs (call.event client) = none := by
    cases call with
    | beginLogin user construction => rfl
    | markConnected => rfl
    | sendLogin now => rfl
    | endLogin => rfl
    | onMsgSend now msg => rfl
    | read => rfl
  change system.emits codecs (call.event client) ++ [] = []
  rw [System.emits_of_serverEvent own]
  rfl

theorem refines (stdin : stdinFileno ∈ inherited) (limit : Limit) (bindError : Option Nat) :
    (machine writer inherited limit bindError).Refines (System.machine platform) behind
      (Related writer inherited) where
  initial := Related.initial stdin limit bindError
  step := by
    intro network system event related
    change Related writer inherited (network.step writer event) _
    cases event with
    | calls client call =>
        cases alive : (network.clients client).alive with
        | false =>
            change Related writer inherited (network.act client (call.change platform)) _
            rw [behind, alive, act_of_dead alive]
            exact related
        | true =>
            rw [behind, alive]
            exact related.calls alive call
    | finish client =>
        cases alive : (network.clients client).alive with
        | false =>
            change Related writer inherited (network.act client MainActivity.finish) _
            simp only [behind, act_of_dead alive, alive, Bool.false_eq_true, false_and, if_false]
            exact related
        | true =>
            simp only [behind, alive, true_and]
            exact related.finishes alive
    | connects client => exact related.connects client
    | transmits client chunk => exact related.transmits client chunk
    | hangsUp client reset => exact related.hangsUp client reset
    | types read =>
        apply related.terminal
        · rw [Kernel.arrive]
          split
          · rfl
          · rfl
        · rw [Kernel.arrive]
          split
          · rfl
          · rfl
    | endsStdin => exact related.terminal rfl rfl
    | turn turn => exact (related.turn stdin turn).1
  emits := by
    intro network system event related
    change network.emits codecs event = _
    cases event with
    | calls client call =>
        rw [behind]
        split
        · exact (silent_calls system client call).symm
        · rfl
    | finish client =>
        rw [behind]
        split
        · change [] = system.emits codecs (.finish client) ++ []
          rw [System.emits_of_serverEvent rfl]
          rfl
        · rfl
    | connects client => rfl
    | transmits client chunk => rfl
    | hangsUp client reset => rfl
    | types read => rfl
    | endsStdin => rfl
    | turn turn => exact (related.turn stdin turn).2

def shared (writer : GsonWriter platform) (inherited : Finset Nat) (limit : Limit)
    (bindError : Option Nat) (events : List NetworkEvent) : List SystemEvent :=
  ((machine writer inherited limit bindError).observing behind).trace events

theorem related_run (writer : GsonWriter platform) (stdin : stdinFileno ∈ inherited)
    (limit : Limit) (bindError : Option Nat) (events : List NetworkEvent) :
    Related writer inherited ((machine writer inherited limit bindError).run events)
      ((System.machine platform).run (shared writer inherited limit bindError events)) :=
  (refines stdin limit bindError).run events

/-- The activity of the system is that of the network, but for what the kernel still has of
it: its connection before it is accepted, and the lines of its requests before they are
read. -/
structure SameActivity (writer : GsonWriter platform) (loop : Server.Loop)
    (own other : MainActivity) : Prop where
  state : other.state = own.state
  user : other.user = own.user
  login : other.login = own.login
  incoming : other.incoming = own.incoming
  alive : waits loop own = false → other.alive = own.alive
  sock : other.sock = accepted loop own
  outgoing : ∃ onWay, OnWay writer (queued loop own) onWay ∧
    other.outgoing = onWay ++ own.outgoing

theorem Mirrors.sameActivity {loop : Server.Loop} {own other : MainActivity}
    (mirrors : Mirrors writer loop own other) : SameActivity writer loop own other := by
  have sock := mirrors.sock_eq
  have incoming := mirrors.incoming_eq
  have alive := mirrors.alive_eq
  obtain ⟨onWay, way, rfl⟩ := mirrors
  refine ⟨rfl, rfl, rfl, incoming, ?_, sock, onWay, way, ?_⟩
  · intro known
    rw [alive, known, Bool.or_false]
  · obtain ⟨_, _, _, mConnection, _⟩ := own
    cases mConnection with
    | none =>
        have empty : onWay = [] := way.eq_nil
        rw [empty]
        rfl
    | some connection => rfl

/-- Every run of the network is one of the system: with the same actions, the same server and
the same activities. -/
theorem network_runs_system (writer : GsonWriter platform) (stdin : stdinFileno ∈ inherited)
    (limit : Limit) (bindError : Option Nat) (events : List NetworkEvent) :
    (machine writer inherited limit bindError).trace events =
        (System.machine platform).trace (shared writer inherited limit bindError events) ∧
      ((machine writer inherited limit bindError).run events).loop.process.server =
        ((System.machine platform).run
          (shared writer inherited limit bindError events)).process.server ∧
      ∀ client, SameActivity writer
        ((machine writer inherited limit bindError).run events).loop
        (((machine writer inherited limit bindError).run events).clients client)
        (((System.machine platform).run
          (shared writer inherited limit bindError events)).clients client) := by
  have related := related_run writer stdin limit bindError events
  refine ⟨(refines stdin limit bindError).trace events, related.carries.server, ?_⟩
  intro client
  exact (related.mirrors client).sameActivity

/-! Bob's connection is accepted. -/

def bobConnects : List NetworkEvent :=
  [.calls 0 (.beginLogin "bob" .started), .connects 0, .turn .plain]

theorem shared_bobConnects :
    shared GsonWriter.escaping (Finset.range 3) 1024 none bobConnects =
      [.beginLogin 0 "bob" .started, .onSocketServer 0 (.connection 5)] := by
  rfl

theorem bobConnects_runs_system :
    (machine GsonWriter.escaping (Finset.range 3) 1024 none).trace bobConnects =
        (System.machine Platform.escaping).trace
          [.beginLogin 0 "bob" .started, .onSocketServer 0 (.connection 5)] ∧
      ((machine GsonWriter.escaping (Finset.range 3) 1024 none).run
          bobConnects).loop.process.server =
        ((System.machine Platform.escaping).run
          [.beginLogin 0 "bob" .started, .onSocketServer 0 (.connection 5)]).process.server := by
  have runs := @network_runs_system Codecs.compact Platform.escaping (Finset.range 3)
    GsonWriter.escaping (by decide) 1024 none bobConnects
  rw [shared_bobConnects] at runs
  exact ⟨runs.1, runs.2.1⟩

end AndroidMessenger.Chat.Network
