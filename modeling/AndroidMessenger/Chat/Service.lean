import AndroidMessenger.Chat.Authorship
import AndroidMessenger.Chat.Rounds
import AndroidMessenger.Server.Drain

namespace AndroidMessenger.Chat

open Library Msg Networking Client

variable {codecs : Codecs} {platform : Platform codecs}

/-! What the server answers to the requests of one client. -/

def answersOn (actions : List Action) (ptr : SocketPtr) : List Response :=
  actions.filterMap fun
    | .answered other _ res => if other = ptr then some res else none
    | _ => none

theorem answersOn_append (first second : List Action) (ptr : SocketPtr) :
    answersOn (first ++ second) ptr = answersOn first ptr ++ answersOn second ptr :=
  List.filterMap_append

theorem answersOn_eq_nil {actions : List Action} {ptr : SocketPtr}
    (silent : ∀ json res, .answered ptr json res ∉ actions) : answersOn actions ptr = [] := by
  apply List.filterMap_eq_nil_iff.mpr
  intro action inside
  cases action with
  | answered other json res =>
      have different : other ≠ ptr := by
        rintro rfl
        exact silent json res inside
      simp [different]
  | accepted other => rfl
  | wrote other text outcome => rfl
  | removed other => rfl
  | closed other => rfl

namespace System

variable (codecs) in
def answered (client : Nat) (system : System) (event : SystemEvent) : List Response :=
  ((system.clients client).sock.map (answersOn (system.emits codecs event))).getD []

theorem answered_of_unvisited {system : System} {event : SystemEvent} {client : Nat}
    (unvisited : ∀ ptr, (system.clients client).sock = some ptr → ∀ json res,
      .answered ptr json res ∉ system.emits codecs event) :
    system.answered codecs client event = [] := by
  rw [answered]
  cases listens : (system.clients client).sock with
  | none => rfl
  | some ptr => exact answersOn_eq_nil (unvisited ptr listens)

theorem answered_of_silent {system : System} {event : SystemEvent}
    (silent : system.emits codecs event = []) (client : Nat) :
    system.answered codecs client event = [] := by
  apply answered_of_unvisited
  intro ptr _ json res inside
  rw [silent] at inside
  cases inside

theorem answersOn_visit {server : Server} {ptr : SocketPtr} {chunk : Chunk} {json : Ptree}
    {call : Call} (visit : Server.Visit codecs server ptr chunk json call) (now : TimePoint)
    (writes : Nat → WriteOutcome) :
    answersOn (server.react codecs (.socket ptr (.data chunk) now writes)).actions ptr =
      [(call.dispatch (Server.visitor now) server).1] := by
  rcases dispatched : call.dispatch (Server.visitor now) server with ⟨res, granted⟩
  rw [Server.react_of_visit visit now writes dispatched, ← List.singleton_append,
    answersOn_append]
  have silent : answersOn (granted.broadcast codecs writes res).actions ptr = [] := by
    apply answersOn_eq_nil
    intro tree answer inside
    rw [Server.broadcast_eq_writeLoop] at inside
    obtain ⟨_, _, _, equality, _⟩ := Server.wrote_of_mem_writeLoop _ _ _ _ _ _ inside
    cases equality
  rw [silent]
  simp [answersOn]

theorem unanswered_of_unread {system prepared : System} {event : SystemEvent} {served : Event}
    {client : Nat}
    (apart : ∀ other ptr, (system.clients other).sock = some ptr →
      (system.clients client).sock = some ptr → other = client)
    (prepares : system.serverEvent codecs event = some (served, prepared))
    (unread : ∀ recv now writes, event ≠ .onSocket client recv now writes) :
    system.taken codecs client event = [] ∧ system.answered codecs client event = [] := by
  constructor
  · unfold taken
    cases event with
    | onSocket reader recv now writes =>
        have different : reader ≠ client := by
          rintro rfl
          exact unread recv now writes rfl
        rw [prepares]
        simp [different]
    | _ => simp
  · apply answered_of_unvisited
    intro ptr listens json res inside
    unfold emits at inside
    split at inside
    · rw [prepares] at inside
      obtain ⟨_, _, _, _, _, rfl, _⟩ := Server.visit_of_answered (Server.mem_emits inside).2
      rcases serverEvent_cases prepares with
        ⟨_, _, equality, _⟩ | ⟨reader, _, _, _, _, rfl, opened, equality, _⟩ | ⟨never, _⟩
      · cases equality
      · cases equality
        obtain rfl := apart reader ptr opened listens
        exact unread _ _ _ rfl
      · exact never _ _ _ _ rfl
    · cases inside

theorem answers_of_serverEvent {writer : GsonWriter platform} {events : List SystemEvent}
    {trace : List Action} {prepared : System} {reader : Nat} {recv : Recv} {now : TimePoint}
    {writes : Nat → WriteOutcome} {served : Event}
    (line : ReadsLines writer trace ((machine platform).run events)
      (.onSocket reader recv now writes))
    (running : ((machine platform).run events).process.running = true)
    (prepares : ((machine platform).run events).serverEvent codecs
      (.onSocket reader recv now writes) = some (served, prepared)) :
    List.Forall₂ Answers
      (((machine platform).run events).taken codecs reader (.onSocket reader recv now writes))
      (((machine platform).run events).answered codecs reader
        (.onSocket reader recv now writes)) := by
  obtain ⟨ptr, listens, rfl, _⟩ := serverEvent_onSocket prepares
  have next := @next_of_visits codecs platform writer events trace reader recv now writes ptr
  generalize (machine platform).run events = system at *
  have emits : system.emits codecs (.onSocket reader recv now writes) =
      (system.process.server.react codecs (.socket ptr recv now writes)).actions := by
    rw [System.emits, if_pos running, prepares]
    exact Server.emits_of_running running _
  unfold taken answered
  rw [if_pos running, prepares, listens, emits]
  simp only [true_and, Option.map_some, Option.getD_some]
  cases visits : Server.visits codecs (.socket ptr recv now writes) system.process.server with
  | none =>
      have silent : answersOn (system.process.server.react codecs
          (.socket ptr recv now writes)).actions ptr = [] := by
        apply answersOn_eq_nil
        intro json res inside
        obtain ⟨chunk, now, writes, call, _, equality, visit, _⟩ :=
          Server.visit_of_answered inside
        rw [Server.visits_eq_some_iff.mpr ⟨chunk, now, writes, equality, visit⟩] at visits
        cases visits
      rw [silent]
      exact List.Forall₂.nil
  | some visit =>
      obtain ⟨request, rest, waiting, readAs⟩ := next line visits
      rw [if_pos (visitsNext_iff.mpr ⟨visit, request, rest, rfl, waiting, readAs⟩), waiting]
      obtain ⟨target, json, call⟩ := visit
      obtain ⟨chunk, _, _, equality, visit⟩ := Server.visits_eq_some_iff.mp visits
      cases equality
      rw [answersOn_visit visit now writes]
      exact List.Forall₂.cons (answers_of_dispatch readAs rfl) List.Forall₂.nil

theorem step_answers {writer : GsonWriter platform} {events : List SystemEvent}
    {trace : List Action} {event : SystemEvent}
    (line : ReadsLines writer trace ((machine platform).run events) event) (client : Nat) :
    List.Forall₂ Answers (((machine platform).run events).taken codecs client event)
      (((machine platform).run events).answered codecs client event) := by
  have inj := @sock_inj codecs platform events
  have serves := @answers_of_serverEvent codecs platform writer events trace
  generalize (machine platform).run events = system at *
  cases prepares : system.serverEvent codecs event with
  | none =>
      rw [taken_of_none prepares,
        answered_of_silent (emits_of_serverEvent prepares)]
      exact List.Forall₂.nil
  | some pair =>
      obtain ⟨served, prepared⟩ := pair
      have apart := fun other ptr left right => @inj other client ptr left right
      by_cases reads : ∃ recv now writes, event = .onSocket client recv now writes
      · obtain ⟨recv, now, writes, rfl⟩ := reads
        cases running : system.process.running with
        | false =>
            have stopped : ¬ system.process.running = true := by simp [running]
            have none : system.taken codecs client (.onSocket client recv now writes) = [] := by
              simp [taken, stopped]
            rw [none, answered_of_silent (if_neg stopped)]
            exact List.Forall₂.nil
        | true => exact serves line running prepares
      · obtain ⟨taken, answered⟩ := unanswered_of_unread apart prepares
          (fun recv now writes same => reads ⟨recv, now, writes, same⟩)
        rw [taken, answered]
        exact List.Forall₂.nil

theorem answers_run (writer : GsonWriter platform) {events : List SystemEvent}
    (lines : (machine platform).Meets (ReadsLines writer) events) (client : Nat) :
    List.Forall₂ Answers (((machine platform).observing (taken codecs client)).trace events)
      (((((machine platform).run events).clients client).sock.map
        (answersOn ((machine platform).trace events))).getD []) := by
  have answers := @Machine.Meets.forall₂_observing _ _ _ _ (machine platform) _
    (ReadsLines writer) (taken codecs client) (answered codecs client) Answers
    (fun before event line => step_answers line client) events lines
  have picked := @picked_run codecs platform _ answersOn answersOn_append (fun _ _ => rfl)
    ?_ events client
  · rw [← picked]
    exact answers
  · intro events ptr unaccepted
    apply answersOn_eq_nil
    intro json res inside
    apply unaccepted
    rw [(refines platform).trace events] at inside ⊢
    exact (Server.registry codecs _).answered ptr json res inside

/-- What has been answered on the socket of a client are its first requests, one answer for
each, and the others still wait. -/
theorem answers_in_turn (writer : GsonWriter platform) {events : List SystemEvent}
    (lines : (machine platform).Meets (ReadsLines writer) events) (client : Nat) :
    ∃ requests, List.Forall₂ Answers requests
        (((((machine platform).run events).clients client).sock.map
          (answersOn ((machine platform).trace events))).getD []) ∧
      requests ++ (((machine platform).run events).clients client).outgoing =
        ((machine platform).observing (asked client)).trace events :=
  ⟨((machine platform).observing (taken codecs client)).trace events,
    answers_run writer lines client, taken_run platform events client⟩

theorem bobAsks_answered_in_turn :
    ∃ requests, List.Forall₂ Answers requests
        (((((machine Platform.escaping).run (bothAsk ++ [reads 0 bobLine 0])).clients
          0).sock.map (answersOn
            ((machine Platform.escaping).trace (bothAsk ++ [reads 0 bobLine 0])))).getD []) ∧
      requests ++ (((machine Platform.escaping).run (bothAsk ++ [reads 0 bobLine 0])).clients
          0).outgoing =
        ((machine Platform.escaping).observing (asked 0)).trace
          (bothAsk ++ [reads 0 bobLine 0]) :=
  answers_in_turn GsonWriter.escaping readsLines_bobLine 0

end System

namespace Network

variable {writer : GsonWriter platform} {inherited : Finset Nat}

/-! The loop of the network is the loop of the server. -/

theorem loop_step (writer : GsonWriter platform) (network : Network) (event : NetworkEvent)
    (limit : Limit) (bindError : Option Nat) :
    ∃ events, (network.step writer event).loop =
      (Server.Loop.machine codecs inherited limit bindError).runFrom network.loop events := by
  cases event with
  | calls client call =>
      refine ⟨[], ?_⟩
      change (network.act client _).loop = _
      unfold act
      split
      · rfl
      · rfl
  | finish client =>
      refine ⟨[], ?_⟩
      change (network.act client _).loop = _
      unfold act
      split
      · rfl
      · rfl
  | connects client =>
      change ∃ events, (network.connect client).loop = _
      unfold connect
      split
      · exact ⟨[.arrival .connects], rfl⟩
      · exact ⟨[], rfl⟩
  | transmits client chunk =>
      change ∃ events, (network.transmit writer client chunk).loop = _
      unfold transmit
      split
      · rename_i connection _ _ _ _
        split
        · exact ⟨[.arrival (.sends connection (.data chunk))], rfl⟩
        · exact ⟨[], rfl⟩
      · exact ⟨[], rfl⟩
  | hangsUp client reset =>
      change ∃ events, (network.hangUp client reset).loop = _
      unfold hangUp
      split
      · rename_i connection _
        split
        · exact ⟨[], rfl⟩
        · exact ⟨[.arrival (.sends connection _)], rfl⟩
      · exact ⟨[], rfl⟩
  | types read => exact ⟨[.arrival (.types read)], rfl⟩
  | endsStdin => exact ⟨[.arrival .endsStdin], rfl⟩
  | turn turn => exact ⟨[.turn turn], rfl⟩

theorem loop_run (writer : GsonWriter platform) (inherited : Finset Nat) (limit : Limit)
    (bindError : Option Nat) (events : List NetworkEvent) :
    ∃ before, ((machine writer inherited limit bindError).run events).loop =
      (Server.Loop.machine codecs inherited limit bindError).run before := by
  induction events using List.reverseRecOn with
  | nil => exact ⟨[], rfl⟩
  | append_singleton events event ih =>
      obtain ⟨before, same⟩ := ih
      obtain ⟨more, stepped⟩ := @loop_step codecs platform inherited writer
        ((machine writer inherited limit bindError).run events) event limit bindError
      refine ⟨before ++ more, ?_⟩
      rw [Machine.run_concat, Machine.run_append, ← same]
      exact stepped

theorem loop_turns (writer : GsonWriter platform) (inherited : Finset Nat) (limit : Limit)
    (bindError : Option Nat) (network : Network) (turns : List Server.Turn) :
    ((machine writer inherited limit bindError).runFrom network
        (turns.map NetworkEvent.turn)).loop =
      (Server.Loop.machine codecs inherited limit bindError).runFrom network.loop
        (turns.map Server.LoopEvent.turn) := by
  induction turns generalizing network with
  | nil => rfl
  | cons turn turns ih => exact ih _

/-! What becomes of the requests of a client. -/

theorem Related.readsLines {network : Network} {system : System}
    (related : Related writer inherited network system) (stdin : stdinFileno ∈ inherited)
    {turn : Server.Turn} {ptr : SocketPtr} {chunk : Chunk} {now : TimePoint}
    {writes : Nat → WriteOutcome}
    (handles : network.loop.behind (.turn turn) = [.socket ptr (.data chunk) now writes]) :
    ∃ request rest,
      (system.clients (network.peer ptr)).outgoing = request :: rest ∧
        chunk.stored = some (Utf8.encode (request.line writer)) := by
  have goesOn := running_of_behind handles
  have turns := related.turns_of_running stdin goesOn turn
  obtain ⟨_, hosted⟩ := related.carries.running goesOn
  rw [handles] at turns
  have made := Nat.lt_of_lt_of_le (hosted.registered ptr turns.served.1)
    (related.connections goesOn ▸ hosted.connected)
  have queue : queued network.loop (network.clients (network.peer ptr)) =
      .data chunk :: queued (network.loop.step codecs (.turn turn))
        (network.clients (network.peer ptr)) := by
    rw [queued_turn turns, related.opened made]
    simp [Server.Loop.readOn]
  rcases (related.mirrors _).reads (turns.nextPtr (by simp)) queue with
    ⟨_, request, rest, same, stored, waiting, _⟩ | ⟨empty, _⟩
  · cases same
    exact ⟨request, rest, waiting, stored⟩
  · exact absurd rfl (empty chunk)

theorem handles_of_onSocket {network : Network} {system : System}
    (related : Related writer inherited network system) (stdin : stdinFileno ∈ inherited)
    {event : NetworkEvent} {first rest : List SystemEvent} {client : Nat} {recv : Recv}
    {now : TimePoint} {writes : Nat → WriteOutcome}
    (split : behind network event = first ++ .onSocket client recv now writes :: rest) :
    ∃ turn ptr, network.loop.behind (.turn turn) = [.socket ptr recv now writes] ∧
      client = network.peer ptr ∧ first = [] := by
  have inside : .onSocket client recv now writes ∈ behind network event := by
    rw [split]
    exact List.mem_append_right _ List.mem_cons_self
  cases event with
  | turn turn =>
      have one := Server.Loop.behind_length_le_one stdin related.carries (.turn turn)
      change (network.loop.behind (.turn turn)).flatMap network.systemEvents = _ at split
      change _ ∈ (network.loop.behind (.turn turn)).flatMap network.systemEvents at inside
      match handles : network.loop.behind (.turn turn) with
      | [] =>
          rw [handles] at inside
          cases inside
      | event :: later =>
          rw [handles] at one
          obtain rfl : later = [] :=
            List.eq_nil_of_length_eq_zero (Nat.le_zero.mp (Nat.le_of_succ_le_succ one))
          rw [handles, List.flatMap_singleton] at split inside
          cases event with
          | socket ptr recv now writes =>
              cases first with
              | nil =>
                  cases split
                  exact ⟨turn, ptr, handles, rfl, rfl⟩
              | cons head tail => simp [systemEvents] at split
          | socketServer accepted =>
              cases accepted with
              | connection fd =>
                  rw [systemEvents] at inside
                  split at inside
                  · simp at inside
                  · simp at inside
              | failed errno => simp [systemEvents] at inside
          | stdin line => simp [systemEvents] at inside
  | calls other call =>
      rw [behind] at inside
      split at inside
      · cases call <;> simp [ThreadCall.event] at inside
      · cases inside
  | finish other =>
      rw [behind] at inside
      split at inside
      · simp at inside
      · cases inside
  | connects other => cases inside
  | transmits other chunk => cases inside
  | hangsUp other reset => cases inside
  | types read => cases inside
  | endsStdin => cases inside

theorem shared_readsLines (writer : GsonWriter platform) (stdin : stdinFileno ∈ inherited)
    (limit : Limit) (bindError : Option Nat) (events : List NetworkEvent) :
    (System.machine platform).Meets (System.ReadsLines writer)
      (shared writer inherited limit bindError events) := by
  induction events using List.reverseRecOn with
  | nil => exact Machine.Meets.nil
  | append_singleton events event ih =>
      have related := related_run writer stdin limit bindError events
      apply Machine.Refines.meets_concat ih
      intro first other rest split
      cases other with
      | onSocket client recv now writes =>
          obtain ⟨turn, ptr, handles, rfl, rfl⟩ := handles_of_onSocket related stdin split
          rw [List.append_nil]
          cases recv with
          | data chunk => exact related.readsLines stdin handles
          | shutdown => trivial
          | failed => trivial
      | _ => trivial

/-- The requests that a client has handed over are those that are answered on its socket, then
those whose lines wait in the kernel, and then those that it has not put on the socket. -/
theorem accounted (writer : GsonWriter platform) (stdin : stdinFileno ∈ inherited)
    (limit : Limit) (bindError : Option Nat) (events : List NetworkEvent) {client : Nat}
    {ptr : SocketPtr}
    (known : accepted ((machine writer inherited limit bindError).run events).loop
      (((machine writer inherited limit bindError).run events).clients client) = some ptr) :
    ∃ answered onWay, List.Forall₂ System.Answers answered
        (answersOn ((machine writer inherited limit bindError).trace events) ptr) ∧
      OnWay writer (queued ((machine writer inherited limit bindError).run events).loop
        (((machine writer inherited limit bindError).run events).clients client)) onWay ∧
      answered ++ (onWay ++
          (((machine writer inherited limit bindError).run events).clients client).outgoing) =
        ((System.machine platform).observing (System.asked client)).trace
          (shared writer inherited limit bindError events) := by
  have same := ((related_run writer stdin limit bindError events).mirrors client).sameActivity
  have answers := System.answers_run writer
    (shared_readsLines writer stdin limit bindError events) client
  obtain ⟨onWay, way, outgoing⟩ := same.outgoing
  rw [same.sock, known] at answers
  refine ⟨((System.machine platform).observing (System.taken codecs client)).trace
    (shared writer inherited limit bindError events), onWay, ?_, way, ?_⟩
  · rw [(refines stdin limit bindError).trace events]
    exact answers
  · rw [← outgoing]
    exact System.taken_run platform (shared writer inherited limit bindError events) client

/-- As many rounds as there are things to do get all requests answered whose lines are on the
socket, as long as the server runs and has it open. -/
theorem lines_are_answered (writer : GsonWriter platform) (stdin : stdinFileno ∈ inherited)
    (limit : Limit) (bindError : Option Nat) (events : List NetworkEvent)
    (turns : List Server.Turn)
    (unended : ((machine writer inherited limit bindError).run events).loop.kernel.ended =
      false)
    (enough : ((machine writer inherited limit bindError).run events).loop.pending ≤
      turns.length)
    (running : ((machine writer inherited limit bindError).run
      (events ++ turns.map .turn)).loop.process.running = true)
    {client : Nat} {ptr : SocketPtr}
    (opened : (((machine writer inherited limit bindError).run
      (events ++ turns.map .turn)).clients client).sock = some ptr)
    (registered : ptr ∈ ((machine writer inherited limit bindError).run
      (events ++ turns.map .turn)).loop.process.server.flexWaiter.sockets)
    (isOpen : (((machine writer inherited limit bindError).run
      (events ++ turns.map .turn)).loop.process.server.heap ptr).isOpen = true) :
    ∃ answered, List.Forall₂ System.Answers answered
        (answersOn ((machine writer inherited limit bindError).trace
          (events ++ turns.map .turn)) ptr) ∧
      answered ++ (((machine writer inherited limit bindError).run
          (events ++ turns.map .turn)).clients client).outgoing =
        ((System.machine platform).observing (System.asked client)).trace
          (shared writer inherited limit bindError (events ++ turns.map .turn)) := by
  have related := related_run writer stdin limit bindError (events ++ turns.map .turn)
  have old := (related.carries.running running).2.registered ptr registered
  obtain ⟨answered, onWay, answers, way, split⟩ := accounted writer stdin limit bindError
    (events ++ turns.map .turn) (accepted_eq_some opened old).1
  have drained : ((machine writer inherited limit bindError).run
      (events ++ turns.map .turn)).loop.pending = 0 := by
    obtain ⟨before, same⟩ := loop_run writer inherited limit bindError events
    have later := loop_turns writer inherited limit bindError
      ((machine writer inherited limit bindError).run events) turns
    rw [same] at unended enough later
    rw [← Machine.run_append, ← Machine.run_append] at later
    rw [later] at running ⊢
    apply Server.Loop.pending_of_rounds stdin limit bindError before _ unended _ _ running
    · intro event inside
      obtain ⟨turn, _, rfl⟩ := List.mem_map.mp inside
      exact ⟨turn, rfl⟩
    · rw [List.length_map]
      exact enough
  have empty : queued ((machine writer inherited limit bindError).run
      (events ++ turns.map .turn)).loop (((machine writer inherited limit bindError).run
        (events ++ turns.map .turn)).clients client) = [] := by
    rw [queued, opened]
    exact ((Server.Loop.pending_eq_zero_iff _).mp drained).2.2 ptr registered isOpen
  rw [empty] at way
  rw [way.eq_nil] at split
  exact ⟨answered, answers, split⟩

/-! Bob's login waits in the kernel for a round. -/

def bobSends : List NetworkEvent :=
  bobConnects ++ [.calls 0 .markConnected, .calls 0 (.sendLogin 0),
    .transmits 0 System.bobLine]

theorem waits_bobSends :
    ((machine GsonWriter.escaping (Finset.range 3) 1024 none).run
        bobSends).loop.kernel.ended = false ∧
      ((machine GsonWriter.escaping (Finset.range 3) 1024 none).run
        bobSends).loop.pending ≤ 1 := by
  decide +kernel

theorem serves_bobSends :
    ((machine GsonWriter.escaping (Finset.range 3) 1024 none).run
        (bobSends ++ [Server.Turn.plain].map .turn)).loop.process.running = true ∧
      (((machine GsonWriter.escaping (Finset.range 3) 1024 none).run
        (bobSends ++ [Server.Turn.plain].map .turn)).clients 0).sock = some 0 ∧
      (0 : SocketPtr) ∈ ((machine GsonWriter.escaping (Finset.range 3) 1024 none).run
        (bobSends ++ [Server.Turn.plain].map .turn)).loop.process.server.flexWaiter.sockets ∧
      (((machine GsonWriter.escaping (Finset.range 3) 1024 none).run
        (bobSends ++ [Server.Turn.plain].map .turn)).loop.process.server.heap 0).isOpen = true := by
  decide +kernel

theorem bobSends_is_answered :
    ∃ answered, List.Forall₂ System.Answers answered
        (answersOn ((machine GsonWriter.escaping (Finset.range 3) 1024 none).trace
          (bobSends ++ [Server.Turn.plain].map .turn)) 0) ∧
      answered ++ (((machine GsonWriter.escaping (Finset.range 3) 1024 none).run
          (bobSends ++ [Server.Turn.plain].map .turn)).clients 0).outgoing =
        ((System.machine Platform.escaping).observing (System.asked 0)).trace
          (shared GsonWriter.escaping (Finset.range 3) 1024 none
            (bobSends ++ [Server.Turn.plain].map .turn)) := by
  have answers := @lines_are_answered Codecs.compact Platform.escaping (Finset.range 3)
    GsonWriter.escaping (by decide) 1024 none bobSends [.plain] waits_bobSends.1
    waits_bobSends.2
  have served := serves_bobSends
  generalize (machine GsonWriter.escaping (Finset.range 3) 1024 none).run
    (bobSends ++ [Server.Turn.plain].map .turn) = network at answers served ⊢
  exact answers served.1 served.2.1 served.2.2.1 served.2.2.2

end Network

end AndroidMessenger.Chat
