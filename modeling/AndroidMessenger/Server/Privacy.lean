import AndroidMessenger.Server.Containers
import AndroidMessenger.Server.Delivery

namespace AndroidMessenger.Server

open Library Msg Networking

variable {codecs : Codecs}

/-! An error is meant for the client whose request it answers. -/

/-- The event without the memory behind what it reads.  No two runs have that in common:
the texts read before and the calls that answered them leave their traces there. -/
def withoutStale : Event → Event
  | .socket ptr (.data chunk) now writes =>
      .socket ptr (.data { chunk with beyond := [] }) now writes
  | event => event

/-- The error is written to the asking socket and to no other one, and the other
sockets get in every continuation what they get without the request. -/
structure PrivateError (codecs : Codecs) (before : List Event) (event : Event)
    (asker : SocketPtr) : Prop where
  told : ∃ text outcome, .wrote asker text outcome ∈
    (machine codecs).emits ((machine codecs).run before) event
  alone : ∀ other text outcome, .wrote other text outcome ∈
    (machine codecs).emits ((machine codecs).run before) event → other = asker
  unseen : ∀ after after', after.map withoutStale = after'.map withoutStale →
    ∀ other, other ≠ asker →
      textsTo other ((machine codecs).trace (before ++ event :: after)) =
        textsTo other ((machine codecs).trace (before ++ after'))

/-- The write loop comes to the asking socket and then to a closed one, behind which no
socket gets anything any more. -/
def Secluded (server : Server) (asker : SocketPtr) : Prop :=
  ∃ next rest, server.socketList = asker :: next :: rest ∧
    (server.heap next).isOpen = false

/-! The write loop up to a closed socket. -/

theorem writeLoop_of_closed {json : Ptree} {text : String}
    (written : Json.toText codecs json false = .ok text) (writes : Nat → WriteOutcome)
    (i : Nat) {ptr : SocketPtr} {server : Server}
    (closed : (server.heap ptr).isOpen = false) (rest : List SocketPtr) :
    writeLoop codecs json writes i (ptr :: rest) server =
      { server, actions := []
        thrown := some (.runtimeError "Can not write to closed socket.") } := by
  simp [writeLoop, written, Socket.write, closed]

def afterWrite (sock : Socket) (outcome : WriteOutcome) : Socket :=
  if outcome = .failed then { sock with isOpen := false } else sock

theorem writeLoop_of_head_open {json : Ptree} {text : String}
    (written : Json.toText codecs json false = .ok text) (writes : Nat → WriteOutcome)
    (i : Nat) {ptr : SocketPtr} {server : Server}
    (opened : (server.heap ptr).isOpen = true) (rest : List SocketPtr) :
    writeLoop codecs json writes i (ptr :: rest) server =
      let tail := writeLoop codecs json writes (i + 1) rest
        (server.setSocket ptr (afterWrite (server.heap ptr) (writes i)))
      { tail with actions := .wrote ptr text (writes i) :: tail.actions } := by
  cases outcome : writes i with
  | failed => simp [writeLoop, written, Socket.write, opened, outcome, afterWrite]
  | short count => simp [writeLoop, written, Socket.write, opened, outcome, afterWrite]
  | whole => simp [writeLoop, written, Socket.write, opened, outcome, afterWrite]

theorem ne_of_isOpen {server : Server} {closed opened : SocketPtr}
    (left : (server.heap closed).isOpen = false)
    (right : (server.heap opened).isOpen = true) : closed ≠ opened := by
  intro same
  subst same
  rw [left] at right
  cases right

theorem writeLoop_keeps_closed {json : Ptree} {text : String}
    (written : Json.toText codecs json false = .ok text) (writes : Nat → WriteOutcome)
    (i : Nat) (list : List SocketPtr) {server : Server} {ptr : SocketPtr}
    (closed : (server.heap ptr).isOpen = false) :
    ((writeLoop codecs json writes i list server).server.heap ptr).isOpen = false := by
  induction list generalizing i server with
  | nil => exact closed
  | cons head rest ih =>
      cases opened : (server.heap head).isOpen with
      | false =>
          rw [writeLoop_of_closed written writes i opened]
          exact closed
      | true =>
          rw [writeLoop_of_head_open written writes i opened]
          apply ih
          rwa [heap_setSocket_of_ne _ _ (ne_of_isOpen closed opened)]

theorem wrote_before_closed (json : Ptree) (writes : Nat → WriteOutcome) (i : Nat)
    {front rest : List SocketPtr} {next : SocketPtr} {server : Server}
    (closed : (server.heap next).isOpen = false) {action : Action}
    (inside : action ∈
      (writeLoop codecs json writes i (front ++ next :: rest) server).actions) :
    ∃ ptr ∈ front, ∃ text outcome, action = .wrote ptr text outcome := by
  cases written : Json.toText codecs json false with
  | error exn => cases front <;> simp [writeLoop, written] at inside
  | ok text =>
      induction front generalizing i server with
      | nil =>
          rw [List.nil_append, writeLoop_of_closed written writes i closed] at inside
          exact absurd inside List.not_mem_nil
      | cons head front ih =>
          cases opened : (server.heap head).isOpen with
          | false =>
              rw [List.cons_append, writeLoop_of_closed written writes i opened] at inside
              exact absurd inside List.not_mem_nil
          | true =>
              rw [List.cons_append, writeLoop_of_head_open written writes i opened] at inside
              rcases List.mem_cons.mp inside with rfl | inside
              · exact ⟨head, List.mem_cons_self, text, writes i, rfl⟩
              · obtain ⟨ptr, member, write⟩ := ih (i + 1)
                  (by rwa [heap_setSocket_of_ne _ _ (ne_of_isOpen closed opened)]) inside
                exact ⟨ptr, List.mem_cons_of_mem _ member, write⟩

/-! A request that is refused leaves the tables alone, and another server with the same
names refuses it the same way. -/

theorem dispatch_error {now : TimePoint} {call : Call} {server granted : Server}
    {err : Response.Error}
    (dispatched : call.dispatch (visitor now) server = (.error err, granted)) :
    granted = server := by
  rcases dispatch_cases now call server with ⟨req, _, _, equality⟩ | ⟨_, equality, _⟩
  · rw [equality] at dispatched
    cases dispatched
  · rw [equality] at dispatched
    exact (Prod.mk.inj dispatched).2.symm

theorem dispatch_error_congr {now : TimePoint} {call : Call} {server other : Server}
    {err : Response.Error}
    (dispatched : call.dispatch (visitor now) server = (.error err, server))
    (names : other.clientNames = server.clientNames) :
    call.dispatch (visitor now) other = (.error err, other) := by
  cases call with
  | visitLogin req =>
      change server.visitLogin now req = _ at dispatched
      change other.visitLogin now req = _
      by_cases used : req.sender ∈ server.clientNames
      · rw [visitLogin_of_mem now used] at dispatched
        rw [visitLogin_of_mem now (names ▸ used), (Prod.mk.inj dispatched).1]
      · rw [visitLogin_of_notMem now used] at dispatched
        cases dispatched
  | visitMessage req => cases dispatched
  | error originator code message =>
      obtain ⟨same, _⟩ := Prod.mk.inj dispatched
      exact Prod.ext same rfl

theorem react_of_error {server : Server} {ptr : SocketPtr} {chunk : Chunk} {json : Ptree}
    {call : Call} (visit : Visit codecs server ptr chunk json call) {now : TimePoint}
    (writes : Nat → WriteOutcome) {err : Response.Error}
    (dispatched : call.dispatch (visitor now) server = (.error err, server)) :
    server.react codecs (.socket ptr (.data chunk) now writes) =
      let sent := writeLoop codecs ((Response.error err).toJson codecs) writes 0
        server.socketList server
      { sent with actions := .answered ptr json (.error err) :: sent.actions } := by
  rw [react_of_visit visit now writes dispatched, broadcast_eq_writeLoop]

/-! A list in which only the asking socket is in front of a closed one stays so, and
nothing is written behind the closed socket. -/

def Blocked (server : Server) (asker : SocketPtr) : Prop :=
  ∃ front next rest, server.socketList = front ++ next :: rest ∧
    (∀ ptr ∈ front, ptr = asker) ∧ (server.heap next).isOpen = false

theorem onSocket_keeps_closed {server : Server} {ptr other : SocketPtr}
    (closed : (server.heap other).isOpen = false) (recv : Recv) (now : TimePoint)
    (writes : Nat → WriteOutcome) :
    ((server.onSocket codecs ptr recv now writes).server.heap other).isOpen = false := by
  cases opened : (server.heap ptr).isOpen with
  | false =>
      rw [onSocket_of_closed opened]
      exact closed
  | true =>
      have different := ne_of_isOpen closed opened
      rcases onSocket_cases codecs ptr recv now writes server with
        ⟨chunk, str, json, res, granted, _, _, _, responded, reaction⟩ |
        ⟨_, _, reaction⟩ | ⟨sock, thrown, _, reaction⟩
      · obtain ⟨_, _, call, _, dispatched⟩ := respond_eq_ok_iff.mp responded
        rw [reaction, broadcast_eq_writeLoop]
        apply writeLoop_keeps_closed (toText_response codecs res)
        rw [dispatch_frame dispatched]
        exact closed
      · rw [reaction, heap_removeSocketConnection_of_ne _ _ different,
          heap_setSocket_of_ne _ _ different]
        exact closed
      · rw [reaction]
        change ((server.setSocket ptr sock).heap other).isOpen = false
        rwa [heap_setSocket_of_ne _ _ different]

theorem wrote_of_blocked {server : Server} {asker : SocketPtr}
    (blocked : Blocked server asker) {event : Event} {other : SocketPtr} {text : String}
    {outcome : WriteOutcome}
    (inside : .wrote other text outcome ∈ (server.react codecs event).actions) :
    other = asker := by
  obtain ⟨front, next, rest, list, fronts, closed⟩ := blocked
  rcases mem_actions_react inside with ⟨ptr, done⟩ |
    ⟨ptr, chunk, now, writes, json, call, res, granted, rfl, visit, dispatched, _⟩
  · simp at done
  · have frame := dispatch_frame dispatched
    have list' : granted.socketList = front ++ next :: rest := by rw [frame, list]
    rw [react_of_visit visit now writes dispatched, broadcast_eq_writeLoop, list'] at inside
    rcases List.mem_cons.mp inside with same | inside
    · cases same
    · obtain ⟨ptr, member, _, _, same⟩ := wrote_before_closed _ _ _
        (by rw [frame]; exact closed) inside
      cases same
      exact fronts other member

theorem react_keeps_closed {server : Server} {other : SocketPtr}
    (closed : (server.heap other).isOpen = false) (old : other ≠ server.nextPtr)
    {event : Event} (noExit : event ≠ .stdin "exit") :
    ((server.react codecs event).server.heap other).isOpen = false := by
  cases event with
  | socketServer outcome =>
      cases outcome with
      | failed errno => exact closed
      | connection fd =>
          change (Function.update server.heap server.nextPtr _ other).isOpen = false
          rwa [Function.update_of_ne old]
  | stdin line =>
      rw [react, onSTDIN, if_neg fun same => noExit (by rw [same])]
      exact closed
  | socket ptr recv now writes =>
      rw [react]
      split
      · exact onSocket_keeps_closed closed recv now writes
      · exact closed

theorem Blocked.step {process : Process} (running : process.running = true)
    (fresh : ∀ ptr ∈ process.server.socketList, ptr < process.server.nextPtr)
    {asker : SocketPtr} (blocked : Blocked process.server asker) {event : Event}
    (goesOn : ((machine codecs).step process event).running = true) :
    Blocked ((machine codecs).step process event).server asker := by
  rw [step_of_running running] at goesOn ⊢
  obtain ⟨front, next, rest, list, fronts, closed⟩ := blocked
  have old : next ≠ process.server.nextPtr := by
    apply Nat.ne_of_lt
    apply fresh
    rw [list]
    simp
  have noExit : event ≠ .stdin "exit" := by
    intro same
    subst same
    cases (Process.running_iff _).mp goesOn |>.1
  have stays := @react_keeps_closed codecs _ _ closed old _ noExit
  rcases moves_cases codecs running event with ⟨fd, rfl⟩ | exit |
    ⟨ptr, now, writes, rfl, _, opened, _, removal⟩ | ⟨_, quiet⟩
  · refine ⟨front, next, rest ++ [process.server.nextPtr], ?_, fronts, stays⟩
    change process.server.socketList ++ [process.server.nextPtr] = _
    simp [list]
  · exact absurd exit noExit
  · have different := ne_of_isOpen closed opened
    refine ⟨front.filter fun other => other ≠ ptr, next,
      rest.filter fun other => other ≠ ptr, ?_, ?_, stays⟩
    · rw [removal, socketList_removeSocketConnection]
      change process.server.socketList.filter _ = _
      rw [list, List.filter_append, List.filter_cons_of_pos
        (by simpa using different)]
    · intro other inside
      exact fronts other (List.mem_filter.mp inside).1
  · exact ⟨front, next, rest, quiet.socketList.trans list, fronts, stays⟩

theorem nextPtr_of_listed (codecs : Codecs) (events : List Event) :
    ∀ ptr ∈ ((machine codecs).run events).server.socketList,
      ptr < ((machine codecs).run events).server.nextPtr := by
  intro ptr listed
  have tables := registry codecs events
  exact tables.fresh ptr ((tables.listed ptr).mp listed).1

theorem silent_of_blocked (before : List Event) {asker : SocketPtr}
    (blocked : ((machine codecs).run before).running = true →
      Blocked ((machine codecs).run before).server asker) (after : List Event) :
    (((machine codecs).run (before ++ after)).running = true →
      Blocked ((machine codecs).run (before ++ after)).server asker) ∧
    ∀ other, other ≠ asker →
      textsTo other ((machine codecs).traceFrom ((machine codecs).run before) after) = [] := by
  induction after using List.reverseRecOn with
  | nil =>
      rw [List.append_nil]
      exact ⟨blocked, fun _ _ => rfl⟩
  | append_singleton after event ih =>
      obtain ⟨blocked, silent⟩ := ih
      rw [← List.append_assoc, Machine.run_concat]
      have split := (machine codecs).traceFrom_run_concat before after event
      cases running : ((machine codecs).run (before ++ after)).running with
      | false =>
          refine ⟨?_, ?_⟩
          · rw [step_of_stopped running, running]
            intro impossible
            cases impossible
          · intro other different
            rw [split, textsTo_append, silent other different, emits_of_stopped running]
            rfl
      | true =>
          refine ⟨?_, ?_⟩
          · exact (blocked running).step running (nextPtr_of_listed codecs _)
          · intro other different
            rw [split, textsTo_append, silent other different, emits_of_running running]
            apply textsTo_eq_nil
            intro text outcome inside
            exact different (wrote_of_blocked (blocked running) inside)

/-! The step that answers a request with an error. -/

theorem exists_refusal {before : List Event} {event : Event} {asker : SocketPtr}
    {json : Ptree} {err : Response.Error}
    (answered : .answered asker json (.error err) ∈
      (machine codecs).emits ((machine codecs).run before) event) :
    ((machine codecs).run before).running = true ∧
      ∃ chunk now writes call, event = .socket asker (.data chunk) now writes ∧
        Visit codecs ((machine codecs).run before).server asker chunk json call ∧
        call.dispatch (visitor now) ((machine codecs).run before).server =
          (.error err, ((machine codecs).run before).server) := by
  obtain ⟨running, inside⟩ := mem_emits answered
  obtain ⟨chunk, now, writes, call, granted, socket, visit, dispatched⟩ :=
    visit_of_answered inside
  obtain rfl := dispatch_error dispatched
  exact ⟨running, chunk, now, writes, call, socket, visit, dispatched⟩

section Refusal

variable {server : Server} {asker : SocketPtr} {chunk : Chunk} {json : Ptree}
  {call : Call} {now : TimePoint} {writes : Nat → WriteOutcome} {err : Response.Error}

theorem shape_of_alone (nodup : server.socketList.Nodup)
    (told : ∃ text outcome, .wrote asker text outcome ∈ (writeLoop codecs
      ((Response.error err).toJson codecs) writes 0 server.socketList server).actions)
    (alone : ∀ other text outcome, .wrote other text outcome ∈ (writeLoop codecs
      ((Response.error err).toJson codecs) writes 0 server.socketList server).actions →
      other = asker) :
    server.socketList = [asker] ∨ ∃ next rest, server.socketList = asker :: next :: rest ∧
      (server.heap next).isOpen = false := by
  have written := toText_response codecs (.error err)
  obtain ⟨text, outcome, told⟩ := told
  cases list : server.socketList with
  | nil =>
      rw [list] at told
      exact absurd told List.not_mem_nil
  | cons head tail =>
      rw [list] at told alone nodup
      cases opened : (server.heap head).isOpen with
      | false =>
          rw [writeLoop_of_closed written writes 0 opened] at told
          exact absurd told List.not_mem_nil
      | true =>
          rw [writeLoop_of_head_open written writes 0 opened] at alone
          obtain rfl : head = asker := alone _ _ _ List.mem_cons_self
          cases tail with
          | nil => exact Or.inl rfl
          | cons next rest =>
              right
              refine ⟨next, rest, rfl, ?_⟩
              have different : next ≠ head := by
                intro same
                subst same
                simp at nodup
              cases reached : (server.heap next).isOpen with
              | false => rfl
              | true =>
                  have kept : ((server.setSocket head
                      (afterWrite (server.heap head) (writes 0))).heap next).isOpen =
                        true := by
                    rwa [heap_setSocket_of_ne _ _ different]
                  rw [writeLoop_of_head_open written writes 1 kept] at alone
                  have same := alone next _ _ (List.mem_cons_of_mem _ List.mem_cons_self)
                  exact absurd same different

theorem react_of_last (visit : Visit codecs server asker chunk json call)
    (dispatched : call.dispatch (visitor now) server = (.error err, server))
    (list : server.socketList = [asker]) :
    server.react codecs (.socket asker (.data chunk) now writes) =
      { server := server.setSocket asker (afterWrite (server.heap asker) (writes 0))
        actions := [.answered asker json (.error err),
          .wrote asker ((Response.error err).text codecs) (writes 0)]
        thrown := none } := by
  rw [react_of_error visit writes dispatched, list,
    writeLoop_of_head_open (toText_response codecs _) writes 0 visit.opened]
  rfl

theorem react_of_next_closed (visit : Visit codecs server asker chunk json call)
    (dispatched : call.dispatch (visitor now) server = (.error err, server))
    {next : SocketPtr} {rest : List SocketPtr}
    (list : server.socketList = asker :: next :: rest)
    (closed : (server.heap next).isOpen = false) :
    server.react codecs (.socket asker (.data chunk) now writes) =
      { server := server.setSocket asker (afterWrite (server.heap asker) (writes 0))
        actions := [.answered asker json (.error err),
          .wrote asker ((Response.error err).text codecs) (writes 0)]
        thrown := some (.runtimeError "Can not write to closed socket.") } := by
  have kept : ((server.setSocket asker
      (afterWrite (server.heap asker) (writes 0))).heap next).isOpen = false := by
    rwa [heap_setSocket_of_ne _ _ (ne_of_isOpen closed visit.opened)]
  have written := toText_response codecs (.error err)
  rw [react_of_error visit writes dispatched, list,
    writeLoop_of_head_open written writes 0 visit.opened,
    writeLoop_of_closed written writes 1 kept]

def connected (server : Server) : Server :=
  (server.makeSocket 0).2.addSocketConnection server.nextPtr

theorem socketList_connected (server : Server) :
    (connected server).socketList = server.socketList ++ [server.nextPtr] := rfl

theorem heap_connected_self (server : Server) :
    ((connected server).heap server.nextPtr).isOpen = true := by
  change (Function.update server.heap server.nextPtr _ server.nextPtr).isOpen = true
  rw [Function.update_self]

theorem heap_connected_of_ne (server : Server) {ptr : SocketPtr} (old : ptr ≠ server.nextPtr) :
    (connected server).heap ptr = server.heap ptr :=
  Function.update_of_ne old ..

theorem Visit.connected (visit : Visit codecs server asker chunk json call)
    (other : Server) :
    Visit codecs (Server.connected other) other.nextPtr chunk json call where
  registered := Finset.mem_insert_self _ _
  opened := heap_connected_self other
  parsed := visit.parsed
  representable := visit.representable
  decoded := visit.decoded

theorem traceFrom_connected {process : Process} (running : process.running = true)
    (event : Event) :
    (machine codecs).traceFrom process [.socketServer (.connection 0), event] =
      .accepted process.server.nextPtr ::
        ((connected process.server).react codecs event).actions := by
  have next : Process.running { server := connected process.server, thrown := none } =
      true :=
    (Process.running_iff _).mpr ⟨((Process.running_iff _).mp running).1, rfl⟩
  rw [Machine.traceFrom_cons, emits_of_running running, step_of_running running,
    Machine.traceFrom_cons, Machine.traceFrom_nil, List.append_nil]
  change _ ++ (machine codecs).emits { server := connected process.server, thrown := none } _ =
    _
  rw [emits_of_running next]
  rfl

theorem connected_unheard (visit : Visit codecs server asker chunk json call)
    (dispatched : call.dispatch (visitor now) server = (.error err, server))
    {other : Server} (names : other.clientNames = server.clientNames)
    (list : other.socketList = [asker]) (old : asker ≠ other.nextPtr)
    (closed : (other.heap asker).isOpen = false) :
    ((connected other).react codecs
      (.socket other.nextPtr (.data chunk) now fun _ => .whole)).actions =
        [.answered other.nextPtr json (.error err)] := by
  have refused := @dispatch_error_congr now call server (connected other) err dispatched names
  have shut : ((connected other).heap asker).isOpen = false := by
    rwa [heap_connected_of_ne other old]
  rw [react_of_error (visit.connected other) _ refused, socketList_connected, list,
    List.singleton_append, writeLoop_of_closed (toText_response codecs _) _ 0 shut]

theorem connected_heard (visit : Visit codecs server asker chunk json call)
    (dispatched : call.dispatch (visitor now) server = (.error err, server))
    (list : server.socketList = [asker]) (old : asker ≠ server.nextPtr) :
    textsTo server.nextPtr ((connected server).react codecs
      (.socket server.nextPtr (.data chunk) now fun _ => .whole)).actions =
        [Utf8.encode ((Response.error err).text codecs)] := by
  have refused := @dispatch_error_congr now call server (connected server) err dispatched rfl
  have opened : ∀ ptr ∈ (connected server).socketList,
      ((connected server).heap ptr).isOpen = true := by
    intro ptr listed
    rw [socketList_connected, list] at listed
    rcases List.mem_cons.mp listed with rfl | last
    · rw [heap_connected_of_ne server old]
      exact visit.opened
    · rw [List.mem_singleton.mp last]
      exact heap_connected_self server
  rw [react_of_open (visit.connected server) now (fun _ => rfl) refused opened]
  change textsTo _ ([_] ++ wroteTo _ _) = _
  have nodup : (connected server).socketList.Nodup := by
    rw [socketList_connected, list]
    simp [old]
  rw [textsTo_append, textsTo_wroteTo _ nodup, if_pos (by simp [socketList_connected])]
  rfl

def nextClient (server : Server) (chunk : Chunk) (now : TimePoint) : List Event :=
  [.socketServer (.connection 0), .socket server.nextPtr (.data chunk) now fun _ => .whole]

theorem nextClient_withoutStale (server : Server) (now : TimePoint) {heard silent : Chunk}
    (same : heard.bytes = silent.bytes) :
    (nextClient server heard now).map withoutStale =
      (nextClient server silent now).map withoutStale := by
  obtain ⟨bytes, _, _, _⟩ := heard
  obtain ⟨bytes', _, _, _⟩ := silent
  obtain rfl : bytes = bytes' := same
  rfl

/-- When the only write of the answer fails, the asker is closed but stays listed in
front of the next client, which gets nothing from then on. -/
theorem next_client_unheard {process : Process} (running : process.running = true)
    (visit : Visit codecs process.server asker chunk json call)
    (dispatched : call.dispatch (visitor now) process.server =
      (.error err, process.server))
    (list : process.server.socketList = [asker]) (old : asker ≠ process.server.nextPtr)
    (failed : writes 0 = .failed) :
    textsTo process.server.nextPtr ((machine codecs).traceFrom process
      (.socket asker (.data chunk) now writes :: nextClient process.server chunk now)) =
        [] := by
  let shut := process.server.setSocket asker
    (afterWrite (process.server.heap asker) (writes 0))
  have next : Process.running { server := shut, thrown := none } = true :=
    (Process.running_iff _).mpr ⟨((Process.running_iff _).mp running).1, rfl⟩
  have closed : (shut.heap asker).isOpen = false := by
    simp [shut, afterWrite, failed]
  have last := @react_of_last codecs _ _ _ _ _ now writes err visit dispatched list
  have silent := @connected_unheard codecs _ _ _ _ _ _ _ visit dispatched shut rfl list old
    closed
  have rest := @traceFrom_connected codecs _ next
    (.socket shut.nextPtr (.data chunk) now fun _ => .whole)
  rw [silent] at rest
  rw [Machine.traceFrom_cons, emits_of_running running, step_of_running running, last]
  change textsTo _ (_ ++ (machine codecs).traceFrom { server := shut, thrown := none }
    [_, .socket shut.nextPtr _ _ _]) = []
  rw [rest]
  simp [textsTo, old]

theorem next_client_heard {process : Process} (running : process.running = true)
    (visit : Visit codecs process.server asker chunk json call)
    (dispatched : call.dispatch (visitor now) process.server =
      (.error err, process.server))
    (list : process.server.socketList = [asker]) (old : asker ≠ process.server.nextPtr) :
    textsTo process.server.nextPtr ((machine codecs).traceFrom process
      (nextClient process.server chunk now)) ≠ [] := by
  rw [nextClient, traceFrom_connected running, ← List.singleton_append, textsTo_append,
    connected_heard visit dispatched list old]
  simp

theorem next_client_unread {process : Process} (running : process.running = true)
    (unread : chunk.stored = none) :
    textsTo process.server.nextPtr ((machine codecs).traceFrom process
      (nextClient process.server chunk now)) = [] := by
  have member : process.server.nextPtr ∈ (connected process.server).flexWaiter.sockets :=
    Finset.mem_insert_self _ _
  rw [nextClient, traceFrom_connected running, react, if_pos member,
    onSocket_of_unterminated (heap_connected_self _) unread]
  rfl

theorem stored_of_mem (nul : (0 : UInt8) ∈ chunk.bytes) {str : Bytes}
    (stored : chunk.stored = some str) :
    str = chunk.bytes.takeWhile fun byte => byte ≠ 0 := by
  have inside : (0 : UInt8) ∈ chunk.bytes ++ chunk.beyond := List.mem_append_left _ nul
  rw [Chunk.stored, cString, if_pos inside, Option.some.injEq] at stored
  rw [← stored, List.takeWhile_append, if_neg]
  intro full
  rw [← (List.takeWhile_prefix _).eq_of_length full] at nul
  simpa using List.mem_takeWhile_imp nul

theorem exists_unread (empty : codecs.readJson [] = none)
    (visit : Visit codecs server asker chunk json call) :
    ∃ heard silent : Chunk, heard.bytes = silent.bytes ∧ heard.stored = chunk.stored ∧
      silent.stored = none := by
  obtain ⟨str, stored, parsed⟩ := visit.parsed
  by_cases nul : (0 : UInt8) ∈ chunk.bytes
  · -- The stored text ends inside the bytes, and is the start of them.
    have prefixed : str = chunk.bytes.takeWhile fun byte => byte ≠ 0 :=
      stored_of_mem nul stored
    have nonempty : str ≠ [] := by
      intro none
      rw [none, Json.fromText] at parsed
      have cleaned : Json.clean [] = [] := rfl
      rw [cleaned, empty] at parsed
      cases parsed
    have bounded : str.length ≤ maxBufferSize := by
      rw [prefixed]
      exact (List.takeWhile_sublist _).length_le.trans chunk.bounded
    have free : (0 : UInt8) ∉ str := by
      rw [prefixed]
      intro inside
      simpa using List.mem_takeWhile_imp inside
    refine ⟨⟨str, nonempty, bounded, [0]⟩, ⟨str, nonempty, bounded, []⟩, rfl, ?_, ?_⟩
    · rw [stored]
      exact cString_append free []
    · simp [Chunk.stored, cString, free]
  · exact ⟨chunk, { chunk with beyond := [] }, rfl, rfl, by simp [Chunk.stored, cString, nul]⟩

theorem traceFrom_of_last {process : Process} (running : process.running = true)
    (visit : Visit codecs process.server asker chunk json call)
    (dispatched : call.dispatch (visitor now) process.server =
      (.error err, process.server))
    (list : process.server.socketList = [asker]) (succeeds : writes 0 ≠ .failed)
    (after : List Event) :
    (machine codecs).traceFrom process (.socket asker (.data chunk) now writes :: after) =
      [.answered asker json (.error err),
        .wrote asker ((Response.error err).text codecs) (writes 0)] ++
        (machine codecs).traceFrom process after := by
  have unchanged : afterWrite (process.server.heap asker) (writes 0) =
      process.server.heap asker := if_neg succeeds
  have reaction := @react_of_last codecs _ _ _ _ _ now writes err visit dispatched list
  rw [unchanged, setSocket_heap] at reaction
  have same : ({ server := process.server, thrown := none } : Process) = process := by
    rw [← ((Process.running_iff _).mp running).2]
  rw [Machine.traceFrom_cons, emits_of_running running, step_of_running running, reaction,
    same]

end Refusal

theorem traceFrom_of_stopped {process : Process} (stopped : process.running = false)
    (events : List Event) : (machine codecs).traceFrom process events = [] := by
  induction events with
  | nil => rfl
  | cons event events ih =>
      rw [Machine.traceFrom_cons, step_of_stopped stopped, emits_of_stopped stopped, ih]
      rfl

/-- An error stays between the server and its asker exactly when the next socket in the
list is closed, so that the server ends behind the asker. -/
theorem privateError_iff (codecs : Codecs) (empty : codecs.readJson [] = none)
    (before : List Event) (event : Event) (asker : SocketPtr) (json : Ptree)
    (err : Response.Error)
    (answered : .answered asker json (.error err) ∈
      (machine codecs).emits ((machine codecs).run before) event) :
    PrivateError codecs before event asker ↔
      Secluded ((machine codecs).run before).server asker := by
  obtain ⟨running, chunk, now, writes, call, rfl, visit, dispatched⟩ :=
    exists_refusal answered
  have tables := registry codecs before
  have old : asker ≠ ((machine codecs).run before).server.nextPtr := by
    apply Nat.ne_of_lt
    apply nextPtr_of_listed
    exact (tables.waiter asker).mp visit.registered
  constructor
  · intro kept
    have told := kept.told
    have alone := kept.alone
    rw [emits_of_running running, react_of_error visit writes dispatched] at told alone
    rcases shape_of_alone tables.nodup (by simpa using told)
      (fun other text outcome inside => alone other text outcome
        (List.mem_cons_of_mem _ inside)) with last | next
    · -- The next client tells the two runs apart.
      exfalso
      by_cases failed : writes 0 = .failed
      · have same := kept.unseen
          (nextClient ((machine codecs).run before).server chunk now) _ rfl _ (Ne.symm old)
        rw [Machine.trace_append, Machine.trace_append, textsTo_append, textsTo_append,
          List.append_cancel_left_eq,
          next_client_unheard running visit dispatched last old failed] at same
        exact next_client_heard running visit dispatched last old same.symm
      · obtain ⟨heard, silent, bytes, stored, unread⟩ := exists_unread empty visit
        have again : Visit codecs ((machine codecs).run before).server asker heard json call :=
          { visit with parsed := by rw [stored]; exact visit.parsed }
        have alike := nextClient_withoutStale ((machine codecs).run before).server now bytes
        have same := kept.unseen _ _ alike _ (Ne.symm old)
        rw [Machine.trace_append, Machine.trace_append, textsTo_append, textsTo_append,
          List.append_cancel_left_eq, next_client_unread running unread,
          traceFrom_of_last running visit dispatched last failed, textsTo_append] at same
        exact next_client_heard running again dispatched last old
          (List.append_eq_nil_iff.mp same).2
    · exact next
  · intro secluded
    rcases secluded with ⟨next, rest, list, closed⟩
    have reaction := @react_of_next_closed codecs _ _ _ _ _ now writes err visit
      dispatched _ _ list closed
    have blocked : Blocked ((machine codecs).run before).server asker :=
      ⟨[asker], next, rest, list, by simp, closed⟩
    refine ⟨?_, ?_, ?_⟩
    · rw [emits_of_running running, reaction]
      exact ⟨_, _, List.mem_cons_of_mem _ List.mem_cons_self⟩
    · rw [emits_of_running running, reaction]
      intro other _ _ inside
      simp at inside
      exact inside.1
    · intro after after' _ other different
      have unwritten : textsTo other [.answered asker json (.error err),
          .wrote asker ((Response.error err).text codecs) (writes 0)] = [] := by
        simp [textsTo, Ne.symm different]
      have without := (silent_of_blocked before (fun _ => blocked) after').2 other different
      rw [Machine.trace_append, Machine.trace_append, textsTo_append, textsTo_append, without,
        Machine.traceFrom_cons, textsTo_append, emits_of_running running,
        step_of_running running, reaction, unwritten,
        traceFrom_of_stopped (by simp [Process.running])]
      rfl

/-! Bob asks for his name again, alone and in front of another client. -/

def bobError : Response.Error :=
  Response.Error.ofCode 0 Instance.serverSender ErrorCode.userNameInUse
    "You dun goofed. Username is in use. (Server Error)"

theorem privateError_bobAlone :
    PrivateError Codecs.compact [.socketServer (.connection 5), bobReads 0] (bobReads 0) 0 ↔
      Secluded ((machine Codecs.compact).run
        [.socketServer (.connection 5), bobReads 0]).server 0 :=
  privateError_iff Codecs.compact (by decide +kernel) _ _ 0 bobJson bobError (by
    rw [run_bobIn, emits_of_running rfl,
      react_bob_refused (by decide) (by decide) (by decide) (by decide)]
    exact List.mem_cons_self)

theorem bob_refusal_is_broadcast :
    .answered 1 bobJson (.error bobError) ∈ (machine Codecs.compact).emits
        ((machine Codecs.compact).run bobStays) (bobReads 1) ∧
      ¬ PrivateError Codecs.compact bobStays (bobReads 1) 1 := by
  constructor
  · rw [emits_bobStays]
    exact List.mem_cons_self
  · intro kept
    have broadcast := kept.alone 0 (bobRefused.text Codecs.compact) .whole (by
      rw [emits_bobStays]
      exact List.mem_cons_of_mem _ List.mem_cons_self)
    cases broadcast

end AndroidMessenger.Server
