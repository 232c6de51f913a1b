import AndroidMessenger.Chat.Broadcast
import AndroidMessenger.Chat.Requests

namespace AndroidMessenger.Chat.System

open Library Msg Networking Client

variable {codecs : Codecs} {platform : Platform codecs}

/-! What the server answers to the requests that wait for it. -/

/-- The request is one that the server answers so. -/
inductive Answers : NetworkRequest → Response → Prop where
  | granted {req : LoginRequest} {res : Response.Login}
      (same : res.joiningUsername = req.sender) : Answers (.login req) (.login res)
  | refused (req : LoginRequest) {err : Response.Error}
      (inUse : err.errorCode = .userNameInUse) : Answers (.login req) (.error err)
  | told {req : MessageRequest} {res : Response.Message}
      (sender : req.sender = some res.originator) (content : res.content = req.content) :
      Answers (.message req) (.message res)

theorem answers_of_dispatch {call : Call} {request : NetworkRequest}
    (readAs : isReadAs call request = true) {now : TimePoint} {server granted : Server}
    {res : Response}
    (dispatched : call.dispatch (Server.visitor now) server = (res, granted)) :
    Answers request res := by
  cases call with
  | visitLogin req =>
      cases request with
      | login sent =>
          have same : req.sender = sent.sender := by simpa [isReadAs] using readAs
          by_cases used : req.sender ∈ server.clientNames
          · change server.visitLogin now req = (res, granted) at dispatched
            rw [Server.visitLogin_of_mem now used] at dispatched
            obtain ⟨rfl, _⟩ := Prod.mk.inj dispatched
            exact Answers.refused sent rfl
          · change server.visitLogin now req = (res, granted) at dispatched
            rw [Server.visitLogin_of_notMem now used] at dispatched
            obtain ⟨rfl, _⟩ := Prod.mk.inj dispatched
            exact Answers.granted same
      | message sent => simp [isReadAs] at readAs
  | visitMessage req =>
      cases request with
      | login sent => simp [isReadAs] at readAs
      | message sent =>
          obtain ⟨sender, content⟩ :
              some req.sender = sent.sender ∧ req.content = sent.content := by
            simpa [isReadAs] using readAs
          obtain ⟨rfl, _⟩ := Prod.mk.inj dispatched
          exact Answers.told sender.symm content
  | error originator code message => simp [isReadAs] at readAs

theorem readAs_of_tree (writer : GsonWriter platform) {request : NetworkRequest}
    (named : Named request) :
    ∃ call, Call.ofJson codecs (.node "" (JsonElement.childrenOf (request.toJson writer))) =
      .ok call ∧ isReadAs call request = true := by
  cases request with
  | login req =>
      obtain ⟨time, user⟩ := req
      obtain ⟨_, decoded⟩ := NetworkRequest.ofJson_login writer time user
      exact ⟨_, decoded, by simp [isReadAs]⟩
  | message req =>
      obtain ⟨time, sender, content⟩ := req
      obtain ⟨user, rfl⟩ := Option.isSome_iff_exists.mp named
      obtain ⟨_, decoded⟩ := NetworkRequest.ofJson_message writer time user content
      exact ⟨_, decoded, by simp [isReadAs]⟩

theorem readAs_of_line (writer : GsonWriter platform) {request : NetworkRequest}
    (named : Named request) :
    ∃ json call, Json.fromText codecs (Utf8.encode (request.line writer)) = .ok json ∧
      json.Representable ∧ Call.ofJson codecs json = .ok call ∧
      isReadAs call request = true := by
  obtain ⟨call, decoded, readAs⟩ := readAs_of_tree writer named
  exact ⟨_, call, NetworkRequest.fromText_line writer _,
    NetworkRequest.representable_toJson writer _, decoded, readAs⟩

theorem readAs_of_visit (writer : GsonWriter platform) {request : NetworkRequest}
    (named : Named request) {server : Server} {ptr : SocketPtr} {chunk : Chunk} {json : Ptree}
    {call : Call} (visit : Server.Visit codecs server ptr chunk json call)
    (stored : chunk.stored = some (Utf8.encode (request.line writer))) :
    isReadAs call request = true := by
  obtain ⟨tree, own, parsed, _, decoded, readAs⟩ := readAs_of_line writer named
  obtain ⟨text, held, read⟩ := visit.parsed
  obtain rfl : Utf8.encode (request.line writer) = text :=
    Option.some.inj (stored.symm.trans held)
  obtain rfl : tree = json := Except.ok.inj (parsed.symm.trans read)
  obtain rfl : own = call := Except.ok.inj (decoded.symm.trans visit.decoded)
  exact readAs

/-- What is read from a client is the line of its next request, with a NUL behind it. -/
def ReadsLines (writer : GsonWriter platform) (_ : List Action) (system : System) :
    SystemEvent → Prop
  | .onSocket client (.data chunk) _ _ =>
      ∃ request rest, (system.clients client).outgoing = request :: rest ∧
        chunk.stored = some (Utf8.encode (request.line writer))
  | _ => True

theorem next_of_visits {writer : GsonWriter platform} {events : List SystemEvent}
    {trace : List Action} {client : Nat} {recv : Recv} {now : TimePoint}
    {writes : Nat → WriteOutcome} {ptr : SocketPtr} {visit : SocketPtr × Ptree × Call}
    (line : ReadsLines writer trace ((machine platform).run events)
      (.onSocket client recv now writes))
    (visits : Server.visits codecs (.socket ptr recv now writes)
      ((machine platform).run events).process.server = some visit) :
    ∃ request rest,
      (((machine platform).run events).clients client).outgoing = request :: rest ∧
        isReadAs visit.2.2 request = true := by
  obtain ⟨target, json, call⟩ := visit
  obtain ⟨chunk, _, _, equality, visit⟩ := Server.visits_eq_some_iff.mp visits
  cases equality
  obtain ⟨request, rest, waiting, stored⟩ := line
  have named : Named request := by
    apply named_of_outgoing
    rw [waiting]
    exact List.mem_cons_self
  exact ⟨request, rest, waiting, readAs_of_visit writer named visit stored⟩

/-- The server runs and has the socket, and every socket that it has is open. -/
structure Serving (system : System) (ptr : SocketPtr) : Prop where
  running : system.process.running = true
  listed : ptr ∈ system.process.server.socketList
  opened : ∀ other ∈ system.process.server.socketList,
    (system.process.server.heap other).isOpen = true

def reads (author : Nat) (chunk : Chunk) (now : TimePoint) : SystemEvent :=
  .onSocket author (.data chunk) now fun _ => .whole

/-- The server reads the line of the request that is next. -/
structure NextLine (writer : GsonWriter platform) (system : System) (author : Nat)
    (ptr : SocketPtr) (request : NetworkRequest) (chunk : Chunk) : Prop where
  serving : Serving system ptr
  listens : (system.clients author).sock = some ptr
  waiting : ∃ rest, (system.clients author).outgoing = request :: rest
  stored : chunk.stored = some (Utf8.encode (request.line writer))

theorem serverEvent_reads {writer : GsonWriter platform} {system : System} {author : Nat}
    {ptr : SocketPtr} {request : NetworkRequest} {chunk : Chunk}
    (next : NextLine writer system author ptr request chunk)
    (named : Named request) (registered : ptr ∈ system.process.server.flexWaiter.sockets)
    (now : TimePoint) :
    ∃ json call, Server.Visit codecs system.process.server ptr chunk json call ∧
      isReadAs call request = true ∧
      system.serverEvent codecs (reads author chunk now) =
        some (.socket ptr (.data chunk) now fun _ => .whole,
          system.update author MainActivity.takeRequest) := by
  obtain ⟨json, call, parsed, representable, decoded, readAs⟩ :=
    readAs_of_line writer named
  obtain ⟨rest, waiting⟩ := next.waiting
  have visit : Server.Visit codecs system.process.server ptr chunk json call :=
    ⟨registered, next.serving.opened ptr next.serving.listed, ⟨_, next.stored, parsed⟩,
      representable, decoded⟩
  have visited := Server.visits_eq_some_iff.mpr
    ⟨chunk, now, fun _ => .whole, rfl, visit⟩
  have first := visitsNext_iff.mpr ⟨_, request, rest, visited, waiting, readAs⟩
  refine ⟨json, call, visit, readAs, ?_⟩
  simp only [reads, serverEvent, next.listens, first, if_true]

theorem step_reads {writer : GsonWriter platform} {events : List SystemEvent} {author : Nat}
    {ptr : SocketPtr} {request : NetworkRequest} {chunk : Chunk}
    (next : NextLine writer ((machine platform).run events) author ptr request chunk)
    (now : TimePoint) :
    ∃ json res, Answers request res ∧
      Serving ((machine platform).run (events ++ [reads author chunk now])) ptr ∧
      (((machine platform).run (events ++ [reads author chunk now])).clients author).outgoing =
        (((machine platform).run events).clients author).outgoing.drop 1 ∧
      ((machine platform).run (events ++ [reads author chunk now])).process.server.socketList =
        ((machine platform).run events).process.server.socketList ∧
      (machine platform).emits ((machine platform).run events) (reads author chunk now) =
        .answered ptr json res :: Server.wroteTo (res.text codecs)
          ((machine platform).run events).process.server.socketList := by
  have tables := Server.registry codecs
    (((machine platform).observing (behind codecs)).trace events)
  rw [← (refines platform).run events] at tables
  have running := next.serving.running
  have named : Named request := by
    obtain ⟨rest, waiting⟩ := next.waiting
    apply named_of_outgoing
    rw [waiting]
    exact List.mem_cons_self
  obtain ⟨json, call, visit, readAs, prepares⟩ :=
    serverEvent_reads next named ((tables.waiter ptr).mpr next.serving.listed) now
  rcases dispatched : call.dispatch (Server.visitor now)
    ((machine platform).run events).process.server with ⟨res, granted⟩
  have reaction := Server.react_of_open visit now (fun _ => rfl) dispatched next.serving.opened
  have frame := Server.dispatch_frame dispatched
  have stepped : (machine platform).run (events ++ [reads author chunk now]) =
      (((machine platform).run events).update author MainActivity.takeRequest).react codecs
        (.socket ptr (.data chunk) now fun _ => .whole) := by
    rw [Machine.run_concat]
    change ((machine platform).run events).serve codecs _ = _
    rw [serve, if_pos running, prepares]
  have process : ((machine platform).run
      (events ++ [reads author chunk now])).process = { server := granted, thrown := none } := by
    rw [stepped]
    change (Server.machine codecs).step ((machine platform).run events).process _ = _
    rw [Server.step_of_running running, reaction]
  refine ⟨json, res, answers_of_dispatch readAs dispatched, ?_, ?_, ?_, ?_⟩
  · have active := ((Process.running_iff _).mp running).1
    refine ⟨?_, ?_, ?_⟩
    · rw [process, frame]
      exact (Process.running_iff _).mpr ⟨active, rfl⟩
    · rw [process, frame]
      exact next.serving.listed
    · rw [process, frame]
      exact next.serving.opened
  · rw [stepped, outgoing_react, clients_update_self, MainActivity.outgoing_takeRequest]
  · rw [process, frame]
  · change ((machine platform).run events).emits codecs _ = _
    rw [emits, if_pos running, prepares]
    change (Server.machine codecs).emits _ _ = _
    rw [Server.emits_of_running running, reaction]
    rfl

theorem textsTo_answered (asker : SocketPtr) (json : Ptree) (res : Response)
    {list : List SocketPtr} (nodup : list.Nodup) {ptr : SocketPtr} (listed : ptr ∈ list) :
    textsTo (.answered asker json res :: Server.wroteTo (res.text codecs) list) ptr =
      [res.text codecs] := by
  have whole : ∀ other text outcome,
      .wrote other text outcome ∈ Server.wroteTo (res.text codecs) list →
        outcome = .whole := by
    intro other text outcome wrote
    obtain ⟨_, _, equality⟩ := List.mem_map.mp wrote
    cases equality
    rfl
  apply List.map_injective_iff.mpr Utf8.encode_injective
  change (textsTo (Server.wroteTo (res.text codecs) list) ptr).map Utf8.encode = _
  rw [encode_textsTo whole, Server.textsTo_wroteTo _ nodup, if_pos listed]
  rfl

theorem got_concat {events : List SystemEvent} {client : Nat} {ptr : SocketPtr}
    (listens : (((machine platform).run events).clients client).sock = some ptr)
    (event : SystemEvent) :
    (((machine platform).run (events ++ [event])).clients client).sock = some ptr ∧
      got platform (events ++ [event]) client = got platform events client ++
        textsTo ((machine platform).emits ((machine platform).run events) event) ptr := by
  have kept : (((machine platform).run (events ++ [event])).clients client).sock =
      some ptr := by
    rw [Machine.run_concat]
    rcases sock_step events event with same | ⟨joining, opens⟩
    · exact (same client).trans listens
    · have other : client ≠ joining := by
        rintro rfl
        rw [opens.closed] at listens
        cases listens
      exact (opens.others client other).trans listens
  refine ⟨kept, ?_⟩
  rw [got, texts_in_turn, kept, got, texts_in_turn, listens, Machine.trace_concat]
  exact textsTo_append _ _ ptr

def readsAll (author : Nat) (chunks : List (Chunk × TimePoint)) : List SystemEvent :=
  chunks.map fun read => reads author read.1 read.2

/-- When the server reads the lines of a client one by one, it answers all that waits, and
all clients that it has get the answers in the same order. -/
theorem requests_get_through (writer : GsonWriter platform) {events : List SystemEvent}
    {author : Nat} {ptr : SocketPtr} (serving : Serving ((machine platform).run events) ptr)
    (listens : (((machine platform).run events).clients author).sock = some ptr)
    {chunks : List (Chunk × TimePoint)}
    (lines : List.Forall₂
      (fun request read => read.1.stored = some (Utf8.encode (request.line writer)))
      (((machine platform).run events).clients author).outgoing chunks) :
    (((machine platform).run (events ++ readsAll author chunks)).clients
        author).outgoing = [] ∧
      ∃ responses, List.Forall₂ Answers
          (((machine platform).run events).clients author).outgoing responses ∧
        ∀ client target, (((machine platform).run events).clients client).sock = some target →
          target ∈ ((machine platform).run events).process.server.socketList →
          got platform (events ++ readsAll author chunks) client =
            got platform events client ++ responses.map (Response.text codecs) := by
  generalize waiting : (((machine platform).run events).clients author).outgoing = requests
    at lines ⊢
  induction lines generalizing events with
  | nil =>
      rw [readsAll, List.map_nil, List.append_nil]
      refine ⟨waiting, [], List.Forall₂.nil, ?_⟩
      intro client target _ _
      exact (List.append_nil _).symm
  | @cons request read requests chunks stored lines ih =>
      have next : NextLine writer ((machine platform).run events) author ptr request read.1 :=
        ⟨serving, listens, ⟨requests, waiting⟩, stored⟩
      obtain ⟨json, res, answers, serves, dropped, list, emits⟩ := step_reads next read.2
      rw [waiting] at dropped
      obtain ⟨empty, responses, all, gets⟩ := ih serves (got_concat listens _).1 dropped
      have split : events ++ readsAll author (read :: chunks) =
          events ++ [reads author read.1 read.2] ++ readsAll author chunks := by
        simp [readsAll]
      rw [split]
      refine ⟨empty, res :: responses, List.Forall₂.cons answers all, ?_⟩
      intro client target hears listed
      have tables := Server.registry codecs
        (((machine platform).observing (behind codecs)).trace events)
      rw [← (refines platform).run events] at tables
      obtain ⟨kept, more⟩ := got_concat hears (reads author read.1 read.2)
      rw [gets client target kept (list ▸ listed), more, emits,
        textsTo_answered ptr json res tables.nodup listed, List.append_assoc]
      rfl

/-! Bob and another client wait for the answer to Bob's login. -/

def bobAsks : NetworkRequest :=
  .login { dateTime := 0, sender := "bob" }

def bobLine : Chunk :=
  Chunk.ofLine (Platform.escaping.toString (bobAsks.toJson GsonWriter.escaping))
    (by decide +kernel)

theorem stored_bobLine :
    bobLine.stored = some (Utf8.encode (bobAsks.line GsonWriter.escaping)) := by
  have newline : Utf8.encode "\n" = [10] := by decide
  rw [bobLine, Chunk.stored_ofLine _ (by decide +kernel), NetworkRequest.line,
    Utf8.encode_append, newline]

theorem serving_bothAsk : Serving ((machine Platform.escaping).run bothAsk) 0 :=
  ⟨rfl, by decide +kernel, by decide +kernel⟩

theorem bobAsks_gets_through :
    (((machine Platform.escaping).run
        (bothAsk ++ readsAll 0 [(bobLine, 0)])).clients 0).outgoing = [] ∧
      ∃ responses, List.Forall₂ Answers [bobAsks] responses ∧
        ∀ client target,
          (((machine Platform.escaping).run bothAsk).clients client).sock = some target →
          target ∈ ((machine Platform.escaping).run bothAsk).process.server.socketList →
          got Platform.escaping (bothAsk ++ readsAll 0 [(bobLine, 0)]) client =
            got Platform.escaping bothAsk client ++
              responses.map (Response.text Codecs.compact) :=
  requests_get_through GsonWriter.escaping serving_bothAsk rfl
    (List.Forall₂.cons stored_bobLine List.Forall₂.nil)

end AndroidMessenger.Chat.System
