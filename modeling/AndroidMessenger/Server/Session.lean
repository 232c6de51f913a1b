import AndroidMessenger.Server.Names

namespace AndroidMessenger.Server

open Library Msg Networking

variable {codecs : Codecs}

/-! The session protocol that `ErrorCode` describes: a request that is valid but
comes at the wrong time is answered with a code of its own and changes nothing.
The code is never used, and `visit` does not know the socket. -/

def Rejected (server after : Server) (res : Response) : Prop :=
  (∃ err, res = .error err ∧ err.errorCode = ErrorCode.invalidRequestFromClient) ∧
    SameTables server after

/-- The answer to one visited request, and the server after it, obey the session
protocol. -/
structure InSession (codecs : Codecs) (trace : List Action) (server after : Server)
    (ptr : SocketPtr) (call : Call) (res : Response) : Prop where
  originator : ∀ answer, res = .message answer →
    Granted codecs trace ptr answer.originator
  oneLogin : ∀ answer, res = .login answer → ∀ name, ¬ Granted codecs trace ptr name
  wrongMessage : ∀ req, call = .visitMessage req →
    ¬ Granted codecs trace ptr req.sender → Rejected server after res
  wrongLogin : ∀ req, call = .visitLogin req →
    (∃ name, Granted codecs trace ptr name) → Rejected server after res

def AnswersInSession (codecs : Codecs) (trace : List Action) (process : Process)
    (event : Event) : Prop :=
  ∀ ptr json call res,
    .answered ptr json res ∈ (machine codecs).emits process event →
    Call.ofJson codecs json = .ok call →
    InSession codecs trace process.server ((machine codecs).step process event).server
      ptr call res

/-- A message carries a name that its socket holds, and a login comes from a
socket that holds no name. -/
def Timely (codecs : Codecs) (trace : List Action) (ptr : SocketPtr) : Call → Prop
  | .visitLogin _ => ∀ name, ¬ Granted codecs trace ptr name
  | .visitMessage req => Granted codecs trace ptr req.sender
  | .error .. => True

def AsksInSession (codecs : Codecs) (trace : List Action) (process : Process)
    (event : Event) : Prop :=
  process.running = true → ∀ ptr json call,
    visits codecs event process.server = some (ptr, json, call) →
    Timely codecs trace ptr call

theorem not_rejected {now : TimePoint} {call : Call} {server granted after : Server}
    {res : Response} (dispatched : call.dispatch (visitor now) server = (res, granted))
    {json : Ptree} (decoded : Call.ofJson codecs json = .ok call) :
    ¬ Rejected server after res := by
  intro given
  rcases given with ⟨⟨err, rfl, code⟩, _⟩
  rcases Call.ofJson_cases decoded with
    ⟨_, req, _, _, rfl⟩ | ⟨_, req, _, _, rfl⟩ | ⟨text, rfl, _⟩
  · by_cases used : req.sender ∈ server.clientNames
    · have answer := visitLogin_of_mem now used
      obtain ⟨same, _⟩ := Prod.mk.inj (answer.symm.trans dispatched)
      cases same
      exact absurd
        (show ErrorCode.userNameInUse = ErrorCode.invalidRequestFromClient from code)
        (by decide)
    · have answer := visitLogin_of_notMem now used
      obtain ⟨same, _⟩ := Prod.mk.inj (answer.symm.trans dispatched)
      cases same
  · cases dispatched
  · cases dispatched
    exact absurd
      (show ErrorCode.malformedRequestNoType = ErrorCode.invalidRequestFromClient from code)
      (by decide)

theorem inSession_iff_timely {trace : List Action} {now : TimePoint} {call : Call}
    {server granted after : Server} {res : Response} {ptr : SocketPtr} {json : Ptree}
    (decoded : Call.ofJson codecs json = .ok call)
    (dispatched : call.dispatch (visitor now) server = (res, granted)) :
    InSession codecs trace server after ptr call res ↔ Timely codecs trace ptr call := by
  have kept := @not_rejected codecs now call server granted after res dispatched json decoded
  cases call with
  | visitLogin req =>
      constructor
      · intro session name held
        exact kept (session.wrongLogin req rfl ⟨name, held⟩)
      · intro timely
        refine ⟨?_, fun _ _ => timely, ?_, ?_⟩
        · intro answer same
          subst same
          by_cases used : req.sender ∈ server.clientNames
          · cases (visitLogin_of_mem now used).symm.trans dispatched
          · cases (visitLogin_of_notMem now used).symm.trans dispatched
        · intro other equality
          cases equality
        · intro _ _ given
          rcases given with ⟨name, held⟩
          exact absurd held (timely name)
  | visitMessage req =>
      constructor
      · intro session
        by_contra absent
        exact kept (session.wrongMessage req rfl absent)
      · intro timely
        cases dispatched
        refine ⟨?_, ?_, ?_, ?_⟩
        · intro answer equality
          cases equality
          exact timely
        · intro answer equality
          cases equality
        · intro other equality absent
          cases equality
          exact absurd timely absent
        · intro other equality
          cases equality
  | error originator code message =>
      cases dispatched
      refine ⟨fun _ => trivial, fun _ => ⟨?_, ?_, ?_, ?_⟩⟩
      · intro answer equality
        cases equality
      · intro answer equality
        cases equality
      · intro req equality
        cases equality
      · intro req equality
        cases equality

theorem answersInSession_iff (trace : List Action) (process : Process) (event : Event) :
    AnswersInSession codecs trace process event ↔
      AsksInSession codecs trace process event := by
  constructor
  · intro answers running ptr json call visited
    obtain ⟨chunk, now, writes, rfl, visit⟩ := visits_eq_some_iff.mp visited
    have reaction := react_of_visit visit now writes rfl
    apply (inSession_iff_timely visit.decoded rfl).mp
    apply answers ptr json call _ ?_ visit.decoded
    · exact now
    · rw [emits_of_running running, reaction]
      exact List.mem_cons_self
  · intro asks ptr json call res inside decoded
    obtain ⟨running, answered⟩ := mem_emits inside
    obtain ⟨chunk, now, writes, other, granted, rfl, visit, dispatched⟩ :=
      visit_of_answered answered
    obtain rfl : call = other := Except.ok.inj (decoded.symm.trans visit.decoded)
    apply (inSession_iff_timely decoded dispatched).mpr
    apply asks running ptr json call
    exact visits_eq_some_iff.mpr ⟨chunk, now, writes, rfl, visit⟩

/-- The answers of a run obey the session protocol exactly when all requests that
it visits do. -/
theorem meets_answersInSession_iff (codecs : Codecs) (events : List Event) :
    (machine codecs).Meets (AnswersInSession codecs) events ↔
      (machine codecs).Meets (AsksInSession codecs) events := by
  constructor
  · exact Machine.Meets.mono fun trace process event =>
      (answersInSession_iff trace process event).mp
  · exact Machine.Meets.mono fun trace process event =>
      (answersInSession_iff trace process event).mpr

/-! A message on a connection that never logged in. -/

def eveMessage : Request.Message where
  dateTime := 0
  sender := "bob"
  content := "hi"

def eveJson : Ptree :=
  eveMessage.toJson Codecs.compact

def eveChunk : Chunk :=
  Chunk.ofLine (Compact.textOf eveJson) (by decide +kernel)

def eveReads (ptr : SocketPtr) : Event :=
  .socket ptr (.data eveChunk) 0 fun _ => .whole

theorem decoded_eve :
    Call.ofJson Codecs.compact eveJson = .ok (.visitMessage eveMessage) := by
  decide +kernel

theorem visit_eve {server : Server} {ptr : SocketPtr}
    (registered : ptr ∈ server.flexWaiter.sockets)
    (opened : (server.heap ptr).isOpen = true) :
    Visit Codecs.compact server ptr eveChunk eveJson (.visitMessage eveMessage) := by
  have representable : eveJson.Representable := by decide +kernel
  exact ⟨registered, opened, parsed_line _ (by decide +kernel) representable, representable,
    decoded_eve⟩

theorem message_before_login_is_broadcast :
    ¬ (machine Codecs.compact).Meets (AnswersInSession Codecs.compact)
      [.socketServer (.connection 5), eveReads 0] := by
  have connected : (machine Codecs.compact).run [.socketServer (.connection 5)] =
      { server := (start.makeSocket 5).2.addSocketConnection 0, thrown := none } := rfl
  have reads : eveReads 0 = .socket 0 (.data eveChunk) 0 fun _ => .whole := rfl
  intro meets
  have step := meets [.socketServer (.connection 5)] (eveReads 0) [] rfl
  rw [connected, reads] at step
  have session := step 0 eveJson (.visitMessage eveMessage)
    (.message (Response.Message.ofContent 0 "bob" "hi")) (by
      rw [emits_of_running rfl,
        react_of_visit (visit_eve (by decide) (by decide)) 0 _ rfl]
      exact List.mem_cons_self) decoded_eve
  exact absurd (session.originator _ rfl) (by decide +kernel)

end AndroidMessenger.Server
