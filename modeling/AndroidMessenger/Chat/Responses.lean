import AndroidMessenger.Client.Compact
import AndroidMessenger.Client.ResponseVisitor
import AndroidMessenger.Server.Names

namespace AndroidMessenger.Chat

open Library Msg Networking Client

/-! What the server writes, read by the client. -/

/-- What a reaction writes is the text of its answer, and the client takes it. -/
structure Understood {codecs : Codecs} (platform : Platform codecs)
    (actions : List Action) (res : Response) : Prop where
  wrote : ∀ target text outcome, .wrote target text outcome ∈ actions →
    text = res.text codecs
  accepts : Accepts platform res

theorem wrote_text {codecs : Codecs} {server : Server} {event : Event} {ptr : SocketPtr}
    {json : Ptree} {res : Response}
    (answered : .answered ptr json res ∈ (server.react codecs event).actions)
    {target : SocketPtr} {text : String} {outcome : WriteOutcome}
    (wrote : .wrote target text outcome ∈ (server.react codecs event).actions) :
    text = res.text codecs := by
  obtain ⟨chunk, now, writes, call, granted, rfl, visit, dispatched⟩ :=
    Server.visit_of_answered answered
  rw [Server.react_of_visit visit now writes dispatched] at wrote
  rcases List.mem_cons.mp wrote with equality | inside
  · cases equality
  · rw [Server.broadcast_eq_writeLoop] at inside
    obtain ⟨other, content, sent, equality, _, written⟩ :=
      Server.wrote_of_mem_writeLoop _ _ _ _ _ _ inside
    rw [Server.toText_response] at written
    cases equality
    exact (Except.ok.inj written).symm

theorem dispatch_ne_error_iff {call : Call} {now : TimePoint} {server granted : Server}
    {res : Response}
    (dispatched : call.dispatch (Server.visitor now) server = (res, granted)) :
    (∀ err, res ≠ .error err) ↔
      (∃ req, call = .visitMessage req) ∨
        ∃ req, call = .visitLogin req ∧ req.sender ∉ server.clientNames := by
  cases call with
  | visitLogin req =>
      change server.visitLogin now req = (res, granted) at dispatched
      by_cases used : req.sender ∈ server.clientNames
      · rw [Server.visitLogin_of_mem now used] at dispatched
        obtain ⟨rfl, _⟩ := Prod.mk.inj dispatched
        simp [used]
      · rw [Server.visitLogin_of_notMem now used] at dispatched
        obtain ⟨rfl, _⟩ := Prod.mk.inj dispatched
        simp [used]
  | visitMessage req =>
      obtain ⟨rfl, _⟩ := Prod.mk.inj dispatched
      simp
  | error originator code message =>
      obtain ⟨rfl, _⟩ := Prod.mk.inj dispatched
      simp

/-- The client understands the answer to a message, and the answer to a login
whose name is free.  All other answers are errors, which it does not. -/
theorem understood_iff {codecs : Codecs} (platform : Platform codecs)
    (events : List Event) (event : Event) (ptr : SocketPtr) (json : Ptree)
    (res : Response)
    (answered : .answered ptr json res ∈
      (Server.machine codecs).emits ((Server.machine codecs).run events) event)
    (parsed : (platform.parseDateTime (codecs.putTime res.dateTime)).isSome = true) :
    Understood platform
        ((Server.machine codecs).emits ((Server.machine codecs).run events) event) res ↔
      (∃ req, Call.ofJson codecs json = .ok (.visitMessage req)) ∨
        ∃ req, Call.ofJson codecs json = .ok (.visitLogin req) ∧
          req.sender ∉ ((Server.machine codecs).run events).server.clientNames := by
  obtain ⟨running, inside⟩ := Server.mem_emits answered
  obtain ⟨_, now, _, call, granted, _, visit, dispatched⟩ :=
    Server.visit_of_answered inside
  have wrote : ∀ target text outcome, .wrote target text outcome ∈
      (Server.machine codecs).emits ((Server.machine codecs).run events) event →
        text = res.text codecs := by
    intro target text outcome written
    rw [Server.emits_of_running running] at written
    exact wrote_text inside written
  have accepted : Understood platform
      ((Server.machine codecs).emits ((Server.machine codecs).run events) event) res ↔
        Accepts platform res :=
    ⟨fun held => held.accepts, fun held => ⟨wrote, held⟩⟩
  rw [accepted, accepts_iff platform parsed, dispatch_ne_error_iff dispatched,
    visit.decoded]
  simp only [Except.ok.injEq]

/-! The answer to the first login with a name is understood, the one to the second
is not. -/

theorem understood_bobGranted :
    Understood Platform.compact
        ((Server.machine Codecs.compact).emits
          ((Server.machine Codecs.compact).run [.socketServer (.connection 5)])
          (Server.bobReads 0))
        (.login (Response.Login.ofUsername 0 "bob")) ↔
      (∃ req, Call.ofJson Codecs.compact Server.bobJson = .ok (.visitMessage req)) ∨
        ∃ req, Call.ofJson Codecs.compact Server.bobJson = .ok (.visitLogin req) ∧
          req.sender ∉ ((Server.machine Codecs.compact).run
            [.socketServer (.connection 5)]).server.clientNames :=
  understood_iff Platform.compact [.socketServer (.connection 5)] (Server.bobReads 0) 0
    Server.bobJson (.login (Response.Login.ofUsername 0 "bob")) (by
      have connected : (Server.machine Codecs.compact).run [.socketServer (.connection 5)] =
          { server := (Server.start.makeSocket 5).2.addSocketConnection 0
            thrown := none } := rfl
      rw [connected, Server.emits_of_running rfl, Server.react_bob_first]
      exact List.mem_cons_self)
    (by decide +kernel)

theorem bob_refusal_not_understood :
    .answered 1 Server.bobJson Server.bobRefused ∈ (Server.machine Codecs.compact).emits
        ((Server.machine Codecs.compact).run Server.bobStays) (Server.bobReads 1) ∧
      (Platform.compact.parseDateTime
        (Codecs.compact.putTime Server.bobRefused.dateTime)).isSome = true ∧
      visit Platform.compact (Server.bobRefused.text Codecs.compact) =
        .error (.illegalStateException ("Could not visit json argument: " ++
          Platform.compact.toString
            [(propertyType, .primitive Server.bobRefused.type),
              (propertyObject, JsonElement.ofPtree
                (Server.bobRefused.subToJson Codecs.compact))])) ∧
      ¬ Understood Platform.compact ((Server.machine Codecs.compact).emits
        ((Server.machine Codecs.compact).run Server.bobStays) (Server.bobReads 1))
        Server.bobRefused := by
  have read := visit_error_text Platform.compact (Response.Error.ofCode 0
    Instance.serverSender ErrorCode.userNameInUse
    "You dun goofed. Username is in use. (Server Error)")
  have answered := Server.emits_bobStays
  refine ⟨answered ▸ List.mem_cons_self, by decide +kernel, read, ?_⟩
  intro given
  rcases given with ⟨_, call, accepted, _⟩
  rw [Server.bobRefused, read] at accepted
  cases accepted

end AndroidMessenger.Chat
