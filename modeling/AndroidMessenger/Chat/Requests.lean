import AndroidMessenger.Chat.Responses
import AndroidMessenger.Client.Requests
import AndroidMessenger.Server.Registry

namespace AndroidMessenger.Chat

open Library Msg Networking Client

variable {codecs : Codecs} {platform : Platform codecs}

/-! A request on its way through the server to the clients. -/

/-- The texts that are written when the chunk is read are visited as the call, and when
nothing fails every listed socket is written one. -/
structure Arrives (platform : Platform codecs) (before : List Event) (ptr : SocketPtr)
    (chunk : Chunk) (now : TimePoint) (call : DateTime → ResponseCall) : Prop where
  decoded : ∀ writes target text outcome, .wrote target text outcome ∈
    (Server.machine codecs).emits ((Server.machine codecs).run before)
      (.socket ptr (.data chunk) now writes) →
    ∃ time, visit platform text = .ok (call time)
  everywhere : ∀ writes, (∀ i, writes i = WriteOutcome.whole) →
    ((Server.machine codecs).run before).running = true →
    ptr ∈ ((Server.machine codecs).run before).server.flexWaiter.sockets →
    (∀ other ∈ ((Server.machine codecs).run before).server.socketList,
      (((Server.machine codecs).run before).server.heap other).isOpen = true) →
    ∀ target ∈ ((Server.machine codecs).run before).server.socketList,
      ∃ text, .wrote target text .whole ∈
        (Server.machine codecs).emits ((Server.machine codecs).run before)
          (.socket ptr (.data chunk) now writes)

/-- The server takes the text for the one call, and the clients take the answer that a
server gives when it grants the request for the other one. -/
def TravelsAs (platform : Platform codecs) (text : String) (asked : TimePoint → Call)
    (grants : Server → Prop) (answered : DateTime → ResponseCall) : Prop :=
  (∃ time json, Json.fromText codecs (Utf8.encode text) = .ok json ∧
    Call.ofJson codecs json = .ok (asked time)) ∧
  ∀ before ptr chunk now, chunk.stored = some (Utf8.encode text) →
    grants ((Server.machine codecs).run before).server →
    (platform.parseDateTime (codecs.putTime now)).isSome = true →
    Arrives platform before ptr chunk now answered

theorem arrives_of_dispatch {text : String} {json : Ptree} {call : Call}
    (parsed : Json.fromText codecs (Utf8.encode text) = .ok json)
    (representable : json.Representable) (decoded : Call.ofJson codecs json = .ok call)
    {before : List Event} {chunk : Chunk} {now : TimePoint}
    (stored : chunk.stored = some (Utf8.encode text)) {res : Response} {granted : Server}
    (dispatched : call.dispatch (Server.visitor now)
      ((Server.machine codecs).run before).server = (res, granted))
    {answered : DateTime → ResponseCall}
    (visited : ∀ time, platform.parseDateTime (codecs.putTime res.dateTime) = some time →
      callOf time res = some (answered time))
    (readable : (platform.parseDateTime (codecs.putTime res.dateTime)).isSome = true)
    (ptr : SocketPtr) : Arrives platform before ptr chunk now answered := by
  constructor
  · intro writes target content outcome wrote
    obtain ⟨running, written⟩ := Server.mem_emits wrote
    obtain ⟨_, _, asker, tree, answer, inside⟩ := Server.answered_of_wrote written
    obtain ⟨read, at_, _, other, _, same, visit, given⟩ :=
      Server.visit_of_answered inside
    cases same
    obtain ⟨str, hasStr, fromStr⟩ := visit.parsed
    obtain rfl := Option.some.inj (stored.symm.trans hasStr)
    obtain rfl := Except.ok.inj (parsed.symm.trans fromStr)
    obtain rfl := Except.ok.inj (decoded.symm.trans visit.decoded)
    obtain ⟨rfl, _⟩ := Prod.mk.inj (dispatched.symm.trans given)
    rw [wrote_text inside written]
    obtain ⟨time, date⟩ := Option.isSome_iff_exists.mp readable
    exact ⟨time, (visit_text_eq_ok_iff platform res _).mpr
      ⟨time, date, visited time date⟩⟩
  · intro writes whole running registered opened target listed
    have visit : Server.Visit codecs ((Server.machine codecs).run before).server ptr chunk
        json call :=
      ⟨registered, opened ptr (((Server.registry codecs before).waiter ptr).mp registered),
        ⟨_, stored, parsed⟩, representable, decoded⟩
    refine ⟨res.text codecs, ?_⟩
    rw [Server.emits_of_running running,
      Server.react_of_open visit now whole dispatched opened]
    exact List.mem_cons_of_mem _ (List.mem_map.mpr ⟨target, listed, rfl⟩)

/-- A message comes to the clients with the sender and the content that it was sent
with, and a granted login with its user name. -/
theorem requests_reach_clients (writer : GsonWriter platform) (sent : DateTime)
    (user content : String) :
    TravelsAs platform
        (NetworkRequest.line writer
          (.message { dateTime := sent, sender := some user, content }))
        (fun time => .visitMessage { dateTime := time, sender := user, content })
        (fun _ => True)
        (fun time => .visitMessage (some {
          dateTime := some time
          sender := some Instance.serverSender
          content := some content
          originator := some user })) ∧
      TravelsAs platform
        (NetworkRequest.line writer (.login { dateTime := sent, sender := user }))
        (fun time => .visitLogin { dateTime := time, sender := user })
        (fun server => user ∉ server.clientNames)
        (fun time => .visitLogin (some {
          dateTime := some time
          sender := some Instance.serverSender
          joiningUsername := some user })) := by
  constructor
  · have parsed := NetworkRequest.fromText_line writer
      (.message { dateTime := sent, sender := some user, content })
    obtain ⟨_, decoded⟩ := NetworkRequest.ofJson_message writer sent user content
    refine ⟨⟨_, _, parsed, decoded⟩, ?_⟩
    intro before ptr chunk now stored _ readable
    exact arrives_of_dispatch parsed (NetworkRequest.representable_toJson writer _) decoded
      stored rfl (fun _ _ => rfl) readable ptr
  · have parsed := NetworkRequest.fromText_line writer
      (.login { dateTime := sent, sender := user })
    obtain ⟨_, decoded⟩ := NetworkRequest.ofJson_login writer sent user
    refine ⟨⟨_, _, parsed, decoded⟩, ?_⟩
    intro before ptr chunk now stored free readable
    exact arrives_of_dispatch parsed (NetworkRequest.representable_toJson writer _) decoded
      stored (Server.visitLogin_of_notMem now free) (fun _ _ => rfl) readable ptr

/-! Bob's message on the first connection. -/

theorem bobSays_arrives :
    Arrives Platform.escaping [.socketServer (.connection 5)] 0
      (Chunk.ofLine (Platform.escaping.toString (bobSays.toJson GsonWriter.escaping))
        (by decide +kernel)) 0 fun time => .visitMessage (some {
          dateTime := some time
          sender := some Instance.serverSender
          content := some "hi \x7d\n"
          originator := some "bob" }) :=
  (requests_reach_clients GsonWriter.escaping 0 "bob" "hi \x7d\n").1.2 _ 0 _ 0
    (by decide +kernel) trivial (by decide +kernel)

end AndroidMessenger.Chat
