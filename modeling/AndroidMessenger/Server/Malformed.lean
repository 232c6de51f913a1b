import AndroidMessenger.Server.Names

namespace AndroidMessenger.Server

open Library Msg Networking

variable {codecs : Codecs}

/-! What a peer may send without ending the server. -/

/-- The server comes back from a read.  A text that is no request is answered
with an error and changes no table, and afterwards all sockets are served as
before. -/
structure HandlesText (codecs : Codecs) (chunk : Chunk) (before after : Process)
    (actions : List Action) : Prop where
  returns : after.thrown = none
  answers : ¬ IsRequest codecs chunk →
    (∃ ptr json err, .answered ptr json (.error err) ∈ actions) ∧
      after.server.clientNames = before.server.clientNames
  running : after.running = true
  socketList : after.server.socketList = before.server.socketList
  flexWaiter : after.server.flexWaiter = before.server.flexWaiter
  opened : ∀ ptr ∈ before.server.socketList, (before.server.heap ptr).isOpen = true →
    (after.server.heap ptr).isOpen = true

/-- The stored text ends, `read_json` takes what the cleaning leaves of it for
something other than a lone scalar, and an object whose type names a request has
the fields of that request and a datetime that does not break off. -/
def Acceptable (codecs : Codecs) (chunk : Chunk) : Prop :=
  ∃ str json, chunk.stored = some str ∧ codecs.readJson (Json.clean str) = some json ∧
    json.Representable ∧ Decodable codecs json

theorem fromText_eq_ok_iff {text : Bytes} {json : Ptree} :
    Json.fromText codecs text = .ok json ↔
      codecs.readJson (Json.clean text) = some json := by
  unfold Json.fromText
  cases codecs.readJson (Json.clean text) with
  | none => simp
  | some tree => simp

theorem acceptable_iff_visit {server : Server} {ptr : SocketPtr}
    (registered : ptr ∈ server.flexWaiter.sockets)
    (opened : (server.heap ptr).isOpen = true) (chunk : Chunk) :
    Acceptable codecs chunk ↔ ∃ json call, Visit codecs server ptr chunk json call := by
  constructor
  · intro given
    rcases given with ⟨str, json, stored, parsed, representable, decodable⟩
    obtain ⟨call, decoded⟩ := (Call.ofJson_isOk_iff codecs representable).mpr decodable
    exact ⟨json, call, registered, opened, ⟨str, stored, fromText_eq_ok_iff.mpr parsed⟩,
      representable, decoded⟩
  · intro given
    rcases given with ⟨json, call, visit⟩
    obtain ⟨str, stored, parsed⟩ := visit.parsed
    exact ⟨str, json, stored, fromText_eq_ok_iff.mp parsed, visit.representable,
      (Call.ofJson_isOk_iff codecs visit.representable).mp ⟨call, visit.decoded⟩⟩

theorem react_throws {server : Server} {ptr : SocketPtr} {chunk : Chunk}
    (registered : ptr ∈ server.flexWaiter.sockets)
    (opened : (server.heap ptr).isOpen = true)
    (refused : ¬ Acceptable codecs chunk) (now : TimePoint)
    (writes : Nat → WriteOutcome) :
    ∃ exn, server.react codecs (.socket ptr (.data chunk) now writes) =
      { server, actions := [], thrown := some exn } := by
  rw [react, if_pos registered]
  cases stored : chunk.stored with
  | none => exact ⟨_, onSocket_of_unterminated opened stored now writes⟩
  | some str =>
      cases respond : server.respond codecs now str with
      | error exn => exact ⟨exn, onSocket_of_throw opened stored respond writes⟩
      | ok result =>
          obtain ⟨json, res, granted⟩ := result
          obtain ⟨parsed, representable, call, decoded, _⟩ :=
            respond_eq_ok_iff.mp respond
          exact absurd ((acceptable_iff_visit registered opened chunk).mpr
            ⟨json, call, registered, opened, ⟨str, stored, parsed⟩, representable,
              decoded⟩) refused

theorem isRequest_iff {server : Server} {ptr : SocketPtr} {chunk : Chunk} {json : Ptree}
    {call : Call} (visit : Visit codecs server ptr chunk json call) :
    IsRequest codecs chunk ↔
      ∀ originator code message, call ≠ .error originator code message := by
  obtain ⟨str, stored, parsed⟩ := visit.parsed
  constructor
  · intro given
    rcases given with ⟨other, tree, asked, stored', parsed', _, decoded', request⟩
    obtain rfl : str = other := Option.some.inj (stored.symm.trans stored')
    obtain rfl : json = tree := Except.ok.inj (parsed.symm.trans parsed')
    obtain rfl : call = asked := Except.ok.inj (visit.decoded.symm.trans decoded')
    exact request
  · intro request
    exact ⟨str, json, call, stored, parsed, visit.representable, visit.decoded, request⟩

theorem handlesText_of_visit {process : Process} (running : process.running = true)
    {ptr : SocketPtr} {chunk : Chunk} {json : Ptree} {call : Call}
    (visit : Visit codecs process.server ptr chunk json call) (now : TimePoint)
    {writes : Nat → WriteOutcome} (unfailed : ∀ i, writes i ≠ .failed)
    (opened : ∀ other ∈ process.server.socketList,
      (process.server.heap other).isOpen = true) :
    HandlesText codecs chunk process
      ((machine codecs).step process (.socket ptr (.data chunk) now writes))
      ((machine codecs).emits process (.socket ptr (.data chunk) now writes)) := by
  rcases dispatched : call.dispatch (visitor now) process.server with ⟨res, granted⟩
  have frame := dispatch_frame dispatched
  have reaction := react_of_unfailed visit now unfailed dispatched opened
  rw [step_of_running running, emits_of_running running, reaction]
  refine ⟨rfl, ?_, ?_, ?_, ?_, ?_⟩
  · intro noRequest
    rw [isRequest_iff visit] at noRequest
    cases call with
    | visitLogin req => exact absurd (by simp) noRequest
    | visitMessage req => exact absurd (by simp) noRequest
    | error originator code message =>
        cases dispatched
        exact ⟨⟨ptr, json, _, List.mem_cons_self⟩, rfl⟩
  · rw [Process.running_iff]
    refine ⟨?_, rfl⟩
    rw [frame]
    exact ((process.running_iff).mp running).1
  · rw [frame]
  · rw [frame]
  · intro other _ isOpen
    rw [frame]
    exact isOpen

/-- A read is handled as it should be exactly when its text is acceptable and
every listed socket is open. -/
theorem handlesText_iff (codecs : Codecs) (events : List Event) (ptr : SocketPtr)
    (chunk : Chunk) (now : TimePoint) (writes : Nat → WriteOutcome)
    (running : ((machine codecs).run events).running = true)
    (listed : ptr ∈ ((machine codecs).run events).server.socketList)
    (isOpen : (((machine codecs).run events).server.heap ptr).isOpen = true)
    (unfailed : ∀ i, writes i ≠ .failed) :
    HandlesText codecs chunk ((machine codecs).run events)
        ((machine codecs).run (events ++ [.socket ptr (.data chunk) now writes]))
        ((machine codecs).emits ((machine codecs).run events)
          (.socket ptr (.data chunk) now writes)) ↔
      Acceptable codecs chunk ∧
        ∀ other ∈ ((machine codecs).run events).server.socketList,
          (((machine codecs).run events).server.heap other).isOpen = true := by
  have tables := registry codecs events
  have registered := (tables.waiter ptr).mpr listed
  rw [Machine.run_concat]
  constructor
  · intro handles
    have returns := handles.returns
    rw [step_of_running running] at returns
    by_cases acceptable : Acceptable codecs chunk
    · obtain ⟨json, call, visit⟩ := (acceptable_iff_visit registered isOpen chunk).mp acceptable
      exact ⟨acceptable, (react_thrown_iff tables.nodup visit now writes).mp returns⟩
    · obtain ⟨exn, throws⟩ := react_throws registered isOpen acceptable now writes
      rw [throws] at returns
      cases returns
  · intro given
    rcases given with ⟨acceptable, opened⟩
    obtain ⟨json, call, visit⟩ := (acceptable_iff_visit registered isOpen chunk).mp acceptable
    exact handlesText_of_visit running visit now unfailed opened

theorem handlesText_bob :
    HandlesText Codecs.compact bobChunk
        ((machine Codecs.compact).run [.socketServer (.connection 5)])
        ((machine Codecs.compact).run ([.socketServer (.connection 5)] ++ [bobReads 0]))
        ((machine Codecs.compact).emits
          ((machine Codecs.compact).run [.socketServer (.connection 5)]) (bobReads 0)) ↔
      Acceptable Codecs.compact bobChunk ∧
        ∀ other ∈ ((machine Codecs.compact).run
            [.socketServer (.connection 5)]).server.socketList,
          (((machine Codecs.compact).run
            [.socketServer (.connection 5)]).server.heap other).isOpen = true :=
  handlesText_iff Codecs.compact [.socketServer (.connection 5)] 0 bobChunk 0
    (fun _ => .whole) (by decide) (by decide) (by decide) (by simp)

/-! A line that is no JSON ends the server. -/

def helloChunk : Chunk :=
  Chunk.ofLine "hello" (by decide)

theorem hello_is_not_handled :
    ¬ HandlesText Codecs.compact helloChunk
      ((machine Codecs.compact).run [.socketServer (.connection 5)])
      ((machine Codecs.compact).run ([.socketServer (.connection 5)] ++
        [.socket 0 (.data helloChunk) 0 fun _ => .whole]))
      ((machine Codecs.compact).emits
        ((machine Codecs.compact).run [.socketServer (.connection 5)])
        (.socket 0 (.data helloChunk) 0 fun _ => .whole)) := by
  intro handles
  exact absurd handles.returns (by decide +kernel)

end AndroidMessenger.Server
