import AndroidMessenger.Server.Names

namespace AndroidMessenger.Server

open Library Msg Networking

variable {codecs : Codecs}

/-! The names that `INVALID_USER_NAME` is there for.  The code is never used, so every
name that is asked for and free is taken. -/

/-- The name is empty or one that the server itself sends under. -/
def IsInvalidUserName (name : String) : Prop :=
  name = "" ∨ name = Instance.serverSender ∨ name = Instance.unknownSender

/-- The table holds valid names after the step, and a login under another name is
answered with the code for it and leaves the table alone. -/
structure GuardsUserNames (codecs : Codecs) (_ : List Action) (process : Process)
    (event : Event) : Prop where
  names : ∀ name ∈ ((machine codecs).step process event).server.clientNames,
    ¬ IsInvalidUserName name
  answers : ∀ ptr json req res,
    .answered ptr json res ∈ (machine codecs).emits process event →
    Call.ofJson codecs json = .ok (.visitLogin req) → IsInvalidUserName req.sender →
      (∃ err, res = .error err ∧ err.errorCode = ErrorCode.invalidUserName) ∧
        ((machine codecs).step process event).server.clientNames =
          process.server.clientNames

def AsksValidNames (codecs : Codecs) (_ : List Action) (process : Process)
    (event : Event) : Prop :=
  process.running = true → ∀ ptr json req,
    visits codecs event process.server = some (ptr, json, .visitLogin req) →
    ¬ IsInvalidUserName req.sender

theorem request_of_granted {trace : List Action} {ptr : SocketPtr} {name : String}
    (granted : Granted codecs trace ptr name) :
    ∃ json res req, .answered ptr json (.login res) ∈ trace ∧
      Call.ofJson codecs json = .ok (.visitLogin req) ∧ req.sender = name := by
  obtain ⟨action, inside, equality⟩ := List.mem_filterMap.mp granted
  unfold grantOf at equality
  split at equality
  · split at equality
    · rename_i decoded
      cases equality
      exact ⟨_, _, _, inside, decoded, rfl⟩
    · contradiction
  · contradiction

theorem asked_of_mem_clientNames {process : Process} {event : Event} {name : String}
    (listed : name ∈ ((machine codecs).step process event).server.clientNames) :
    name ∈ process.server.clientNames ∨ (process.running = true ∧ ∃ ptr json req,
      visits codecs event process.server = some (ptr, json, .visitLogin req) ∧
        req.sender = name) := by
  cases running : process.running with
  | false =>
      rw [step_of_stopped running] at listed
      exact Or.inl listed
  | true =>
      rw [step_of_running running] at listed
      rcases grants_react codecs process.server event with
        ⟨ptr, other, granted, _, names⟩ | ⟨_, names⟩
      · rw [names, List.mem_append, List.mem_singleton] at listed
        rcases listed with old | rfl
        · exact Or.inl old
        · right
          have here : Granted codecs (process.server.react codecs event).actions ptr name := by
            rw [Granted, granted]
            exact List.mem_singleton_self _
          obtain ⟨json, res, req, answered, decoded, sender⟩ := request_of_granted here
          obtain ⟨chunk, now, writes, call, _, rfl, visit, _⟩ := visit_of_answered answered
          obtain rfl := Except.ok.inj (decoded.symm.trans visit.decoded)
          exact ⟨rfl, ptr, json, req,
            visits_eq_some_iff.mpr ⟨chunk, now, writes, rfl, visit⟩, sender⟩
      · rw [names] at listed
        exact Or.inl listed

theorem clientNames_valid {events : List Event}
    (asks : (machine codecs).Meets (AsksValidNames codecs) events) :
    ∀ name ∈ ((machine codecs).run events).server.clientNames, ¬ IsInvalidUserName name := by
  refine @Machine.Meets.induction _ _ _ (machine codecs) (AsksValidNames codecs)
    (fun _ process => ∀ name ∈ process.server.clientNames, ¬ IsInvalidUserName name)
    ?_ ?_ events asks
  · intro name listed
    exact absurd listed List.not_mem_nil
  · intro trace process event valid held name listed
    rcases asked_of_mem_clientNames listed with old | ⟨running, ptr, json, req, visited, rfl⟩
    · exact held name old
    · exact valid running ptr json req visited

theorem not_invalidUserName {now : TimePoint} {req : Request.Login} {server granted : Server}
    {err : Response.Error}
    (dispatched : (Call.visitLogin req).dispatch (visitor now) server =
      (.error err, granted)) : err.errorCode ≠ ErrorCode.invalidUserName := by
  intro code
  change server.visitLogin now req = (.error err, granted) at dispatched
  by_cases used : req.sender ∈ server.clientNames
  · rw [visitLogin_of_mem now used] at dispatched
    obtain ⟨rfl, _⟩ : _ = err ∧ _ := by simpa using dispatched
    exact absurd code (by simp [Response.Error.ofCode]; decide)
  · rw [visitLogin_of_notMem now used] at dispatched
    cases (Prod.mk.inj dispatched).1

theorem asksValidNames_of_guards {process : Process} {event : Event} {trace : List Action}
    (guards : GuardsUserNames codecs trace process event) :
    AsksValidNames codecs trace process event := by
  intro running ptr json req visited invalid
  obtain ⟨chunk, now, writes, rfl, visit⟩ := visits_eq_some_iff.mp visited
  rcases dispatched : (Call.visitLogin req).dispatch (visitor now) process.server with
    ⟨res, granted⟩
  have answered : .answered ptr json res ∈
      (machine codecs).emits process (.socket ptr (.data chunk) now writes) := by
    rw [emits_of_running running, react_of_visit visit now writes dispatched]
    exact List.mem_cons_self
  obtain ⟨⟨err, rfl, code⟩, _⟩ := guards.answers ptr json req res answered visit.decoded invalid
  exact not_invalidUserName dispatched code

/-- In a run the names are guarded exactly when nobody asks for an invalid one. -/
theorem meets_guardsUserNames_iff (codecs : Codecs) (events : List Event) :
    (machine codecs).Meets (GuardsUserNames codecs) events ↔
      (machine codecs).Meets (AsksValidNames codecs) events := by
  constructor
  · exact Machine.Meets.mono fun trace process event => asksValidNames_of_guards
  · intro asks before event after equality
    have asks : (machine codecs).Meets (AsksValidNames codecs) (before ++ [event]) := by
      rw [equality, List.append_cons] at asks
      exact asks.of_append
    constructor
    · have valid := clientNames_valid asks
      rw [Machine.run_concat] at valid
      exact valid
    · intro ptr json req res answered decoded invalid
      obtain ⟨running, inside⟩ := mem_emits answered
      obtain ⟨chunk, now, writes, call, _, rfl, visit, _⟩ := visit_of_answered inside
      obtain rfl := Except.ok.inj (decoded.symm.trans visit.decoded)
      have visited := visits_eq_some_iff.mpr ⟨chunk, now, writes, rfl, visit⟩
      exact absurd invalid (asks.last running ptr json req visited)

/-! A client under the name of the server. -/

def impostorLogin : Request.Login where
  dateTime := 0
  sender := "@server"

def impostorJson : Ptree :=
  impostorLogin.toJson Codecs.compact

def impostorChunk : Chunk :=
  Chunk.ofLine (Compact.textOf impostorJson) (by decide +kernel)

def impostorReads : Event :=
  .socket 0 (.data impostorChunk) 0 fun _ => .whole

theorem visit_impostor : Visit Codecs.compact ((start.makeSocket 5).2.addSocketConnection 0)
    0 impostorChunk impostorJson (.visitLogin impostorLogin) where
  registered := by decide
  opened := by decide
  parsed := parsed_line _ (by decide +kernel) (by decide +kernel)
  representable := by decide +kernel
  decoded := by decide +kernel

def impostorIn : Server :=
  { (start.makeSocket 5).2.addSocketConnection 0 with clientNames := [impostorLogin.sender] }

theorem run_impostorIn :
    (machine Codecs.compact).run [.socketServer (.connection 5), impostorReads] =
      { server := impostorIn, thrown := none } := by
  have last := (machine Codecs.compact).run_concat [.socketServer (.connection 5)]
    impostorReads
  have connected : (machine Codecs.compact).run [.socketServer (.connection 5)] =
      { server := (start.makeSocket 5).2.addSocketConnection 0, thrown := none } := rfl
  have free : impostorLogin.sender ∉
      ((start.makeSocket 5).2.addSocketConnection 0).clientNames := by decide
  have reaction := react_of_open visit_impostor 0 (fun _ => rfl)
    (visitLogin_of_notMem 0 free) (by decide)
  rw [connected, step_of_running rfl] at last
  rw [← impostorReads] at reaction
  rw [reaction] at last
  exact last

theorem impostor_granted :
    ((machine Codecs.compact).run
      [.socketServer (.connection 5), impostorReads]).server.clientNames = ["@server"] ∧
    ¬ (machine Codecs.compact).Meets (GuardsUserNames Codecs.compact)
      [.socketServer (.connection 5), impostorReads] := by
  have names : ((machine Codecs.compact).run
      [.socketServer (.connection 5), impostorReads]).server.clientNames = ["@server"] := by
    rw [run_impostorIn]
    rfl
  refine ⟨names, ?_⟩
  intro guards
  have step := guards [.socketServer (.connection 5)] impostorReads [] rfl
  have listed := step.names "@server"
  rw [← Machine.run_concat] at listed
  exact listed (by rw [List.singleton_append, names]; exact List.mem_singleton_self _)
    (Or.inr (Or.inl rfl))

end AndroidMessenger.Server
