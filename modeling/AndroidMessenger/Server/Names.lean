import AndroidMessenger.Msg.Compact
import AndroidMessenger.Server.Registry

namespace AndroidMessenger.Server

open Library Msg Networking

variable {codecs : Codecs}

/-! A name is granted to a socket when a login request that was read from it is
answered with a login response. -/

def grantOf (codecs : Codecs) : Action → Option (SocketPtr × String)
  | .answered ptr json (.login _) =>
      match Call.ofJson codecs json with
      | .ok (.visitLogin req) => some (ptr, req.sender)
      | _ => none
  | _ => none

def grants (codecs : Codecs) (trace : List Action) : List (SocketPtr × String) :=
  trace.filterMap (grantOf codecs)

abbrev Granted (codecs : Codecs) (trace : List Action) (ptr : SocketPtr)
    (name : String) : Prop :=
  (ptr, name) ∈ grants codecs trace

@[simp] theorem grants_append (first second : List Action) :
    grants codecs (first ++ second) = grants codecs first ++ grants codecs second :=
  List.filterMap_append

theorem grants_eq_nil {trace : List Action}
    (silent : ∀ action ∈ trace, ∀ ptr json res, action ≠ .answered ptr json res) :
    grants codecs trace = [] := by
  apply List.filterMap_eq_nil_iff.mpr
  intro action inside
  cases action with
  | answered ptr json res => exact absurd rfl (silent _ inside ptr json res)
  | accepted ptr => rfl
  | wrote ptr text outcome => rfl
  | removed ptr => rfl
  | closed ptr => rfl

theorem answered_of_granted {trace : List Action} {ptr : SocketPtr} {name : String}
    (granted : Granted codecs trace ptr name) :
    ∃ json res, .answered ptr json res ∈ trace := by
  obtain ⟨action, inside, equality⟩ := List.mem_filterMap.mp granted
  unfold grantOf at equality
  split at equality
  · split at equality
    · cases equality
      exact ⟨_, _, inside⟩
    · contradiction
  · contradiction

theorem grants_removal (server : Server) (ptr : SocketPtr) :
    grants codecs (server.removeSocketConnection ptr).actions = [] := by
  apply grants_eq_nil
  intro action inside other json res
  rcases mem_actions_removeSocketConnection server ptr inside with rfl | rfl
  · simp
  · simp

theorem grants_react (codecs : Codecs) (server : Server) (event : Event) :
    (∃ ptr name, grants codecs (server.react codecs event).actions = [(ptr, name)] ∧
      name ∉ server.clientNames ∧
      (server.react codecs event).server.clientNames = server.clientNames ++ [name]) ∨
    (grants codecs (server.react codecs event).actions = [] ∧
      (server.react codecs event).server.clientNames = server.clientNames) := by
  have effect := @effect_react codecs server event
  generalize server.react codecs event = reaction at effect ⊢
  cases effect with
  | accepts fd => exact Or.inr ⟨rfl, rfl⟩
  | rests _ thrown same => exact Or.inr ⟨rfl, same.clientNames⟩
  | removes registered same => exact Or.inr ⟨grants_removal _ _, same.clientNames⟩
  | exits =>
      right
      have kept := @removeLoop_induction (fun trace after =>
        grants codecs trace = [] ∧ after.clientNames = server.clientNames) ?_
        server.socketList.length 0 [] server ⟨rfl, rfl⟩
      · exact kept
      · intro trace after ptr listed held
        exact ⟨by rw [grants_append, held.1, grants_removal, List.append_nil], held.2⟩
  | @answers ptr chunk now writes json call res granted after sent thrown visit
      dispatched same wrote =>
      have decoded := visit.decoded
      have silent : grants codecs sent = [] := by
        apply grants_eq_nil
        intro action inside other tree answer
        obtain ⟨target, text, outcome, rfl, _⟩ := wrote action inside
        simp
      have head : grants codecs (.answered ptr json res :: sent) =
          grants codecs [.answered ptr json res] := by
        rw [← List.singleton_append, grants_append, silent, List.append_nil]
      rw [head, same.clientNames]
      rcases dispatch_cases now call server with
        ⟨req, rfl, free, equality⟩ | ⟨answer, equality, refused⟩
      · left
        rw [equality] at dispatched
        obtain ⟨rfl, rfl⟩ := Prod.mk.inj dispatched
        exact ⟨ptr, req.sender, by simp [grants, grantOf, decoded], free, rfl⟩
      · right
        rw [equality] at dispatched
        obtain ⟨rfl, rfl⟩ := Prod.mk.inj dispatched
        refine ⟨?_, rfl⟩
        cases answer with
        | login granted => exact absurd rfl (refused granted)
        | message res => rfl
        | error res => rfl

theorem clientNames_eq_grants (codecs : Codecs) (events : List Event) :
    ((machine codecs).run events).server.clientNames =
      (grants codecs ((machine codecs).trace events)).map Prod.snd := by
  refine @Server.induction codecs (fun trace server =>
    server.clientNames = (grants codecs trace).map Prod.snd) rfl ?_ events
  intro trace server event _ held
  rcases grants_react codecs server event with
    ⟨ptr, name, granted, _, names⟩ | ⟨silent, names⟩
  · simp [names, granted, held]
  · simp [names, silent, held]

theorem nodup_clientNames (codecs : Codecs) (events : List Event) :
    ((machine codecs).run events).server.clientNames.Nodup := by
  refine @Server.induction codecs (fun _ server => server.clientNames.Nodup)
    List.nodup_nil ?_ events
  intro trace server event _ held
  rcases grants_react codecs server event with
    ⟨ptr, name, _, free, names⟩ | ⟨_, names⟩
  · rw [names]
    apply List.nodup_append.mpr
    refine ⟨held, by simp, ?_⟩
    intro other inside last member
    rw [List.mem_singleton.mp member]
    intro same
    subst same
    exact free inside
  · rw [names]
    exact held

theorem mem_clientNames_iff (codecs : Codecs) (events : List Event) (name : String) :
    name ∈ ((machine codecs).run events).server.clientNames ↔
      ∃ ptr, Granted codecs ((machine codecs).trace events) ptr name := by
  rw [clientNames_eq_grants]
  simp [Granted]

theorem granted_unique (events : List Event) {name : String} {first second : SocketPtr}
    (left : Granted codecs ((machine codecs).trace events) first name)
    (right : Granted codecs ((machine codecs).trace events) second name) :
    first = second := by
  have unique := nodup_clientNames codecs events
  rw [clientNames_eq_grants] at unique
  have same := List.inj_on_of_nodup_map unique left right rfl
  exact congrArg Prod.fst same

/-- In every run no name is granted to two listed sockets, the table holds every
granted name once, and a step changes it only by appending the name it grants. -/
theorem clientNames_follow_grants (codecs : Codecs) (events : List Event) :
    (∀ name, ∀ first ∈ ((machine codecs).run events).server.socketList,
      ∀ second ∈ ((machine codecs).run events).server.socketList,
        Granted codecs ((machine codecs).trace events) first name →
        Granted codecs ((machine codecs).trace events) second name →
        first = second) ∧
    ((machine codecs).run events).server.clientNames.Nodup ∧
    (∀ ptr name, Granted codecs ((machine codecs).trace events) ptr name →
      name ∈ ((machine codecs).run events).server.clientNames) ∧
    ∀ event,
      (∃ ptr name,
        grants codecs ((machine codecs).emits ((machine codecs).run events) event) =
          [(ptr, name)] ∧
        ((machine codecs).run (events ++ [event])).server.clientNames =
          ((machine codecs).run events).server.clientNames ++ [name]) ∨
      (grants codecs ((machine codecs).emits ((machine codecs).run events) event) = [] ∧
        ((machine codecs).run (events ++ [event])).server.clientNames =
          ((machine codecs).run events).server.clientNames) := by
  refine ⟨?_, nodup_clientNames codecs events, ?_, ?_⟩
  · intro name first _ second _ left right
    exact granted_unique events left right
  · intro ptr name granted
    exact (mem_clientNames_iff codecs events name).mpr ⟨ptr, granted⟩
  · intro event
    rw [Machine.run_concat]
    cases running : ((machine codecs).run events).running with
    | false =>
        right
        rw [step_of_stopped running, emits_of_stopped running]
        exact ⟨rfl, rfl⟩
    | true =>
        rw [step_of_running running, emits_of_running running]
        rcases grants_react codecs ((machine codecs).run events).server event
          with ⟨ptr, name, granted, _, names⟩ | silent
        · exact Or.inl ⟨ptr, name, granted, names⟩
        · exact Or.inr silent

/-! Nothing takes a name out of the table, so a name stays used after the socket
that holds it is gone. -/

def refusesUserName : Response → Bool
  | .error res => res.errorCode == ErrorCode.userNameInUse
  | _ => false

def grantsUserName : Response → Bool
  | .login _ => true
  | _ => false

/-- A login is answered with a name in use only while a listed socket holds the
name, and is granted otherwise. -/
def RefusedOnlyWhileHeld (codecs : Codecs) (trace : List Action) (server : Server)
    (req : Request.Login) (res : Response) : Prop :=
  let held := ∃ holder ∈ server.socketList, Granted codecs trace holder req.sender
  (refusesUserName res = true → held) ∧ (¬ held → grantsUserName res = true)

instance (codecs : Codecs) (trace : List Action) (server : Server)
    (req : Request.Login) (res : Response) :
    Decidable (RefusedOnlyWhileHeld codecs trace server req res) :=
  inferInstanceAs (Decidable (_ ∧ _))

theorem visitLogin_grants_iff {now : TimePoint} {req : Request.Login}
    {server granted : Server} {res : Response}
    (dispatched : (Call.visitLogin req).dispatch (visitor now) server = (res, granted)) :
    (grantsUserName res = true ↔ req.sender ∉ server.clientNames) ∧
      (refusesUserName res = true ↔ req.sender ∈ server.clientNames) := by
  change server.visitLogin now req = (res, granted) at dispatched
  by_cases used : req.sender ∈ server.clientNames
  · rw [visitLogin_of_mem now used] at dispatched
    obtain ⟨rfl, _⟩ := Prod.mk.inj dispatched
    simp [used, grantsUserName, refusesUserName, Response.Error.ofCode]
  · rw [visitLogin_of_notMem now used] at dispatched
    obtain ⟨rfl, _⟩ := Prod.mk.inj dispatched
    simp [used, grantsUserName, refusesUserName]

/-- The answer to a login is as it should be exactly when no socket that was
granted its name has been removed. -/
theorem refusedOnlyWhileHeld_iff (codecs : Codecs) (events : List Event) (event : Event)
    (ptr : SocketPtr) (json : Ptree) (res : Response) (req : Request.Login)
    (answered : .answered ptr json res ∈
      (machine codecs).emits ((machine codecs).run events) event)
    (decoded : Call.ofJson codecs json = .ok (.visitLogin req)) :
    RefusedOnlyWhileHeld codecs ((machine codecs).trace events)
        ((machine codecs).run events).server req res ↔
      ∀ holder, Granted codecs ((machine codecs).trace events) holder req.sender →
        .removed holder ∉ (machine codecs).trace events := by
  obtain ⟨_, inside⟩ := mem_emits answered
  obtain ⟨_, now, _, call, granted, _, visit, dispatched⟩ := visit_of_answered inside
  obtain rfl : .visitLogin req = call :=
    Except.ok.inj (decoded.symm.trans visit.decoded)
  obtain ⟨grants, refuses⟩ := visitLogin_grants_iff dispatched
  have tables := registry codecs events
  have listed : ∀ holder, Granted codecs ((machine codecs).trace events) holder req.sender →
      (holder ∈ ((machine codecs).run events).server.socketList ↔
        .removed holder ∉ (machine codecs).trace events) := by
    intro holder held
    rw [tables.listed holder, and_iff_right]
    obtain ⟨tree, answer, login⟩ := answered_of_granted held
    exact tables.answered holder tree answer login
  unfold RefusedOnlyWhileHeld
  rw [grants, refuses, mem_clientNames_iff]
  constructor
  · intro given holder held
    rcases given with ⟨_, free⟩
    rw [← listed holder held]
    by_contra absent
    apply free ?_ ⟨holder, held⟩
    intro given
    rcases given with ⟨other, inside, granted⟩
    rw [granted_unique events granted held] at inside
    exact absent inside
  · intro kept
    refine ⟨?_, ?_⟩
    · intro given
      rcases given with ⟨holder, held⟩
      exact ⟨holder, (listed holder held).mpr (kept holder held), held⟩
    · intro free given
      rcases given with ⟨holder, held⟩
      exact free ⟨holder, (listed holder held).mpr (kept holder held), held⟩

/-! Bob logs in, and asks for his name on a second connection, while the first
one lasts and after it has ended. -/

def bobLogin : Request.Login where
  dateTime := 0
  sender := "bob"

def bobJson : Ptree :=
  bobLogin.toJson Codecs.compact

def bobChunk : Chunk :=
  Chunk.ofLine (Compact.textOf bobJson) (by decide +kernel)

def bobReads (ptr : SocketPtr) : Event :=
  .socket ptr (.data bobChunk) 0 fun _ => .whole

def bobStays : List Event :=
  [.socketServer (.connection 5), bobReads 0, .socketServer (.connection 6)]

def bobLeaves : List Event :=
  [.socketServer (.connection 5), bobReads 0, .socket 0 .shutdown 0 fun _ => .whole,
    .socketServer (.connection 6)]

def bobRefused : Response :=
  .error (Response.Error.ofCode 0 Instance.serverSender ErrorCode.userNameInUse
    "You dun goofed. Username is in use. (Server Error)")

theorem fromText_line {tree : Ptree} (representable : tree.Representable) :
    Json.fromText Codecs.compact (Utf8.encode (Compact.textOf tree) ++ [10]) = .ok tree := by
  have newlines : Utf8.encode (String.ofList [Char.ofNat 10]) ++ [10] = [10, 10] := by decide
  rw [Json.fromText, Compact.textOf_eq representable, Utf8.encode_append, List.append_assoc,
    newlines, Json.clean_append (Compact.getLast?_encode_printRoot tree) (by decide)
      (by decide), Codecs.readJson_compact, Compact.readJson_printRoot representable]

theorem parsed_line {tree : Ptree}
    (bounded : (Utf8.encode (Compact.textOf tree)).length < maxBufferSize)
    (unbroken : (0 : UInt8) ∉ Utf8.encode (Compact.textOf tree))
    (representable : tree.Representable) :
    ∃ str, (Chunk.ofLine (Compact.textOf tree) bounded).stored = some str ∧
      Json.fromText Codecs.compact str = .ok tree :=
  ⟨_, Chunk.stored_ofLine bounded unbroken, fromText_line representable⟩

theorem representable_bob : bobJson.Representable := by decide +kernel

theorem parsed_bob :
    ∃ str, bobChunk.stored = some str ∧ Json.fromText Codecs.compact str = .ok bobJson :=
  parsed_line _ (by decide +kernel) representable_bob

theorem decoded_bob : Call.ofJson Codecs.compact bobJson = .ok (.visitLogin bobLogin) := by
  decide +kernel

theorem visit_bob {server : Server} {ptr : SocketPtr}
    (registered : ptr ∈ server.flexWaiter.sockets)
    (opened : (server.heap ptr).isOpen = true) :
    Visit Codecs.compact server ptr bobChunk bobJson (.visitLogin bobLogin) :=
  ⟨registered, opened, parsed_bob, representable_bob, decoded_bob⟩

def bobGranted : Response :=
  .login (Response.Login.ofUsername 0 bobLogin.sender)

theorem react_bob_granted {server : Server} {ptr : SocketPtr}
    (registered : ptr ∈ server.flexWaiter.sockets) (listed : ptr ∈ server.socketList)
    (opened : ∀ other ∈ server.socketList, (server.heap other).isOpen = true)
    (free : bobLogin.sender ∉ server.clientNames) :
    server.react Codecs.compact (bobReads ptr) =
      { server := { server with clientNames := server.clientNames ++ [bobLogin.sender] }
        thrown := none
        actions := .answered ptr bobJson bobGranted ::
          server.socketList.map fun other =>
            .wrote other (bobGranted.text Codecs.compact) .whole } :=
  react_of_open (visit_bob registered (opened ptr listed)) 0 (fun _ => rfl)
    (visitLogin_of_notMem 0 free) opened

theorem react_bob_refused {server : Server} {ptr : SocketPtr}
    (registered : ptr ∈ server.flexWaiter.sockets) (listed : ptr ∈ server.socketList)
    (opened : ∀ other ∈ server.socketList, (server.heap other).isOpen = true)
    (used : bobLogin.sender ∈ server.clientNames) :
    server.react Codecs.compact (bobReads ptr) =
      { server, thrown := none
        actions := .answered ptr bobJson bobRefused ::
          server.socketList.map fun other =>
            .wrote other (bobRefused.text Codecs.compact) .whole } :=
  react_of_open (visit_bob registered (opened ptr listed)) 0 (fun _ => rfl)
    (visitLogin_of_mem 0 used) opened

def bobIn : Server :=
  { (start.makeSocket 5).2.addSocketConnection 0 with clientNames := [bobLogin.sender] }

theorem react_bob_first :
    ((start.makeSocket 5).2.addSocketConnection 0).react Codecs.compact (bobReads 0) =
      { server := bobIn, thrown := none
        actions := [.answered 0 bobJson bobGranted,
          .wrote 0 (bobGranted.text Codecs.compact) .whole] } :=
  react_bob_granted (by decide) (by decide) (by decide) (by decide)

theorem run_bobIn :
    (machine Codecs.compact).run [.socketServer (.connection 5), bobReads 0] =
      { server := bobIn, thrown := none } := by
  have second := (machine Codecs.compact).run_concat [.socketServer (.connection 5)]
    (bobReads 0)
  have first : (machine Codecs.compact).run [.socketServer (.connection 5)] =
      { server := (start.makeSocket 5).2.addSocketConnection 0, thrown := none } := rfl
  rw [first, step_of_running rfl, react_bob_first] at second
  exact second

theorem trace_bobIn :
    (machine Codecs.compact).trace [.socketServer (.connection 5), bobReads 0] =
      [.accepted 0, .answered 0 bobJson bobGranted,
        .wrote 0 (bobGranted.text Codecs.compact) .whole] := by
  have connected : start.react Codecs.compact (.socketServer (.connection 5)) =
      { server := (start.makeSocket 5).2.addSocketConnection 0
        actions := [.accepted 0], thrown := none } := rfl
  have first := @traceFrom_of_react Codecs.compact start rfl _ _ connected [bobReads 0]
  rw [traceFrom_of_react rfl react_bob_first] at first
  exact first

def twoIn : Server :=
  (bobIn.makeSocket 6).2.addSocketConnection 1

theorem run_bobStays :
    (machine Codecs.compact).run bobStays = { server := twoIn, thrown := none } := by
  have last := (machine Codecs.compact).run_concat
    [.socketServer (.connection 5), bobReads 0] (.socketServer (.connection 6))
  rw [run_bobIn] at last
  exact last

def bobOut : Server :=
  ((bobIn.setSocket 0 { bobIn.heap 0 with isOpen := false }).removeSocketConnection 0).server

theorem react_bob_leaves :
    bobIn.react Codecs.compact (.socket 0 .shutdown 0 fun _ => .whole) =
      { server := bobOut, thrown := none, actions := [.removed 0] } := by
  rw [react, if_pos (by decide), onSocket_of_shutdown (by decide)]
  rfl

theorem run_bobLeaves :
    (machine Codecs.compact).run bobLeaves =
      { server := (bobOut.makeSocket 6).2.addSocketConnection 1, thrown := none } := by
  have last := (machine Codecs.compact).run_append
    [.socketServer (.connection 5), bobReads 0]
    [.socket 0 .shutdown 0 fun _ => .whole, .socketServer (.connection 6)]
  rw [run_bobIn, Machine.runFrom_cons, step_of_running rfl, react_bob_leaves] at last
  exact last

theorem trace_bobLeaves :
    (machine Codecs.compact).trace bobLeaves =
      [.accepted 0, .answered 0 bobJson bobGranted,
        .wrote 0 (bobGranted.text Codecs.compact) .whole, .removed 0, .accepted 1] := by
  have last := (machine Codecs.compact).trace_append
    [.socketServer (.connection 5), bobReads 0]
    [.socket 0 .shutdown 0 fun _ => .whole, .socketServer (.connection 6)]
  rw [run_bobIn, trace_bobIn, traceFrom_of_react rfl react_bob_leaves] at last
  exact last

theorem emits_bobStays :
    (machine Codecs.compact).emits ((machine Codecs.compact).run bobStays) (bobReads 1) =
      .answered 1 bobJson bobRefused :: [0, 1].map fun other =>
        .wrote other (bobRefused.text Codecs.compact) .whole := by
  rw [run_bobStays, emits_of_running rfl,
    react_bob_refused (by decide) (by decide) (by decide) (by decide)]
  rfl

theorem refusedOnlyWhileHeld_bobStays :
    RefusedOnlyWhileHeld Codecs.compact ((machine Codecs.compact).trace bobStays)
        ((machine Codecs.compact).run bobStays).server bobLogin bobRefused ↔
      ∀ holder, Granted Codecs.compact ((machine Codecs.compact).trace bobStays) holder
        bobLogin.sender → .removed holder ∉ (machine Codecs.compact).trace bobStays :=
  refusedOnlyWhileHeld_iff Codecs.compact bobStays (bobReads 1) 1 bobJson bobRefused
    bobLogin (by rw [emits_bobStays]; exact List.mem_cons_self) decoded_bob

theorem bob_refused_after_leaving :
    .answered 1 bobJson bobRefused ∈ (machine Codecs.compact).emits
        ((machine Codecs.compact).run bobLeaves) (bobReads 1) ∧
      Call.ofJson Codecs.compact bobJson = .ok (.visitLogin bobLogin) ∧
      ¬ RefusedOnlyWhileHeld Codecs.compact ((machine Codecs.compact).trace bobLeaves)
        ((machine Codecs.compact).run bobLeaves).server bobLogin bobRefused := by
  refine ⟨?_, ?_, ?_⟩
  · rw [run_bobLeaves, emits_of_running rfl,
      react_bob_refused (by decide) (by decide) (by decide) (by decide)]
    exact List.mem_cons_self
  · exact decoded_bob
  · rw [run_bobLeaves, trace_bobLeaves]
    decide +kernel

end AndroidMessenger.Server
