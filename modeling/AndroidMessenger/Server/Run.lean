import AndroidMessenger.Library.Machine
import AndroidMessenger.Server.Effects

namespace AndroidMessenger

open Library Msg Networking

/-- What `flex_waiter::wait` dispatches to the server, with everything the
system calls of that handler return. -/
inductive Event where
  | socketServer (accepted : AcceptOutcome)
  | socket (sockPtr : SocketPtr) (recv : Recv) (now : TimePoint)
      (writes : Nat → WriteOutcome)
  | stdin (line : String)

/-- The server process.  An exception that leaves a handler leaves `main`. -/
structure Process where
  server : Server
  thrown : Option Exn

namespace Process

def running (process : Process) : Bool :=
  process.server.inActivity && process.thrown.isNone

theorem running_iff (process : Process) :
    process.running = true ↔
      process.server.inActivity = true ∧ process.thrown = none := by
  simp [running]

end Process

namespace Server

/-- The waiter only dispatches sockets of its own set. -/
def react (codecs : Codecs) (event : Event) (server : Server) : Reaction :=
  match event with
  | .socketServer accepted => server.onSocketServer accepted
  | .socket sockPtr recv now writes =>
      if sockPtr ∈ server.flexWaiter.sockets then
        server.onSocket codecs sockPtr recv now writes
      else { server, actions := [], thrown := none }
  | .stdin line => server.onSTDIN line

def machine (codecs : Codecs) : Machine Process Event Action where
  initial := { server := start, thrown := none }
  step process event :=
    if process.running then
      let reaction := process.server.react codecs event
      { server := reaction.server, thrown := reaction.thrown }
    else process
  emits process event :=
    if process.running then (process.server.react codecs event).actions else []

variable {codecs : Codecs}

theorem step_of_running {process : Process} (h : process.running = true)
    (event : Event) :
    (machine codecs).step process event =
      { server := (process.server.react codecs event).server
        thrown := (process.server.react codecs event).thrown } := by
  simp [machine, h]

theorem emits_of_running {process : Process} (h : process.running = true)
    (event : Event) :
    (machine codecs).emits process event =
      (process.server.react codecs event).actions := by
  simp [machine, h]

theorem step_of_stopped {process : Process} (h : process.running = false)
    (event : Event) : (machine codecs).step process event = process := by
  simp [machine, h]

theorem emits_of_stopped {process : Process} (h : process.running = false)
    (event : Event) : (machine codecs).emits process event = [] := by
  simp [machine, h]

theorem mem_emits {process : Process} {event : Event} {action : Action}
    (inside : action ∈ (machine codecs).emits process event) :
    process.running = true ∧ action ∈ (process.server.react codecs event).actions := by
  cases running : process.running with
  | false =>
      rw [emits_of_stopped running] at inside
      exact absurd inside List.not_mem_nil
  | true =>
      rw [emits_of_running running] at inside
      exact ⟨rfl, inside⟩

theorem traceFrom_of_react {before : Server} (active : before.inActivity = true)
    {event : Event} {reaction : Reaction} (reacts : before.react codecs event = reaction)
    (events : List Event) :
    (machine codecs).traceFrom { server := before, thrown := none } (event :: events) =
      reaction.actions ++ (machine codecs).traceFrom
        { server := reaction.server, thrown := reaction.thrown } events := by
  have running : Process.running { server := before, thrown := none } = true :=
    (Process.running_iff _).mpr ⟨active, rfl⟩
  rw [Machine.traceFrom_cons, emits_of_running running, step_of_running running, reacts]

/-- An invariant of trace and server only has to be kept by the reactions of a
running server. -/
theorem induction {invariant : List Action → Server → Prop}
    (initial : invariant [] start)
    (keep : ∀ trace server event, server.inActivity = true → invariant trace server →
      invariant (trace ++ (server.react codecs event).actions)
        (server.react codecs event).server)
    (events : List Event) :
    invariant ((machine codecs).trace events) ((machine codecs).run events).server := by
  refine @Machine.induction _ _ _ (machine codecs)
    (fun trace process => invariant trace process.server) initial ?_ events
  intro trace process event held
  cases hrunning : process.running with
  | false =>
      rw [step_of_stopped hrunning, emits_of_stopped hrunning, List.append_nil]
      exact held
  | true =>
      rw [step_of_running hrunning, emits_of_running hrunning]
      exact keep trace process.server event
        ((process.running_iff).mp hrunning).1 held

/-! The branches of `onSocket`. -/

theorem onSocket_of_respond {ptr : SocketPtr} {chunk : Chunk} {str : Bytes}
    {now : TimePoint} {server server' : Server} {json : Ptree} {res : Response}
    (hopen : (server.heap ptr).isOpen = true) (hstored : chunk.stored = some str)
    (hrespond : server.respond codecs now str = .ok (json, res, server'))
    (writes : Nat → WriteOutcome) :
    server.onSocket codecs ptr (.data chunk) now writes =
      { server'.broadcast codecs writes res with
        actions := .answered ptr json res ::
          (server'.broadcast codecs writes res).actions } := by
  simp [onSocket, Socket.read, hopen, hstored, hrespond]

theorem onSocket_of_throw {ptr : SocketPtr} {chunk : Chunk} {str : Bytes}
    {now : TimePoint} {server : Server} {exn : Exn}
    (hopen : (server.heap ptr).isOpen = true) (hstored : chunk.stored = some str)
    (hrespond : server.respond codecs now str = .error exn)
    (writes : Nat → WriteOutcome) :
    server.onSocket codecs ptr (.data chunk) now writes =
      { server, actions := [], thrown := some exn } := by
  simp [onSocket, Socket.read, hopen, hstored, hrespond]

theorem onSocket_of_unterminated {ptr : SocketPtr} {chunk : Chunk} {server : Server}
    (hopen : (server.heap ptr).isOpen = true) (hstored : chunk.stored = none)
    (now : TimePoint) (writes : Nat → WriteOutcome) :
    server.onSocket codecs ptr (.data chunk) now writes =
      { server, actions := [], thrown := some .unterminatedBuffer } := by
  simp [onSocket, Socket.read, hopen, hstored]

theorem onSocket_of_shutdown {ptr : SocketPtr} {server : Server}
    (hopen : (server.heap ptr).isOpen = true) (now : TimePoint)
    (writes : Nat → WriteOutcome) :
    server.onSocket codecs ptr .shutdown now writes =
      (server.setSocket ptr
        { server.heap ptr with isOpen := false }).removeSocketConnection ptr := by
  simp [onSocket, Socket.read, hopen]

theorem onSocket_of_failed {ptr : SocketPtr} {server : Server}
    (hopen : (server.heap ptr).isOpen = true) (now : TimePoint)
    (writes : Nat → WriteOutcome) :
    server.onSocket codecs ptr .failed now writes =
      { server := server.setSocket ptr { server.heap ptr with isOpen := false }
        actions := [], thrown := none } := by
  simp [onSocket, Socket.read, hopen]

theorem onSocket_of_closed {ptr : SocketPtr} {server : Server}
    (hclosed : (server.heap ptr).isOpen = false) (recv : Recv) (now : TimePoint)
    (writes : Nat → WriteOutcome) :
    server.onSocket codecs ptr recv now writes =
      { server, actions := [], thrown := none } := by
  simp [onSocket, Socket.read, hclosed]

/-- Either the text that was read is answered and broadcast, or the socket is
removed, or nothing is done besides clearing an open flag and throwing. -/
theorem onSocket_cases (codecs : Codecs) (ptr : SocketPtr) (recv : Recv)
    (now : TimePoint) (writes : Nat → WriteOutcome) (server : Server) :
    (∃ chunk str json res server', recv = .data chunk ∧
      (server.heap ptr).isOpen = true ∧ chunk.stored = some str ∧
      server.respond codecs now str = .ok (json, res, server') ∧
      server.onSocket codecs ptr recv now writes =
        { server'.broadcast codecs writes res with
          actions := .answered ptr json res ::
            (server'.broadcast codecs writes res).actions }) ∨
    (recv = .shutdown ∧ (server.heap ptr).isOpen = true ∧
      server.onSocket codecs ptr recv now writes =
        (server.setSocket ptr
          { server.heap ptr with isOpen := false }).removeSocketConnection ptr) ∨
    (∃ sock thrown, sock.fd = (server.heap ptr).fd ∧
      server.onSocket codecs ptr recv now writes =
        { server := server.setSocket ptr sock, actions := [], thrown }) := by
  cases hopen : (server.heap ptr).isOpen with
  | false =>
      right
      right
      refine ⟨server.heap ptr, none, rfl, ?_⟩
      rw [onSocket_of_closed hopen, setSocket_heap]
  | true =>
      cases recv with
      | failed =>
          right
          right
          exact ⟨{ server.heap ptr with isOpen := false }, none, rfl,
            onSocket_of_failed hopen now writes⟩
      | shutdown =>
          right
          left
          exact ⟨rfl, rfl, onSocket_of_shutdown hopen now writes⟩
      | data chunk =>
          cases hstored : chunk.stored with
          | none =>
              right
              right
              refine ⟨server.heap ptr, some .unterminatedBuffer, rfl, ?_⟩
              rw [onSocket_of_unterminated hopen hstored, setSocket_heap]
          | some str =>
              cases hrespond : server.respond codecs now str with
              | error exn =>
                  right
                  right
                  refine ⟨server.heap ptr, some exn, rfl, ?_⟩
                  rw [onSocket_of_throw hopen hstored hrespond, setSocket_heap]
              | ok result =>
                  obtain ⟨json, res, server'⟩ := result
                  left
                  exact ⟨chunk, str, json, res, server', rfl, rfl, hstored, hrespond,
                    onSocket_of_respond hopen hstored hrespond writes⟩

/-! The request that a reaction visits, as a function of what was read. -/

def visits (codecs : Codecs) (event : Event) (server : Server) :
    Option (SocketPtr × Ptree × Call) :=
  match event with
  | .socket ptr (.data chunk) _ _ =>
      if ptr ∈ server.flexWaiter.sockets ∧ (server.heap ptr).isOpen = true then
        match chunk.stored with
        | none => none
        | some str =>
            match Json.fromText codecs str with
            | .error _ => none
            | .ok json =>
                if json.Representable then
                  match Call.ofJson codecs json with
                  | .error _ => none
                  | .ok call => some (ptr, json, call)
                else none
      else none
  | _ => none

/-- The reading that is behind a visited request. -/
structure Visit (codecs : Codecs) (server : Server) (ptr : SocketPtr) (chunk : Chunk)
    (json : Ptree) (call : Call) : Prop where
  registered : ptr ∈ server.flexWaiter.sockets
  opened : (server.heap ptr).isOpen = true
  parsed : ∃ str, chunk.stored = some str ∧ Json.fromText codecs str = .ok json
  representable : json.Representable
  decoded : Call.ofJson codecs json = .ok call

def IsRequest (codecs : Codecs) (chunk : Chunk) : Prop :=
  ∃ str json call, chunk.stored = some str ∧ Json.fromText codecs str = .ok json ∧
    json.Representable ∧ Call.ofJson codecs json = .ok call ∧
    ∀ originator code message, call ≠ .error originator code message

theorem visits_eq_some_iff {event : Event} {server : Server} {ptr : SocketPtr}
    {json : Ptree} {call : Call} :
    visits codecs event server = some (ptr, json, call) ↔
      ∃ chunk now writes, event = .socket ptr (.data chunk) now writes ∧
        Visit codecs server ptr chunk json call := by
  constructor
  · intro visited
    unfold visits at visited
    split at visited
    · rename_i other chunk now writes
      split at visited
      · rename_i ready
        split at visited
        · contradiction
        · rename_i str stored
          split at visited
          · contradiction
          · rename_i tree parsed
            split at visited
            · rename_i representable
              split at visited
              · contradiction
              · rename_i decoded
                cases visited
                exact ⟨chunk, now, writes, rfl, ready.1, ready.2, ⟨str, stored, parsed⟩,
                  representable, decoded⟩
            · contradiction
      · contradiction
    · contradiction
  · rintro ⟨chunk, now, writes, rfl, registered, opened, ⟨str, stored, parsed⟩,
      representable, decoded⟩
    simp [visits, registered, opened, stored, parsed, representable, decoded]

theorem Visit.respond {server : Server} {ptr : SocketPtr} {chunk : Chunk} {json : Ptree}
    {call : Call} (visit : Visit codecs server ptr chunk json call) (now : TimePoint) :
    ∃ str, chunk.stored = some str ∧
      server.respond codecs now str =
        .ok (json, call.dispatch (visitor now) server) := by
  obtain ⟨str, stored, parsed⟩ := visit.parsed
  exact ⟨str, stored, respond_eq_ok_iff.mpr
    ⟨parsed, visit.representable, call, visit.decoded, rfl⟩⟩

theorem react_of_visit {server : Server} {ptr : SocketPtr} {chunk : Chunk} {json : Ptree}
    {call : Call} (visit : Visit codecs server ptr chunk json call) (now : TimePoint)
    (writes : Nat → WriteOutcome) {res : Response} {after : Server}
    (dispatched : call.dispatch (visitor now) server = (res, after)) :
    server.react codecs (.socket ptr (.data chunk) now writes) =
      { after.broadcast codecs writes res with
        actions := .answered ptr json res ::
          (after.broadcast codecs writes res).actions } := by
  obtain ⟨str, stored, respond⟩ := visit.respond now
  rw [dispatched] at respond
  rw [react, if_pos visit.registered]
  exact onSocket_of_respond visit.opened stored respond writes

theorem react_thrown_iff {server : Server} (nodup : server.socketList.Nodup)
    {ptr : SocketPtr} {chunk : Chunk} {json : Ptree} {call : Call}
    (visit : Visit codecs server ptr chunk json call) (now : TimePoint)
    (writes : Nat → WriteOutcome) :
    (server.react codecs (.socket ptr (.data chunk) now writes)).thrown = none ↔
      ∀ other ∈ server.socketList, (server.heap other).isOpen = true := by
  rcases dispatched : call.dispatch (visitor now) server with ⟨res, granted⟩
  have frame := dispatch_frame dispatched
  have listed : granted.socketList = server.socketList := by rw [frame]
  have heap : granted.heap = server.heap := by rw [frame]
  rw [react_of_visit visit now writes dispatched, broadcast_eq_writeLoop, listed]
  rw [writeLoop_thrown_iff (toText_response codecs res) writes 0 nodup granted, heap]

theorem react_of_unfailed {server : Server} {ptr : SocketPtr} {chunk : Chunk}
    {json : Ptree} {call : Call} (visit : Visit codecs server ptr chunk json call)
    (now : TimePoint) {writes : Nat → WriteOutcome} (unfailed : ∀ i, writes i ≠ .failed)
    {res : Response} {granted : Server}
    (dispatched : call.dispatch (visitor now) server = (res, granted))
    (opened : ∀ other ∈ server.socketList, (server.heap other).isOpen = true) :
    server.react codecs (.socket ptr (.data chunk) now writes) =
      { server := granted
        actions := .answered ptr json res ::
          server.socketList.mapIdx fun i other => .wrote other (res.text codecs) (writes i)
        thrown := none } := by
  have frame := dispatch_frame dispatched
  have listed : granted.socketList = server.socketList := by rw [frame]
  have heap : granted.heap = server.heap := by rw [frame]
  have loop := @writeLoop_of_open codecs (res.toJson codecs) _ (toText_response codecs res)
    writes unfailed 0 server.socketList granted (by rw [heap]; exact opened)
  rw [react_of_visit visit now writes dispatched, broadcast_eq_writeLoop, listed, loop]
  simp

theorem react_of_open {server : Server} {ptr : SocketPtr} {chunk : Chunk} {json : Ptree}
    {call : Call} (visit : Visit codecs server ptr chunk json call) (now : TimePoint)
    {writes : Nat → WriteOutcome} (whole : ∀ i, writes i = .whole) {res : Response}
    {granted : Server} (dispatched : call.dispatch (visitor now) server = (res, granted))
    (opened : ∀ other ∈ server.socketList, (server.heap other).isOpen = true) :
    server.react codecs (.socket ptr (.data chunk) now writes) =
      { server := granted
        actions := .answered ptr json res ::
          server.socketList.map fun other => .wrote other (res.text codecs) .whole
        thrown := none } := by
  rw [react_of_unfailed visit now (by simp [whole]) dispatched opened]
  simp only [whole, Reaction.mk.injEq, List.cons.injEq, true_and, and_true]
  apply List.ext_getElem
  · simp
  · simp

end Server

end AndroidMessenger
