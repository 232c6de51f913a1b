import AndroidMessenger.Chat.Answers
import AndroidMessenger.Server.Exhaustion

namespace AndroidMessenger.Chat

open Library Msg Networking Client

/-! The loop of the server on its kernel, with the activities that connect to it.  The
lines of the requests wait in the kernel until the loop reads them. -/

/-- What a thread of an activity does. -/
inductive ThreadCall where
  | beginLogin (user : String) (construction : MainActivity.Construction)
  | markConnected
  | sendLogin (now : DateTime)
  | endLogin
  | onMsgSend (now : DateTime) (msg : String)
  | read

namespace ThreadCall

def change {codecs : Codecs} (platform : Platform codecs) :
    ThreadCall → MainActivity → MainActivity
  | .beginLogin user construction => MainActivity.beginLogin construction user
  | .markConnected => MainActivity.markConnected
  | .sendLogin now => MainActivity.sendLogin now
  | .endLogin => MainActivity.endLogin
  | .onMsgSend now msg => MainActivity.onMsgSend now msg
  | .read => MainActivity.read platform

def event (client : Nat) : ThreadCall → SystemEvent
  | .beginLogin user construction => .beginLogin client user construction
  | .markConnected => .markConnected client
  | .sendLogin now => .sendLogin client now
  | .endLogin => .endLogin client
  | .onMsgSend now msg => .onMsgSend client now msg
  | .read => .read client

theorem step_event {codecs : Codecs} (platform : Platform codecs) (system : System)
    (client : Nat) (call : ThreadCall) :
    System.step platform system (call.event client) =
      system.act client (call.change platform) := by
  cases call with
  | beginLogin user construction => rfl
  | markConnected => rfl
  | sendLogin now => rfl
  | endLogin => rfl
  | onMsgSend now msg => rfl
  | read => rfl

end ThreadCall

/-- `peers` has the client of each connection.  The socket of an activity is the number of
its connection here, also before the server has accepted it. -/
structure Network where
  loop : Server.Loop
  clients : Nat → MainActivity
  peers : List Nat

inductive NetworkEvent where
  | calls (client : Nat) (call : ThreadCall)
  | finish (client : Nat)
  | connects (client : Nat)
  | transmits (client : Nat) (chunk : Chunk)
  | hangsUp (client : Nat) (reset : Bool)
  | types (read : StdinRead)
  | endsStdin
  | turn (turn : Server.Turn)

namespace Network

def act (client : Nat) (change : MainActivity → MainActivity) (network : Network) :
    Network :=
  if (network.clients client).alive then
    { network with
      clients := Function.update network.clients client (change (network.clients client)) }
  else network

def arrive (arrival : Arrival) (network : Network) : Network :=
  { network with
    loop := { network.loop with kernel := network.loop.kernel.arrive arrival } }

/-- The reader thread connects.  The kernel completes that before the server accepts. -/
def connect (client : Nat) (network : Network) : Network :=
  if network.loop.process.running ∧ (network.clients client).alive ∧
      (network.clients client).mConnection.isSome ∧ (network.clients client).sock = none then
    { network.arrive .connects with
      clients := Function.update network.clients client
        ((network.clients client).accept network.loop.kernel.connections)
      peers := network.peers ++ [client] }
  else network

variable {codecs : Codecs} {platform : Platform codecs} (writer : GsonWriter platform)

/-- A task puts the line of the next request on the socket, and it comes in one chunk. -/
def transmit (client : Nat) (chunk : Chunk) (network : Network) : Network :=
  match (network.clients client).sock, (network.clients client).outgoing with
  | some connection, request :: _ =>
      if network.loop.process.running ∧ (network.clients client).alive ∧
          chunk.stored = some (Utf8.encode (request.line writer)) then
        { network.arrive (.sends connection (.data chunk)) with
          clients := Function.update network.clients client
            (network.clients client).takeRequest }
      else network
  | _, _ => network

def hangUp (client : Nat) (reset : Bool) (network : Network) : Network :=
  match (network.clients client).sock with
  | some connection =>
      if (network.clients client).alive then network
      else network.arrive (.sends connection (if reset then .failed else .shutdown))
  | none => network

variable (codecs) in
/-- A round of the loop, and what it writes comes to the activities. -/
def turn (turn : Server.Turn) (network : Network) : Network :=
  { network with
    loop := network.loop.step codecs (.turn turn)
    clients := fun client => (network.clients client).receive
      (textsTo (network.loop.emits codecs (.turn turn))) }

def step (network : Network) : NetworkEvent → Network
  | .calls client call => network.act client (call.change platform)
  | .finish client => network.act client MainActivity.finish
  | .connects client => network.connect client
  | .transmits client chunk => network.transmit writer client chunk
  | .hangsUp client reset => network.hangUp client reset
  | .types read => network.arrive (.types read)
  | .endsStdin => network.arrive .endsStdin
  | .turn turn => network.turn codecs turn

variable (codecs) in
def emits (network : Network) : NetworkEvent → List Action
  | .turn turn => network.loop.emits codecs (.turn turn)
  | _ => []

def machine (inherited : Finset Nat) (limit : Limit) (bindError : Option Nat) :
    Machine Network NetworkEvent Action where
  initial :=
    { loop := Server.Loop.start inherited limit bindError
      clients _ := MainActivity.onCreate
      peers := [] }
  step := step writer
  emits := emits codecs

/-! The events of the system behind a run. -/

def waits (loop : Server.Loop) (activity : MainActivity) : Bool :=
  activity.sock.any fun connection => loop.process.server.nextPtr ≤ connection

def peer (network : Network) (connection : Nat) : Nat :=
  network.peers.getD connection 0

def joining (network : Network) : Nat :=
  network.peer network.loop.process.server.nextPtr

/-- An application that has ended before its connection is accepted ends then, as far as the
system knows. -/
def systemEvents (network : Network) : Event → List SystemEvent
  | .socketServer (.connection fd) =>
      .onSocketServer network.joining (.connection fd) ::
        if (network.clients network.joining).alive then [] else [.finish network.joining]
  | .socketServer (.failed errno) => [.onSocketServer network.joining (.failed errno)]
  | .socket ptr recv now writes => [.onSocket (network.peer ptr) recv now writes]
  | .stdin line => [.onSTDIN line]

def behind (network : Network) : NetworkEvent → List SystemEvent
  | .calls client call =>
      if (network.clients client).alive then [call.event client] else []
  | .finish client =>
      if (network.clients client).alive ∧ waits network.loop (network.clients client) = false then
        [.finish client]
      else []
  | .turn turn => (network.loop.behind (.turn turn)).flatMap network.systemEvents
  | _ => []

/-! An activity of the system, and that of the network. -/

/-- The requests whose lines wait in the kernel. -/
inductive OnWay (writer : GsonWriter platform) : List Recv → List NetworkRequest → Prop where
  | none : OnWay writer [] []
  | line {chunk : Chunk} {request : NetworkRequest} {recvs : List Recv}
      {requests : List NetworkRequest}
      (stored : chunk.stored = some (Utf8.encode (request.line writer)))
      (next : OnWay writer recvs requests) :
      OnWay writer (.data chunk :: recvs) (request :: requests)
  | ended {recv : Recv} {recvs : List Recv} {requests : List NetworkRequest}
      (empty : ∀ chunk, recv ≠ .data chunk) (next : OnWay writer recvs requests) :
      OnWay writer (recv :: recvs) requests

theorem OnWay.append {writer : GsonWriter platform} {first second : List Recv}
    {early late : List NetworkRequest} (before : OnWay writer first early)
    (after : OnWay writer second late) :
    OnWay writer (first ++ second) (early ++ late) := by
  induction before with
  | none => exact after
  | line stored next ih => exact OnWay.line stored ih
  | ended empty next ih => exact OnWay.ended empty ih

/-- The connection as the system has it: its requests are there until the server reads
them, and it has a socket once the server has accepted it. -/
def seen (sock : Option SocketPtr) (onWay : List NetworkRequest)
    (connection : NetworkingConnection) : NetworkingConnection :=
  { connection with sock, sent := onWay ++ connection.sent }

section Seen

variable {activity : MainActivity} {sock : Option SocketPtr} {onWay : List NetworkRequest}

theorem beginLogin_seen (unopened : activity.Unopened)
    (fresh : activity.mConnection = none → sock = none ∧ onWay = [])
    (user : String) (construction : MainActivity.Construction) :
    (activity.onConnection (seen sock onWay)).beginLogin construction user =
      (activity.beginLogin construction user).onConnection (seen sock onWay) := by
  by_cases idle : activity.login = .returned
  · by_cases begun : activity.state = .noConnection
    · have absent := unopened begun idle
      obtain ⟨rfl, rfl⟩ := fresh absent
      rw [MainActivity.onConnection_of_absent absent]
      by_cases long : javaLength user < 3
      · simp [MainActivity.beginLogin, idle, begun, long,
          MainActivity.onConnection_of_absent absent]
      · cases construction with
        | started =>
            rw [MainActivity.beginLogin_started idle begun long]
            rfl
        | unknownHostException =>
            rw [MainActivity.beginLogin_unknownHost idle begun long]
            symm
            apply MainActivity.onConnection_of_absent
            exact absent
        | numberFormatException =>
            rw [MainActivity.beginLogin_numberFormat idle begun long]
            symm
            apply MainActivity.onConnection_of_absent
            exact absent
    · simp [MainActivity.beginLogin, MainActivity.onConnection, begun]
  · simp [MainActivity.beginLogin, MainActivity.onConnection, idle]

theorem sendLogin_seen (now : DateTime) :
    (activity.onConnection (seen sock onWay)).sendLogin now =
      (activity.sendLogin now).onConnection (seen sock onWay) := by
  obtain ⟨alive, state, user, mConnection, login⟩ := activity
  cases login with
  | sending name =>
      cases mConnection with
      | none => rfl
      | some connection =>
          simp [MainActivity.sendLogin, MainActivity.onConnection, seen]
  | returned => rfl
  | connecting name => rfl
  | marking => rfl

theorem onMsgSend_seen (now : DateTime) (msg : String) :
    (activity.onConnection (seen sock onWay)).onMsgSend now msg =
      (activity.onMsgSend now msg).onConnection (seen sock onWay) := by
  obtain ⟨alive, state, user, mConnection, login⟩ := activity
  by_cases idle : login = .returned
  · by_cases loggedIn : state = .isLoggedIn
    · by_cases long : javaLength msg = 0
      · simp [MainActivity.onMsgSend, MainActivity.onConnection, long]
      · cases mConnection with
        | none => simp [MainActivity.onMsgSend, MainActivity.onConnection, idle, loggedIn, long]
        | some connection =>
            simp [MainActivity.onMsgSend, MainActivity.onConnection, idle, loggedIn, long, seen]
    · simp [MainActivity.onMsgSend, MainActivity.onConnection, loggedIn]
  · simp [MainActivity.onMsgSend, MainActivity.onConnection, idle]

theorem handle_onConnection (call : ResponseCall)
    (change : NetworkingConnection → NetworkingConnection) :
    (activity.onConnection change).handle call =
      (activity.handle call).map (MainActivity.onConnection change) := by
  cases call with
  | visitLogin login =>
      cases joining : login.bind LoginResponse.joiningUsername with
      | none =>
          simp [MainActivity.handle, MainActivity.visitLogin, joining, Except.map]
      | some name =>
          by_cases own : activity.user = some name
          · simp [MainActivity.handle, MainActivity.visitLogin, MainActivity.onConnection,
              joining, own, Except.map]
          · have foreign : ¬ some name = activity.user := fun same => own same.symm
            simp [MainActivity.handle, MainActivity.visitLogin, MainActivity.onConnection,
              joining, foreign, Except.map]
  | visitMessage message =>
      by_cases loggedIn : activity.state = .isLoggedIn
      · cases sender : message.bind MessageResponse.originator <;>
          simp [MainActivity.handle, MainActivity.visitMessage, MainActivity.onConnection,
            loggedIn, sender, Except.map]
      · simp [MainActivity.handle, MainActivity.visitMessage, MainActivity.onConnection,
          loggedIn, Except.map]
  | visitError error => rfl

theorem read_seen (platform : Platform codecs) :
    (activity.onConnection (seen sock onWay)).read platform =
      (activity.read platform).onConnection (seen sock onWay) := by
  obtain ⟨alive, state, user, mConnection, login⟩ := activity
  cases mConnection with
  | none => rfl
  | some connection =>
      obtain ⟨own, sent, received⟩ := connection
      cases received with
      | nil => rfl
      | cons text rest =>
          simp only [MainActivity.read, MainActivity.onConnection, Option.map_some, seen]
          cases visit platform text with
          | error exn => rfl
          | ok call =>
              have same := @handle_onConnection
                { alive, state, user, mConnection := some { sock := own, sent, received := rest },
                  login } call (seen sock onWay)
              simp only [MainActivity.onConnection, Option.map_some, seen] at same
              simp only [same]
              cases MainActivity.handle call _ with
              | error exn => rfl
              | ok after => rfl

theorem change_onConnection (unopened : activity.Unopened)
    (fresh : activity.mConnection = none → sock = none ∧ onWay = [])
    (platform : Platform codecs) (call : ThreadCall) :
    call.change platform (activity.onConnection (seen sock onWay)) =
      (call.change platform activity).onConnection (seen sock onWay) := by
  cases call with
  | beginLogin user construction => exact beginLogin_seen unopened fresh user construction
  | markConnected =>
      obtain ⟨alive, state, user, mConnection, login⟩ := activity
      cases login <;> rfl
  | sendLogin now => exact sendLogin_seen now
  | endLogin =>
      obtain ⟨alive, state, user, mConnection, login⟩ := activity
      cases login <;> rfl
  | onMsgSend now msg => exact onMsgSend_seen now msg
  | read => exact read_seen platform

end Seen

end Network

end AndroidMessenger.Chat
