import AndroidMessenger.Client.MainActivity
import AndroidMessenger.Server.Names

namespace AndroidMessenger.Chat

open Library Msg Networking Client

/-! One server and any number of activities.  Every connection of the server is one
of an activity. -/

structure System where
  process : Process
  clients : Nat → MainActivity

/-- One step of a thread of an activity, or of the server. -/
inductive SystemEvent where
  | beginLogin (client : Nat) (user : String) (construction : MainActivity.Construction)
  | markConnected (client : Nat)
  | sendLogin (client : Nat) (now : DateTime)
  | endLogin (client : Nat)
  | onMsgSend (client : Nat) (now : DateTime) (msg : String)
  | read (client : Nat)
  | finish (client : Nat)
  | onSocketServer (client : Nat) (accepted : AcceptOutcome)
  | onSocket (client : Nat) (recv : Recv) (now : TimePoint)
      (writes : Nat → WriteOutcome)
  | onSTDIN (line : String)

/-- The call that the server makes for a request. -/
def isReadAs : Call → NetworkRequest → Bool
  | .visitLogin req, .login sent => req.sender == sent.sender
  | .visitMessage req, .message sent =>
      some req.sender == sent.sender && req.content == sent.content
  | _, _ => false

/-- The texts that reach the peer of a socket whole. -/
def textsTo (actions : List Action) (ptr : SocketPtr) : List String :=
  actions.filterMap fun
    | .wrote other text .whole => if other = ptr then some text else none
    | _ => none

namespace System

def update (client : Nat) (change : MainActivity → MainActivity) (system : System) :
    System :=
  { system with
    clients := Function.update system.clients client (change (system.clients client)) }

/-- A step of a thread of a running application. -/
def act (client : Nat) (change : MainActivity → MainActivity) (system : System) :
    System :=
  if (system.clients client).alive then system.update client change else system

variable (codecs : Codecs)

/-- The call is that of the request that is next on the connection. -/
def visitsNext (visited : Option (SocketPtr × Ptree × Call)) (activity : MainActivity) :
    Bool :=
  match visited, activity.mConnection with
  | some (_, _, call), some { sent := request :: _, .. } => isReadAs call request
  | _, _ => false

/-- The server event of a step, and what the activity has changed by then. -/
def serverEvent (system : System) : SystemEvent → Option (Event × System)
  | .onSocketServer client (.connection fd) =>
      let activity := system.clients client
      if activity.alive ∧ activity.mConnection.isSome ∧ activity.sock = none then
        some (.socketServer (.connection fd),
          system.update client (MainActivity.accept system.process.server.nextPtr))
      else none
  | .onSocketServer _ (.failed errno) => some (.socketServer (.failed errno), system)
  | .onSocket client recv now writes =>
      match (system.clients client).sock with
      | none => none
      | some ptr =>
          let event := Event.socket ptr recv now writes
          -- What the server visits besides takes no request off the connection.
          if visitsNext (Server.visits codecs event system.process.server)
              (system.clients client) then
            some (event, system.update client MainActivity.takeRequest)
          else some (event, system)
  | .onSTDIN line => some (.stdin line, system)
  | _ => none

def react (event : Event) (system : System) : System where
  process := (Server.machine codecs).step system.process event
  clients client := (system.clients client).receive
    (textsTo ((Server.machine codecs).emits system.process event))

def serve (event : SystemEvent) (system : System) : System :=
  if system.process.running then
    match system.serverEvent codecs event with
    | none => system
    | some (event, prepared) => prepared.react codecs event
  else system

def emits (system : System) (event : SystemEvent) : List Action :=
  if system.process.running then
    match system.serverEvent codecs event with
    | none => []
    | some (event, _) => (Server.machine codecs).emits system.process event
  else []

variable {codecs}

def step (platform : Platform codecs) (system : System) (event : SystemEvent) : System :=
  match event with
  | .beginLogin client user construction =>
      system.act client (MainActivity.beginLogin construction user)
  | .markConnected client => system.act client MainActivity.markConnected
  | .sendLogin client now => system.act client (MainActivity.sendLogin now)
  | .endLogin client => system.act client MainActivity.endLogin
  | .onMsgSend client now msg => system.act client (MainActivity.onMsgSend now msg)
  | .read client => system.act client (MainActivity.read platform)
  | .finish client => system.act client MainActivity.finish
  | event => system.serve codecs event

def machine (platform : Platform codecs) : Machine System SystemEvent Action where
  initial :=
    { process := (Server.machine codecs).initial
      clients _ := MainActivity.onCreate }
  step := step platform
  emits := emits codecs

@[simp] theorem clients_update_self (client : Nat) (change : MainActivity → MainActivity)
    (system : System) :
    (system.update client change).clients client = change (system.clients client) :=
  Function.update_self ..

theorem clients_update_of_ne {client other : Nat} (different : other ≠ client)
    (change : MainActivity → MainActivity) (system : System) :
    (system.update client change).clients other = system.clients other :=
  Function.update_of_ne different ..

theorem emits_of_serverEvent {system : System} {event : SystemEvent}
    (own : system.serverEvent codecs event = none) : system.emits codecs event = [] := by
  simp [emits, own]

/-- The server events of steps: a connection of a running activity is accepted, the
server reads from a connection, or it does neither. -/
theorem serverEvent_cases {system prepared : System} {event : SystemEvent}
    {served : Event} (prepares : system.serverEvent codecs event = some (served, prepared)) :
    (∃ client fd, served = .socketServer (.connection fd) ∧
      (system.clients client).alive = true ∧ (system.clients client).sock = none ∧
      prepared =
        system.update client (MainActivity.accept system.process.server.nextPtr)) ∨
    (∃ client recv now writes ptr, event = .onSocket client recv now writes ∧
      (system.clients client).sock = some ptr ∧ served = .socket ptr recv now writes ∧
      (prepared = system ∨ prepared = system.update client MainActivity.takeRequest)) ∨
    ((∀ ptr recv now writes, served ≠ .socket ptr recv now writes) ∧
      prepared = system) := by
  cases event with
  | onSocketServer client accepted =>
      cases accepted with
      | connection fd =>
          simp only [serverEvent] at prepares
          split at prepares
          · rename_i ready
            cases prepares
            exact Or.inl ⟨client, fd, rfl, ready.1, ready.2.2, rfl⟩
          · contradiction
      | failed errno =>
          cases prepares
          exact Or.inr (Or.inr ⟨by simp, rfl⟩)
  | onSocket client recv now writes =>
      right
      left
      simp only [serverEvent] at prepares
      split at prepares
      · contradiction
      · rename_i ptr listens
        split at prepares
        · cases prepares
          exact ⟨client, recv, now, writes, ptr, rfl, listens, rfl, Or.inr rfl⟩
        · cases prepares
          exact ⟨client, recv, now, writes, ptr, rfl, listens, rfl, Or.inl rfl⟩
  | onSTDIN line =>
      cases prepares
      exact Or.inr (Or.inr ⟨by simp, rfl⟩)
  | beginLogin client user construction => cases prepares
  | markConnected client => cases prepares
  | sendLogin client now => cases prepares
  | endLogin client => cases prepares
  | onMsgSend client now msg => cases prepares
  | read client => cases prepares
  | finish client => cases prepares

end System

end AndroidMessenger.Chat
