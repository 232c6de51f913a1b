import Mathlib.Algebra.GroupWithZero.Nat
import AndroidMessenger.Client.ResponseVisitor
import AndroidMessenger.Networking.FlexWaiter

namespace AndroidMessenger.Client

open Library Msg Networking

/-! The requests that an activity sends. -/

structure LoginRequest where
  dateTime : DateTime
  sender : String
  deriving DecidableEq

structure MessageRequest where
  dateTime : DateTime
  sender : Option String
  content : String
  deriving DecidableEq

inductive NetworkRequest where
  | login (req : LoginRequest)
  | message (req : MessageRequest)
  deriving DecidableEq

/-- `NetworkingConnection`, with the socket that the server has accepted for it, the
requests on their way to the server and the texts on their way back. -/
structure NetworkingConnection where
  sock : Option SocketPtr
  sent : List NetworkRequest
  received : List String

namespace MainActivity

inductive State where
  | noConnection
  | hasConnection
  | attemptedLogin
  | isLoggedIn
  deriving DecidableEq

/-- What the UI thread has still to do of a call of `login`.  The reader thread and
the sending task run in between. -/
inductive Login where
  | returned
  | connecting (user : String)
  | sending (user : String)
  | marking
  deriving DecidableEq

/-- How the constructor of `NetworkingConnection` ends. -/
inductive Construction where
  | started
  | unknownHostException
  | numberFormatException
  deriving DecidableEq

end MainActivity

/-- An exception that leaves a thread ends the application. -/
structure MainActivity where
  alive : Bool
  state : MainActivity.State
  user : Option String
  mConnection : Option NetworkingConnection
  login : MainActivity.Login

/-- `String.length()`, in UTF-16 units. -/
def javaLength (text : String) : Nat :=
  (text.toList.map fun char => if char.toNat < 0x10000 then 1 else 2).sum

namespace MainActivity

def onCreate : MainActivity where
  alive := true
  state := .noConnection
  user := none
  mConnection := none
  login := .returned

def sock (activity : MainActivity) : Option SocketPtr :=
  activity.mConnection.bind NetworkingConnection.sock

/-- `login` up to the constructor that starts the reader thread, or to the end of the
`catch` clause when the address does not resolve. -/
def beginLogin (construction : Construction) (user : String) (activity : MainActivity) :
    MainActivity :=
  if activity.login ≠ .returned then activity
  else if activity.state ≠ .noConnection then activity
  else if javaLength user < 3 then activity
  else
    match construction with
    | .started =>
        { activity with
          user := some user
          mConnection := some { sock := none, sent := [], received := [] }
          login := .connecting user }
    | .unknownHostException =>
        { activity with
          user := some user
          state := .noConnection
          login := .sending user }
    | .numberFormatException => { activity with user := some user, alive := false }

def markConnected (activity : MainActivity) : MainActivity :=
  match activity.login with
  | .connecting user => { activity with state := .hasConnection, login := .sending user }
  | _ => activity

def sendLogin (now : DateTime) (activity : MainActivity) : MainActivity :=
  match activity.login with
  | .sending user =>
      match activity.mConnection with
      | none => { activity with alive := false }
      | some connection =>
          { activity with
            mConnection := some { connection with
              sent := connection.sent ++ [.login { dateTime := now, sender := user }] }
            login := .marking }
  | _ => activity

def endLogin (activity : MainActivity) : MainActivity :=
  match activity.login with
  | .marking => { activity with state := .attemptedLogin, login := .returned }
  | _ => activity

def onMsgSend (now : DateTime) (msg : String) (activity : MainActivity) : MainActivity :=
  if activity.login ≠ .returned then activity
  else if activity.state ≠ .isLoggedIn then activity
  else if javaLength msg = 0 then activity
  else
    match activity.mConnection with
    | none => { activity with alive := false }
    | some connection =>
        { activity with
          mConnection := some { connection with
            sent := connection.sent ++
              [.message { dateTime := now, sender := activity.user, content := msg }] } }

/-! `MyResponseVisitor`, up to what it shows. -/

def visitLogin (login : Option LoginResponse) (activity : MainActivity) :
    Except JavaExn MainActivity :=
  match login.bind LoginResponse.joiningUsername with
  | none => .error .nullPointerException
  | some joiningUsername =>
      if some joiningUsername = activity.user then
        .ok { activity with state := .isLoggedIn }
      else .ok activity

def visitMessage (message : Option MessageResponse) (activity : MainActivity) :
    Except JavaExn MainActivity :=
  if activity.state ≠ .isLoggedIn then .ok activity
  else
    match message.bind MessageResponse.originator with
    | none => .error .nullPointerException
    | some _ => .ok activity

def visitError (_ : ServerError) (activity : MainActivity) : Except JavaExn MainActivity :=
  .ok activity

def handle (call : ResponseCall) (activity : MainActivity) : Except JavaExn MainActivity :=
  match call with
  | .visitLogin login => activity.visitLogin login
  | .visitMessage message => activity.visitMessage message
  | .visitError error => activity.visitError error

/-- The reader thread visits the next text. -/
def read {codecs : Codecs} (platform : Platform codecs) (activity : MainActivity) :
    MainActivity :=
  match activity.mConnection with
  | none => activity
  | some connection =>
      match connection.received with
      | [] => activity
      | text :: rest =>
          let activity := { activity with
            mConnection := some { connection with received := rest } }
          match visit platform text with
          | .error _ => { activity with alive := false }
          | .ok call =>
              match activity.handle call with
              | .error _ => { activity with alive := false }
              | .ok activity => activity

/-- The application ends. -/
def finish (activity : MainActivity) : MainActivity :=
  { activity with alive := false }

/-! What the server does to a connection. -/

def onConnection (change : NetworkingConnection → NetworkingConnection)
    (activity : MainActivity) : MainActivity :=
  { activity with mConnection := activity.mConnection.map change }

def accept (ptr : SocketPtr) (activity : MainActivity) : MainActivity :=
  activity.onConnection fun connection => { connection with sock := some ptr }

def takeRequest (activity : MainActivity) : MainActivity :=
  activity.onConnection fun connection =>
    { connection with sent := connection.sent.drop 1 }

def receive (texts : SocketPtr → List String) (activity : MainActivity) : MainActivity :=
  activity.onConnection fun connection =>
    { connection with
      received := connection.received ++ (connection.sock.map texts).getD [] }

/-! `login` is only entered at rest, and ends its first part in one of three ways. -/

section BeginLogin

variable {activity : MainActivity} {user : String} (idle : activity.login = .returned)
  (fresh : activity.state = .noConnection) (long : ¬ javaLength user < 3)

include idle fresh long

theorem beginLogin_started : activity.beginLogin .started user =
    { activity with
      user := some user
      mConnection := some { sock := none, sent := [], received := [] }
      login := .connecting user } := by
  simp [beginLogin, idle, fresh, long]

theorem beginLogin_unknownHost : activity.beginLogin .unknownHostException user =
    { activity with
      user := some user
      state := .noConnection
      login := .sending user } := by
  simp [beginLogin, idle, fresh, long]

theorem beginLogin_numberFormat : activity.beginLogin .numberFormatException user =
    { activity with user := some user, alive := false } := by
  simp [beginLogin, idle, fresh, long]

end BeginLogin

theorem onConnection_of_absent {activity : MainActivity}
    (absent : activity.mConnection = none)
    (change : NetworkingConnection → NetworkingConnection) :
    activity.onConnection change = activity := by
  cases activity with
  | mk alive state user mConnection login =>
      obtain rfl : mConnection = none := absent
      rfl

/-! No step but the acceptance gives an activity a socket. -/

theorem sock_onConnection {change : NetworkingConnection → NetworkingConnection}
    (keeps : ∀ connection, (change connection).sock = connection.sock)
    (activity : MainActivity) : (activity.onConnection change).sock = activity.sock := by
  simp only [sock, onConnection]
  cases activity.mConnection with
  | none => rfl
  | some connection => exact keeps connection

theorem sock_takeRequest (activity : MainActivity) :
    activity.takeRequest.sock = activity.sock := by
  apply sock_onConnection
  intro connection
  rfl

theorem sock_receive (texts : SocketPtr → List String) (activity : MainActivity) :
    (activity.receive texts).sock = activity.sock := by
  apply sock_onConnection
  intro connection
  rfl

theorem eq_of_sock_accept {ptr other : SocketPtr} {activity : MainActivity}
    (listens : (activity.accept ptr).sock = some other) : ptr = other := by
  simp only [sock, accept, onConnection] at listens
  cases found : activity.mConnection with
  | none => simp [found] at listens
  | some connection => simpa [found] using listens

theorem sock_beginLogin {construction : Construction} {user : String}
    {activity : MainActivity} {ptr : SocketPtr}
    (listens : (activity.beginLogin construction user).sock = some ptr) :
    activity.sock = some ptr := by
  unfold beginLogin at listens
  split at listens
  · exact listens
  · split at listens
    · exact listens
    · split at listens
      · exact listens
      · cases construction with
        | started => simp [sock] at listens
        | unknownHostException => exact listens
        | numberFormatException => exact listens

theorem sock_markConnected (activity : MainActivity) :
    activity.markConnected.sock = activity.sock := by
  unfold markConnected
  split
  · rfl
  · rfl

theorem sock_sendLogin (now : DateTime) (activity : MainActivity) :
    (activity.sendLogin now).sock = activity.sock := by
  unfold sendLogin
  split
  · split
    · rfl
    · rename_i connection found
      simp [sock, found]
  · rfl

theorem sock_endLogin (activity : MainActivity) :
    activity.endLogin.sock = activity.sock := by
  unfold endLogin
  split
  · rfl
  · rfl

theorem sock_onMsgSend (now : DateTime) (msg : String) (activity : MainActivity) :
    (activity.onMsgSend now msg).sock = activity.sock := by
  unfold onMsgSend
  split
  · rfl
  · split
    · rfl
    · split
      · rfl
      · split
        · rfl
        · rename_i connection found
          simp [sock, found]

theorem mConnection_handle {call : ResponseCall} {activity after : MainActivity}
    (handled : activity.handle call = .ok after) :
    after.mConnection = activity.mConnection := by
  cases call with
  | visitLogin login =>
      simp only [handle, visitLogin] at handled
      split at handled
      · contradiction
      · split at handled
        · cases handled
          rfl
        · cases handled
          rfl
  | visitMessage message =>
      simp only [handle, visitMessage] at handled
      split at handled
      · cases handled
        rfl
      · split at handled
        · contradiction
        · cases handled
          rfl
  | visitError error =>
      cases handled
      rfl

theorem read_of_handled {codecs : Codecs} {platform : Platform codecs}
    {activity after : MainActivity} {connection : NetworkingConnection} {text : String}
    {rest : List String} {call : ResponseCall}
    (present : activity.mConnection = some connection)
    (received : connection.received = text :: rest)
    (visited : visit platform text = .ok call)
    (handled : MainActivity.handle call { activity with
      mConnection := some { connection with received := rest } } = .ok after) :
    activity.read platform = after := by
  simp [read, present, received, visited, handled]

theorem sock_read {codecs : Codecs} (platform : Platform codecs)
    (activity : MainActivity) : (activity.read platform).sock = activity.sock := by
  unfold read
  split
  · rfl
  · rename_i connection found
    split
    · rfl
    · split
      · simp [sock, found]
      · dsimp only
        split
        · simp [sock, found]
        · rename_i handled
          rw [sock, mConnection_handle handled]
          simp [sock, found]

end MainActivity

end AndroidMessenger.Client
