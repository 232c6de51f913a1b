import AndroidMessenger.Client.Requests
import AndroidMessenger.Client.Sending

namespace AndroidMessenger.Client

open Library Msg

variable {codecs : Codecs} {platform : Platform codecs}

/-! One activity with the threads of its connection, from any order of calls and any
peer. -/

/-- What the constructor of `NetworkingConnection` takes from the system: whether
`InetAddress.getByName` finds an address, and `Character.digit` for the base 10. -/
structure Host where
  getByName : String → Bool
  digit : Char → Option Nat

def Host.ascii : Host where
  getByName _ := true
  digit char := if char.isDigit then some (char.toNat - 48) else none

/-- `Integer.parseInt`. -/
def parseInt (digit : Char → Option Nat) (text : String) : Option Int :=
  let (negative, digits) :=
    match text.toList with
    | '-' :: rest => (true, rest)
    | '+' :: rest => (false, rest)
    | rest => (false, rest)
  if digits = [] then none
  else
    match digits.foldlM (fun value char => (digit char).map (value * 10 + ·)) (0 : Nat) with
    | none => none
    | some value =>
        let signed : Int := if negative then -(value : Int) else value
        if -2147483648 ≤ signed ∧ signed ≤ 2147483647 then some signed else none

def NetworkingConnection.construct (host : Host) (address port : String) :
    MainActivity.Construction :=
  if host.getByName address then
    match parseInt host.digit port with
    | some _ => .started
    | none => .numberFormatException
  else .unknownHostException

/-- An activity, the port and the threads of its connection, and the requests whose tasks
were executed and have not run yet. -/
structure Session where
  activity : MainActivity
  port : Int
  threads : Option Sending.State
  tasks : List NetworkRequest

namespace Session

/-- A call from the user interface is split where other threads may run.  `read` is one
round of the reader's loop, and `doInBackground` is the next task. -/
inductive Event where
  | login (address port user : String)
  | markConnected
  | sendLogin (now : DateTime)
  | endLogin
  | onMsgSend (now : DateTime) (msg : String)
  | connect (attempt : Sending.Attempt)
  | read (text : String)
  | leaveLoop
  | doInBackground (output : Sending.Output)

/-- A request that is handed to `send`, or a response that reaches its visitor. -/
inductive Action where
  | handed (req : NetworkRequest)
  | received (call : ResponseCall)
  deriving DecidableEq

def start : Session where
  activity := MainActivity.onCreate
  port := 0
  threads := none
  tasks := []

def isReading (session : Session) : Bool :=
  match session.threads with
  | some { reader := .reading, .. } => true
  | _ => false

def requests (activity : MainActivity) : List NetworkRequest :=
  match activity.mConnection with
  | none => []
  | some connection => connection.sent

def handed (before after : MainActivity) : List NetworkRequest :=
  (requests after).drop (requests before).length

/-- A step of the UI thread, which executes a task for what it hands over. -/
def ui (change : MainActivity → MainActivity) (session : Session) : Session :=
  { session with
    activity := change session.activity
    tasks := session.tasks ++ handed session.activity (change session.activity) }

def login (host : Host) (address port user : String) (session : Session) : Session :=
  let construction := NetworkingConnection.construct host address port
  let activity := session.activity.beginLogin construction user
  if session.activity.login = .returned ∧ activity.login = .connecting user then
    { session with
      activity
      port := (parseInt host.digit port).getD 0
      threads := some Sending.start }
  else { session with activity }

/-- The reader thread connects.  `Socket` does not take every port that `parseInt` gives,
and what it throws then is no `IOException`. -/
def connect (attempt : Sending.Attempt) (session : Session) : Session :=
  match session.threads with
  | none => session
  | some state =>
      if state.reader = .started ∧ state.sockLock = none ∧
          ¬ (0 ≤ session.port ∧ session.port ≤ 65535) then
        { session with
          activity := session.activity.finish
          threads := some (Sending.connect .newSocket state) }
      else { session with threads := some (Sending.connect attempt state) }

def read (platform : Platform codecs) (text : String) (session : Session) : Session :=
  if session.isReading then
    match visit platform text with
    | .error _ => { session with activity := session.activity.finish }
    | .ok call =>
        match session.activity.handle call with
        | .error _ => { session with activity := session.activity.finish }
        | .ok activity => { session with activity }
  else session

def doInBackground (writer : GsonWriter platform) (output : Sending.Output)
    (session : Session) : Session :=
  match session.tasks, session.threads with
  | req :: rest, some state =>
      let text := platform.toString (req.toJson writer)
      match Sending.doInBackground { text, successHandler := false } output state with
      | none => session
      | some (report, state) =>
          { session with
            activity :=
              if report.thrown = none then session.activity else session.activity.finish
            threads := some state
            tasks := rest }
  | _, _ => session

def step (writer : GsonWriter platform) (host : Host) (session : Session) : Event → Session
  | .login address port user => session.login host address port user
  | .markConnected => session.ui MainActivity.markConnected
  | .sendLogin now => session.ui (MainActivity.sendLogin now)
  | .endLogin => session.ui MainActivity.endLogin
  | .onMsgSend now msg => session.ui (MainActivity.onMsgSend now msg)
  | .connect attempt => session.connect attempt
  | .read text => session.read platform text
  | .leaveLoop => { session with threads := session.threads.map Sending.leaveLoop }
  | .doInBackground output => session.doInBackground writer output

def receives (platform : Platform codecs) (session : Session) : Event → List ResponseCall
  | .read text => if session.isReading then (visit platform text).toOption.toList else []
  | _ => []

def machine (writer : GsonWriter platform) (host : Host) :
    Machine Session Event Action where
  initial := start
  step session event :=
    if session.activity.alive then session.step writer host event else session
  emits session event :=
    if session.activity.alive then
      (session.receives platform event).map .received ++
        (handed session.activity (session.step writer host event).activity).map .handed
    else []

/-! What one step can do. -/

/-- The steps of a running session.  A call that is ignored and a thread that waits do
nothing. -/
inductive Moves (platform : Platform codecs) (session : Session) :
    Event → Session → List Action → Prop where
  | rests (event : Event) : Moves platform session event session []
  | starts (address port user : String) (number : Int)
      (idle : session.activity.login = .returned)
      (fresh : session.activity.state = .noConnection) (long : ¬ javaLength user < 3) :
      Moves platform session (.login address port user)
        { session with
          activity := { session.activity with
            user := some user
            mConnection := some { sock := none, sent := [], received := [] }
            login := .connecting user }
          port := number
          threads := some Sending.start } []
  | misses (address port user : String) (idle : session.activity.login = .returned)
      (fresh : session.activity.state = .noConnection) (long : ¬ javaLength user < 3) :
      Moves platform session (.login address port user)
        { session with
          activity := { session.activity with
            user := some user
            state := .noConnection
            login := .sending user } } []
  | misreads (address port user : String) (idle : session.activity.login = .returned)
      (fresh : session.activity.state = .noConnection) (long : ¬ javaLength user < 3) :
      Moves platform session (.login address port user)
        { session with
          activity := { session.activity with user := some user, alive := false } } []
  | marks (user : String) (connecting : session.activity.login = .connecting user) :
      Moves platform session .markConnected
        { session with
          activity := { session.activity with
            state := .hasConnection, login := .sending user } } []
  | sends (now : DateTime) (user : String) (connection : NetworkingConnection)
      (sending : session.activity.login = .sending user)
      (present : session.activity.mConnection = some connection) :
      Moves platform session (.sendLogin now)
        { session with
          activity := { session.activity with
            mConnection := some { connection with
              sent := connection.sent ++ [.login { dateTime := now, sender := user }] }
            login := .marking }
          tasks := session.tasks ++ [.login { dateTime := now, sender := user }] }
        [.handed (.login { dateTime := now, sender := user })]
  | ends (marking : session.activity.login = .marking) :
      Moves platform session .endLogin
        { session with
          activity := { session.activity with
            state := .attemptedLogin, login := .returned } } []
  | speaks (now : DateTime) (msg : String) (connection : NetworkingConnection)
      (idle : session.activity.login = .returned)
      (loggedIn : session.activity.state = .isLoggedIn) (long : javaLength msg ≠ 0)
      (present : session.activity.mConnection = some connection) :
      Moves platform session (.onMsgSend now msg)
        { session with
          activity := { session.activity with
            mConnection := some { connection with
              sent := connection.sent ++ [.message {
                dateTime := now, sender := session.activity.user, content := msg }] } }
          tasks := session.tasks ++ [.message {
            dateTime := now, sender := session.activity.user, content := msg }] }
        [.handed (.message {
          dateTime := now, sender := session.activity.user, content := msg })]
  | dies (event : Event) (calls : List ResponseCall) (threads : Option Sending.State)
      (tasks : List NetworkRequest) :
      Moves platform session event
        { session with activity := session.activity.finish, threads, tasks }
        (calls.map .received)
  | connects (attempt : Sending.Attempt) (state : Sending.State)
      (present : session.threads = some state) :
      Moves platform session (.connect attempt)
        { session with threads := some (Sending.connect attempt state) } []
  | leaves (state : Sending.State) (present : session.threads = some state) :
      Moves platform session .leaveLoop
        { session with threads := some (Sending.leaveLoop state) } []
  | receives (text : String) (call : ResponseCall) (after : MainActivity)
      (reading : session.isReading = true) (visited : visit platform text = .ok call)
      (handled : session.activity.handle call = .ok after) :
      Moves platform session (.read text) { session with activity := after }
        [.received call]
  | runs (output : Sending.Output) (req : NetworkRequest) (rest : List NetworkRequest)
      (before after : Sending.State) (waiting : session.tasks = req :: rest)
      (present : session.threads = some before) (same : after.reader = before.reader) :
      Moves platform session (.doInBackground output)
        { session with threads := some after, tasks := rest } []

variable (writer : GsonWriter platform) (host : Host) {session : Session}

theorem handed_self (activity : MainActivity) : handed activity activity = [] :=
  List.drop_length

theorem handed_concat {before after : MainActivity} {connection : NetworkingConnection}
    {req : NetworkRequest} (present : before.mConnection = some connection)
    (appended : after.mConnection =
      some { connection with sent := connection.sent ++ [req] }) :
    handed before after = [req] := by
  simp [handed, requests, present, appended]

theorem handed_of_mConnection {before after : MainActivity}
    (same : after.mConnection = before.mConnection) : handed before after = [] := by
  have requests : requests after = requests before := by rw [Session.requests, same]; rfl
  rw [handed, requests]
  exact List.drop_length

/-! `login` and the other calls from the user interface. -/

theorem login_activity (address port user : String) :
    (session.login host address port user).activity =
      session.activity.beginLogin
        (NetworkingConnection.construct host address port) user := by
  simp only [login]
  split
  · rfl
  · rfl

theorem login_of_ignored {address port user : String}
    (ignored : session.activity.beginLogin
      (NetworkingConnection.construct host address port) user = session.activity) :
    session.login host address port user = session := by
  have same : ¬ (session.activity.login = .returned ∧
      session.activity.login = .connecting user) := by
    intro given
    rw [given.1] at given
    cases given.2
  simp only [login, ignored, if_neg same]

theorem moves_login (platform : Platform codecs) (session : Session)
    (address port user : String) :
    Moves platform session (.login address port user)
      (session.login host address port user) [] := by
  by_cases idle : session.activity.login = .returned
  · by_cases fresh : session.activity.state = .noConnection
    · by_cases long : javaLength user < 3
      · rw [login_of_ignored host (by simp [MainActivity.beginLogin, long])]
        exact .rests _
      · cases constructed : NetworkingConnection.construct host address port with
        | started =>
            have begun := MainActivity.beginLogin_started idle fresh long
            simp only [login, constructed, begun, idle, and_self, if_true]
            exact .starts address port user _ idle fresh long
        | unknownHostException =>
            have begun := MainActivity.beginLogin_unknownHost idle fresh long
            simp only [login, constructed, begun, reduceCtorEq, and_false, if_false]
            exact .misses address port user idle fresh long
        | numberFormatException =>
            have begun := MainActivity.beginLogin_numberFormat idle fresh long
            simp only [login, constructed, begun, idle, reduceCtorEq, and_false, if_false]
            rw [← idle]
            exact .misreads address port user idle fresh long
    · rw [login_of_ignored host (by simp [MainActivity.beginLogin, fresh])]
      exact .rests _
  · rw [login_of_ignored host (by simp [MainActivity.beginLogin, idle])]
    exact .rests _

theorem moves_ui_of_ignored {change : MainActivity → MainActivity}
    (ignored : change session.activity = session.activity) (event : Event) :
    Moves platform session event (session.ui change)
      ((handed session.activity (change session.activity)).map .handed) := by
  rw [ui, ignored, handed_self, List.append_nil]
  exact .rests event

theorem moves_ui_of_finish {change : MainActivity → MainActivity}
    (thrown : change session.activity = session.activity.finish) (event : Event) :
    Moves platform session event (session.ui change)
      ((handed session.activity (change session.activity)).map .handed) := by
  have none : handed session.activity (change session.activity) = [] :=
    handed_of_mConnection (by rw [thrown]; rfl)
  rw [ui, none, thrown, List.append_nil]
  exact .dies event [] session.threads session.tasks

theorem moves_markConnected :
    Moves platform session .markConnected (session.ui MainActivity.markConnected)
      ((handed session.activity session.activity.markConnected).map .handed) := by
  cases phase : session.activity.login with
  | connecting user =>
      have marked : session.activity.markConnected =
          { session.activity with state := .hasConnection, login := .sending user } := by
        simp [MainActivity.markConnected, phase]
      have none : handed session.activity session.activity.markConnected = [] :=
        handed_of_mConnection (by rw [marked])
      rw [ui, none, marked, List.append_nil]
      exact .marks user phase
  | returned =>
      exact moves_ui_of_ignored (by simp [MainActivity.markConnected, phase]) _
  | sending user =>
      exact moves_ui_of_ignored (by simp [MainActivity.markConnected, phase]) _
  | marking =>
      exact moves_ui_of_ignored (by simp [MainActivity.markConnected, phase]) _

theorem moves_sendLogin (now : DateTime) :
    Moves platform session (.sendLogin now) (session.ui (MainActivity.sendLogin now))
      ((handed session.activity (session.activity.sendLogin now)).map .handed) := by
  cases phase : session.activity.login with
  | sending user =>
      cases present : session.activity.mConnection with
      | none =>
          have thrown : session.activity.sendLogin now = session.activity.finish := by
            simp [MainActivity.sendLogin, MainActivity.finish, phase, present]
          exact moves_ui_of_finish thrown _
      | some connection =>
          have sent : session.activity.sendLogin now =
              { session.activity with
                mConnection := some { connection with
                  sent := connection.sent ++ [.login { dateTime := now, sender := user }] }
                login := .marking } := by
            simp [MainActivity.sendLogin, phase, present]
          have one : handed session.activity (session.activity.sendLogin now) =
              [.login { dateTime := now, sender := user }] :=
            handed_concat present (by rw [sent])
          rw [ui, one, sent]
          exact .sends now user connection phase present
  | returned =>
      exact moves_ui_of_ignored (by simp [MainActivity.sendLogin, phase]) _
  | connecting user =>
      exact moves_ui_of_ignored (by simp [MainActivity.sendLogin, phase]) _
  | marking =>
      exact moves_ui_of_ignored (by simp [MainActivity.sendLogin, phase]) _

theorem moves_endLogin :
    Moves platform session .endLogin (session.ui MainActivity.endLogin)
      ((handed session.activity session.activity.endLogin).map .handed) := by
  cases phase : session.activity.login with
  | marking =>
      have ended : session.activity.endLogin =
          { session.activity with state := .attemptedLogin, login := .returned } := by
        simp [MainActivity.endLogin, phase]
      have none : handed session.activity session.activity.endLogin = [] :=
        handed_of_mConnection (by rw [ended])
      rw [ui, none, ended, List.append_nil]
      exact .ends phase
  | returned => exact moves_ui_of_ignored (by simp [MainActivity.endLogin, phase]) _
  | connecting user => exact moves_ui_of_ignored (by simp [MainActivity.endLogin, phase]) _
  | sending user => exact moves_ui_of_ignored (by simp [MainActivity.endLogin, phase]) _

theorem moves_onMsgSend (now : DateTime) (msg : String) :
    Moves platform session (.onMsgSend now msg)
      (session.ui (MainActivity.onMsgSend now msg))
      ((handed session.activity (session.activity.onMsgSend now msg)).map .handed) := by
  by_cases idle : session.activity.login = .returned
  · by_cases loggedIn : session.activity.state = .isLoggedIn
    · by_cases blank : javaLength msg = 0
      · exact moves_ui_of_ignored (by simp [MainActivity.onMsgSend, blank]) _
      · cases present : session.activity.mConnection with
        | none =>
            have thrown : session.activity.onMsgSend now msg = session.activity.finish := by
              simp [MainActivity.onMsgSend, MainActivity.finish, idle, loggedIn, blank, present]
            exact moves_ui_of_finish thrown _
        | some connection =>
            have sent : session.activity.onMsgSend now msg =
                { session.activity with
                  mConnection := some { connection with
                    sent := connection.sent ++ [.message {
                      dateTime := now, sender := session.activity.user, content := msg }] } } := by
              simp [MainActivity.onMsgSend, idle, loggedIn, blank, present]
            have one : handed session.activity (session.activity.onMsgSend now msg) =
                [.message { dateTime := now, sender := session.activity.user, content := msg }] :=
              handed_concat present (by rw [sent])
            rw [ui, one, sent]
            exact .speaks now msg connection idle loggedIn blank present
    · exact moves_ui_of_ignored (by simp [MainActivity.onMsgSend, loggedIn]) _
  · exact moves_ui_of_ignored (by simp [MainActivity.onMsgSend, idle]) _

/-! The reader thread and the tasks. -/

theorem read_of_handled {text : String} {call : ResponseCall} {after : MainActivity}
    (reading : session.isReading = true) (visited : visit platform text = .ok call)
    (handled : session.activity.handle call = .ok after) :
    session.read platform text = { session with activity := after } := by
  simp [read, reading, visited, handled]

theorem read_of_rejected {text : String} {exn : JavaExn}
    (reading : session.isReading = true) (rejected : visit platform text = .error exn) :
    session.read platform text = { session with activity := session.activity.finish } := by
  simp [read, reading, rejected]

theorem moves_read (text : String) :
    Moves platform session (.read text) (session.read platform text)
      ((session.receives platform (.read text)).map .received) := by
  unfold read receives
  cases reading : session.isReading with
  | false => exact .rests _
  | true =>
      cases visited : visit platform text with
      | error exn =>
          simp only [if_true, visited]
          exact .dies _ [] session.threads session.tasks
      | ok call =>
          cases handled : session.activity.handle call with
          | error exn =>
              simp only [if_true, visited, handled]
              exact .dies _ [call] session.threads session.tasks
          | ok after =>
              simp only [if_true, visited, handled]
              exact .receives text call after reading visited handled

theorem moves_doInBackground (output : Sending.Output) :
    Moves platform session (.doInBackground output)
      (session.doInBackground writer output) [] := by
  unfold doInBackground
  cases waiting : session.tasks with
  | nil => exact .rests _
  | cons req rest =>
      cases present : session.threads with
      | none => exact .rests _
      | some before =>
          simp only
          split
          · exact .rests _
          · rename_i report after done
            have same := Sending.reader_doInBackground done
            by_cases quiet : report.thrown = none
            · rw [if_pos quiet]
              exact .runs output req rest before after waiting present same
            · rw [if_neg quiet]
              exact .dies _ [] (some after) rest

theorem handed_read (text : String) :
    handed session.activity (session.read platform text).activity = [] := by
  apply handed_of_mConnection
  unfold read
  split
  · split
    · rfl
    · split
      · rfl
      · rename_i handled
        exact MainActivity.mConnection_handle handled
  · rfl

theorem mConnection_doInBackground (output : Sending.Output) :
    (session.doInBackground writer output).activity.mConnection =
      session.activity.mConnection := by
  unfold doInBackground
  split
  · simp only
    split
    · rfl
    · simp only
      split
      · rfl
      · rfl
  · rfl

theorem handed_login (address port user : String) :
    handed session.activity (session.login host address port user).activity = [] := by
  rw [login_activity]
  unfold MainActivity.beginLogin
  split
  · exact handed_self _
  · split
    · exact handed_self _
    · split
      · exact handed_self _
      · split
        · exact List.drop_nil
        · exact handed_of_mConnection rfl
        · exact handed_of_mConnection rfl

theorem mConnection_connect (attempt : Sending.Attempt) :
    (session.connect attempt).activity.mConnection = session.activity.mConnection := by
  unfold connect
  split
  · rfl
  · split
    · rfl
    · rfl

theorem moves_connect (attempt : Sending.Attempt) :
    Moves platform session (.connect attempt) (session.connect attempt) [] := by
  unfold connect
  cases present : session.threads with
  | none => exact .rests _
  | some state =>
      dsimp only
      split
      · exact .dies _ [] (some (Sending.connect .newSocket state)) session.tasks
      · exact .connects attempt state present

theorem moves_step (alive : session.activity.alive = true) (event : Event) :
    Moves platform session event ((machine writer host).step session event)
      ((machine writer host).emits session event) := by
  simp only [machine, alive, if_true]
  cases event with
  | login address port user =>
      rw [step, handed_login]
      exact moves_login host platform session address port user
  | markConnected => exact moves_markConnected
  | sendLogin now => exact moves_sendLogin now
  | endLogin => exact moves_endLogin
  | onMsgSend now msg => exact moves_onMsgSend now msg
  | connect attempt =>
      rw [step, handed_of_mConnection (mConnection_connect attempt)]
      exact moves_connect attempt
  | read text =>
      rw [step, handed_read, List.map_nil, List.append_nil]
      exact moves_read text
  | leaveLoop =>
      rw [step, handed_self]
      cases present : session.threads with
      | none =>
          have same : { session with threads := none } = session := by rw [← present]
          rw [Option.map_none, same]
          exact .rests _
      | some state => exact .leaves state present
  | doInBackground output =>
      rw [step, handed_of_mConnection (mConnection_doInBackground writer output)]
      exact moves_doInBackground writer output

end Session

end AndroidMessenger.Client
