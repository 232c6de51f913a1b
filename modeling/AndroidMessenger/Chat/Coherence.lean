import AndroidMessenger.Chat.Responses
import AndroidMessenger.Chat.System

namespace AndroidMessenger.Chat

open Library Msg Networking Client

variable {codecs : Codecs}

/-! What one reaction of the server writes. -/

theorem mem_textsTo_iff {actions : List Action} {ptr : SocketPtr} {text : String} :
    text ∈ textsTo actions ptr ↔ .wrote ptr text .whole ∈ actions := by
  rw [textsTo, List.mem_filterMap]
  constructor
  · intro given
    rcases given with ⟨action, inside, equality⟩
    split at equality
    · split at equality
      · rename_i same
        cases equality
        exact same ▸ inside
      · contradiction
    · contradiction
  · intro inside
    exact ⟨_, inside, by simp⟩

theorem granted_of_answered {server : Server} {event : Event} {ptr : SocketPtr}
    {json : Ptree} {login : Response.Login}
    (answered : .answered ptr json (.login login) ∈ (server.react codecs event).actions) :
    Server.Granted codecs (server.react codecs event).actions ptr login.username ∧
      ∃ req, Server.visits codecs event server = some (ptr, json, .visitLogin req) ∧
        req.sender ∉ server.clientNames ∧ login.username = req.sender := by
  obtain ⟨chunk, now, writes, call, granted, equality, visit, dispatched⟩ :=
    Server.visit_of_answered answered
  have visited := Server.visits_eq_some_iff.mpr ⟨chunk, now, writes, equality, visit⟩
  rcases Server.dispatch_cases now call server with
    ⟨req, rfl, free, response⟩ | ⟨answer, response, refused⟩
  · rw [response] at dispatched
    obtain ⟨same, _⟩ := Prod.mk.inj dispatched
    cases same
    refine ⟨List.mem_filterMap.mpr ⟨_, answered, ?_⟩, req, visited, free, rfl⟩
    simp [Server.grantOf, visit.decoded, Response.Login.ofUsername]
  · rw [response] at dispatched
    obtain ⟨rfl, _⟩ := Prod.mk.inj dispatched
    exact absurd rfl (refused login)

/-! What holds of a running activity whatever the others do. -/

/-- A login response on its way to the socket, if it carries the activity's own name,
answers the activity's own request. -/
def Harmless (codecs : Codecs) (trace : List Action) (activity : MainActivity)
    (ptr : SocketPtr) (text : String) : Prop :=
  ∃ res : Response, text = res.text codecs ∧
    ∀ login, res = .login login → activity.user = some login.username →
      Server.Granted codecs trace ptr login.username

structure Coherent (codecs : Codecs) (trace : List Action) (activity : MainActivity) :
    Prop where
  connected : activity.state = .noConnection → activity.login = .returned →
    activity.mConnection = none
  received : ∀ connection, activity.mConnection = some connection →
    ∀ text ∈ connection.received, ∃ ptr, connection.sock = some ptr ∧
      Harmless codecs trace activity ptr text
  owner : activity.state = .isLoggedIn → ∃ ptr user, activity.sock = some ptr ∧
    activity.user = some user ∧ Server.Granted codecs trace ptr user

namespace Coherent

variable {trace : List Action} {activity : MainActivity}

theorem onCreate : Coherent codecs trace MainActivity.onCreate where
  connected _ _ := rfl
  received _ same := by cases same
  owner same := by cases same

theorem append (held : Coherent codecs trace activity) (actions : List Action) :
    Coherent codecs (trace ++ actions) activity where
  connected := held.connected
  received connection same text inside := by
    obtain ⟨ptr, listens, res, equality, own⟩ := held.received connection same text inside
    refine ⟨ptr, listens, res, equality, ?_⟩
    intro login answer name
    rw [Server.Granted, Server.grants_append]
    exact List.mem_append_left _ (own login answer name)
  owner loggedIn := by
    obtain ⟨ptr, user, listens, name, granted⟩ := held.owner loggedIn
    refine ⟨ptr, user, listens, name, ?_⟩
    rw [Server.Granted, Server.grants_append]
    exact List.mem_append_left _ granted

theorem beginLogin (held : Coherent codecs trace activity)
    (construction : MainActivity.Construction) (user : String) :
    Coherent codecs trace (activity.beginLogin construction user) := by
  unfold MainActivity.beginLogin
  split
  · exact held
  · rename_i returned
    split
    · exact held
    · rename_i free
      have free := not_not.mp free
      split
      · exact held
      · have absent := held.connected free (not_not.mp returned)
        cases construction with
        | started => exact ⟨by simp, by simp, by simp [free]⟩
        | unknownHostException => exact ⟨fun _ _ => absent, by simp [absent], by simp⟩
        | numberFormatException =>
            exact ⟨fun _ _ => absent, by simp [absent], by simp [free]⟩

theorem markConnected (held : Coherent codecs trace activity) :
    Coherent codecs trace activity.markConnected := by
  unfold MainActivity.markConnected
  split
  · exact ⟨by simp, held.received, by simp⟩
  · exact held

theorem frame (held : Coherent codecs trace activity) {after : MainActivity}
    (state : after.state = activity.state) (user : after.user = activity.user)
    (login : after.login = .returned → activity.login = .returned)
    (absent : activity.mConnection = none → after.mConnection = none)
    (present : ∀ connection, after.mConnection = some connection →
      ∃ before, activity.mConnection = some before ∧ connection.sock = before.sock ∧
        ∀ text ∈ connection.received, text ∈ before.received)
    (sock : after.sock = activity.sock) : Coherent codecs trace after where
  connected same returned := absent (held.connected (state ▸ same) (login returned))
  received connection same text inside := by
    obtain ⟨before, equality, listens, kept⟩ := present connection same
    obtain ⟨ptr, opened, res, content, own⟩ :=
      held.received before equality text (kept text inside)
    exact ⟨ptr, listens.trans opened, res, content, fun login answer name =>
      own login answer (user ▸ name)⟩
  owner same := by
    rw [sock, user]
    exact held.owner (state ▸ same)

theorem finish (held : Coherent codecs trace activity) :
    Coherent codecs trace activity.finish :=
  ⟨held.connected, held.received, held.owner⟩

theorem resent (held : Coherent codecs trace activity) {connection : NetworkingConnection}
    (found : activity.mConnection = some connection) (sent : List NetworkRequest)
    {login : MainActivity.Login} (returned : login = .returned → activity.login = .returned) :
    Coherent codecs trace { activity with
      mConnection := some { connection with sent }, login } := by
  refine held.frame rfl rfl returned (by simp [found]) ?_ (by simp [MainActivity.sock, found])
  intro other same
  cases same
  exact ⟨connection, found, rfl, fun _ => id⟩

theorem sendLogin (held : Coherent codecs trace activity) (now : DateTime) :
    Coherent codecs trace (activity.sendLogin now) := by
  unfold MainActivity.sendLogin
  split
  · split
    · exact held.finish
    · rename_i found
      exact held.resent found _ (by simp)
  · exact held

theorem onMsgSend (held : Coherent codecs trace activity) (now : DateTime)
    (msg : String) : Coherent codecs trace (activity.onMsgSend now msg) := by
  unfold MainActivity.onMsgSend
  split
  · exact held
  · split
    · exact held
    · split
      · exact held
      · split
        · exact held.finish
        · rename_i found
          exact held.resent found _ id

theorem endLogin (held : Coherent codecs trace activity) :
    Coherent codecs trace activity.endLogin := by
  unfold MainActivity.endLogin
  split
  · exact ⟨by simp, held.received, by simp⟩
  · exact held

theorem handle (held : Coherent codecs trace activity) {ptr : SocketPtr}
    (listens : activity.sock = some ptr) {platform : Platform codecs} {text : String}
    (harmless : Harmless codecs trace activity ptr text) {call : ResponseCall}
    (visited : visit platform text = .ok call) {after : MainActivity}
    (handled : activity.handle call = .ok after) : Coherent codecs trace after := by
  obtain ⟨res, rfl, own⟩ := harmless
  obtain ⟨time, _, called⟩ := (visit_text_eq_ok_iff platform res call).mp visited
  cases res with
  | error res => cases called
  | message res =>
      cases called
      simp only [MainActivity.handle, MainActivity.visitMessage, Option.bind_some] at handled
      split at handled
      · cases handled
        exact held
      · cases handled
        exact held
  | login res =>
      cases called
      simp only [MainActivity.handle, MainActivity.visitLogin, Option.bind_some] at handled
      split at handled
      · rename_i same
        cases handled
        have name : activity.user = some res.username := same.symm
        refine ⟨by simp, held.received, fun _ => ⟨ptr, res.username, listens, name, ?_⟩⟩
        exact own res rfl name
      · cases handled
        exact held

theorem read (held : Coherent codecs trace activity) (platform : Platform codecs) :
    Coherent codecs trace (activity.read platform) := by
  unfold MainActivity.read
  split
  · exact held
  · rename_i connection found
    split
    · exact held
    · rename_i text rest waiting
      have popped : Coherent codecs trace { activity with
          mConnection := some { connection with received := rest } } := by
        refine held.frame rfl rfl id (by simp [found]) ?_
          (by simp [MainActivity.sock, found])
        intro other same
        cases same
        refine ⟨connection, found, rfl, fun text inside => ?_⟩
        rw [waiting]
        exact List.mem_cons_of_mem _ inside
      split
      · exact popped.finish
      · rename_i call visited
        dsimp only
        split
        · exact popped.finish
        · rename_i after handled
          obtain ⟨ptr, listens, harmless⟩ :=
            held.received connection found text (by rw [waiting]; exact List.mem_cons_self)
          exact popped.handle (by simpa [MainActivity.sock] using listens) harmless visited
            handled

theorem accept (held : Coherent codecs trace activity) (closed : activity.sock = none)
    (ptr : SocketPtr) : Coherent codecs trace (activity.accept ptr) where
  connected same returned := by
    simp [MainActivity.accept, MainActivity.onConnection, held.connected same returned]
  received connection same text inside := by
    obtain ⟨before, found, rfl⟩ := Option.map_eq_some_iff.mp same
    obtain ⟨other, listens, _⟩ := held.received before found text inside
    simp [MainActivity.sock, found, listens] at closed
  owner same := by
    obtain ⟨other, user, listens, _⟩ := held.owner same
    rw [closed] at listens
    contradiction

theorem takeRequest (held : Coherent codecs trace activity) :
    Coherent codecs trace activity.takeRequest := by
  cases found : activity.mConnection with
  | none =>
      rw [MainActivity.takeRequest, MainActivity.onConnection_of_absent found]
      exact held
  | some connection =>
      rw [MainActivity.takeRequest, MainActivity.onConnection, found]
      exact held.resent found _ id

theorem receive (held : Coherent codecs trace activity)
    {texts : SocketPtr → List String}
    (harmless : ∀ ptr, activity.sock = some ptr → ∀ text ∈ texts ptr,
      Harmless codecs trace activity ptr text) :
    Coherent codecs trace (activity.receive texts) where
  connected same returned := by
    simp [MainActivity.receive, MainActivity.onConnection, held.connected same returned]
  received connection same text inside := by
    obtain ⟨before, found, rfl⟩ := Option.map_eq_some_iff.mp same
    rcases List.mem_append.mp inside with inside | inside
    · exact held.received before found text inside
    · cases listens : before.sock with
      | none => simp [listens] at inside
      | some ptr =>
          simp only [listens, Option.map_some, Option.getD_some] at inside
          exact ⟨ptr, rfl,
            harmless ptr (by simp [MainActivity.sock, found, listens]) text inside⟩
  owner same := by
    obtain ⟨ptr, user, listens, name, granted⟩ := held.owner same
    exact ⟨ptr, user, (activity.sock_receive texts).trans listens, name, granted⟩

end Coherent

end AndroidMessenger.Chat
