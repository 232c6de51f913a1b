import AndroidMessenger.Client.Coherence

namespace AndroidMessenger.Client.MainActivity

open Library Msg Networking

/-! What an activity has on its way to the server and back. -/

def outgoing (activity : MainActivity) : List NetworkRequest :=
  (activity.mConnection.map NetworkingConnection.sent).getD []

def incoming (activity : MainActivity) : List String :=
  (activity.mConnection.map NetworkingConnection.received).getD []

def loginAsked (now : DateTime) (activity : MainActivity) : List NetworkRequest :=
  match activity.login, activity.mConnection with
  | .sending user, some _ => [.login { dateTime := now, sender := user }]
  | _, _ => []

def messageAsked (now : DateTime) (msg : String) (activity : MainActivity) :
    List NetworkRequest :=
  if activity.login = .returned ∧ activity.state = .isLoggedIn ∧ javaLength msg ≠ 0 ∧
      activity.mConnection.isSome then
    [.message { dateTime := now, sender := activity.user, content := msg }]
  else []

/-- The constructor only runs while there is no connection. -/
def Unopened (activity : MainActivity) : Prop :=
  activity.state = .noConnection → activity.login = .returned → activity.mConnection = none

section Requests

variable (activity : MainActivity)

theorem outgoing_sendLogin (now : DateTime) :
    (activity.sendLogin now).outgoing = activity.outgoing ++ activity.loginAsked now := by
  unfold sendLogin loginAsked
  split
  · rename_i user sending
    cases found : activity.mConnection with
    | none => simp [outgoing, found, sending]
    | some connection => simp [outgoing, found, sending]
  · rename_i other
    cases idle : activity.login with
    | sending user => exact absurd idle (other user)
    | returned => simp
    | connecting user => simp
    | marking => simp

theorem outgoing_onMsgSend (now : DateTime) (msg : String) :
    (activity.onMsgSend now msg).outgoing =
      activity.outgoing ++ activity.messageAsked now msg := by
  unfold onMsgSend messageAsked
  split
  · rename_i busy
    simp [busy]
  · rename_i idle
    split
    · rename_i out
      simp [out]
    · rename_i loggedIn
      split
      · rename_i blank
        simp [blank]
      · rename_i text
        cases found : activity.mConnection with
        | none => simp [outgoing, found]
        | some connection => simp_all [outgoing]

theorem outgoing_markConnected : activity.markConnected.outgoing = activity.outgoing := by
  unfold markConnected
  split
  · rfl
  · rfl

theorem outgoing_endLogin : activity.endLogin.outgoing = activity.outgoing := by
  unfold endLogin
  split
  · rfl
  · rfl

theorem outgoing_onConnection {change : NetworkingConnection → NetworkingConnection}
    (keeps : ∀ connection, (change connection).sent = connection.sent) :
    (activity.onConnection change).outgoing = activity.outgoing := by
  cases found : activity.mConnection with
  | none => simp [outgoing, onConnection, found]
  | some connection => simp [outgoing, onConnection, found, keeps]

theorem outgoing_takeRequest :
    activity.takeRequest.outgoing = activity.outgoing.drop 1 := by
  cases found : activity.mConnection with
  | none => simp [outgoing, takeRequest, onConnection, found]
  | some connection => simp [outgoing, takeRequest, onConnection, found]

end Requests

section Texts

variable (activity : MainActivity)

theorem incoming_onConnection {change : NetworkingConnection → NetworkingConnection}
    (keeps : ∀ connection, (change connection).received = connection.received) :
    (activity.onConnection change).incoming = activity.incoming := by
  cases found : activity.mConnection with
  | none => simp [incoming, onConnection, found]
  | some connection => simp [incoming, onConnection, found, keeps]

theorem incoming_accept (ptr : SocketPtr) :
    (activity.accept ptr).incoming = activity.incoming :=
  activity.incoming_onConnection fun _ => rfl

theorem incoming_takeRequest : activity.takeRequest.incoming = activity.incoming :=
  activity.incoming_onConnection fun _ => rfl

theorem incoming_markConnected : activity.markConnected.incoming = activity.incoming := by
  unfold markConnected
  split
  · rfl
  · rfl

theorem incoming_endLogin : activity.endLogin.incoming = activity.incoming := by
  unfold endLogin
  split
  · rfl
  · rfl

theorem incoming_sendLogin (now : DateTime) :
    (activity.sendLogin now).incoming = activity.incoming := by
  unfold sendLogin
  split
  · split
    · rfl
    · rename_i connection found
      simp [incoming, found]
  · rfl

theorem incoming_onMsgSend (now : DateTime) (msg : String) :
    (activity.onMsgSend now msg).incoming = activity.incoming := by
  unfold onMsgSend
  split
  · rfl
  · split
    · rfl
    · split
      · rfl
      · split
        · rfl
        · rename_i connection found
          simp [incoming, found]

theorem incoming_receive (texts : SocketPtr → List String) :
    (activity.receive texts).incoming =
      activity.incoming ++ (activity.sock.map texts).getD [] := by
  cases found : activity.mConnection with
  | none => simp [incoming, receive, onConnection, sock, found]
  | some connection => simp [incoming, receive, onConnection, sock, found]

end Texts

theorem queues_beginLogin {activity : MainActivity} (unopened : activity.Unopened)
    (construction : Construction) (user : String) :
    (activity.beginLogin construction user).outgoing = activity.outgoing ∧
      (activity.beginLogin construction user).incoming = activity.incoming ∧
        (activity.beginLogin construction user).sock = activity.sock := by
  unfold beginLogin
  split
  · exact ⟨rfl, rfl, rfl⟩
  · rename_i idle
    split
    · exact ⟨rfl, rfl, rfl⟩
    · rename_i fresh
      split
      · exact ⟨rfl, rfl, rfl⟩
      · cases construction with
        | started =>
            have absent := unopened (not_not.mp fresh) (not_not.mp idle)
            simp [outgoing, incoming, sock, absent]
        | unknownHostException => exact ⟨rfl, rfl, rfl⟩
        | numberFormatException => exact ⟨rfl, rfl, rfl⟩

theorem queues_read {codecs : Codecs} (platform : Platform codecs)
    (activity : MainActivity) :
    (activity.read platform).incoming = activity.incoming.drop 1 ∧
      (activity.read platform).outgoing = activity.outgoing := by
  unfold read
  split
  · rename_i absent
    simp [incoming, absent]
  · rename_i connection found
    split
    · rename_i empty
      simp [incoming, found, empty]
    · rename_i text rest waiting
      have popped : ∀ after : MainActivity,
          after.mConnection = some { connection with received := rest } →
          after.incoming = activity.incoming.drop 1 ∧ after.outgoing = activity.outgoing := by
        intro after same
        simp [incoming, outgoing, found, same, waiting]
      split
      · exact popped _ rfl
      · dsimp only
        split
        · exact popped _ rfl
        · rename_i handled
          exact popped _ (mConnection_handle handled)

/-- A property of an activity that no step of a thread or of its connection takes away. -/
structure Kept {codecs : Codecs} (platform : Platform codecs)
    (property : MainActivity → Prop) : Prop where
  onCreate : property MainActivity.onCreate
  beginLogin : ∀ {activity} construction user, property activity →
    property (activity.beginLogin construction user)
  markConnected : ∀ {activity}, property activity → property activity.markConnected
  sendLogin : ∀ {activity} now, property activity → property (activity.sendLogin now)
  endLogin : ∀ {activity}, property activity → property activity.endLogin
  onMsgSend : ∀ {activity} now msg, property activity →
    property (activity.onMsgSend now msg)
  read : ∀ {activity}, property activity → property (activity.read platform)
  finish : ∀ {activity}, property activity → property activity.finish
  onConnection : ∀ {activity} change, property activity →
    property (activity.onConnection change)

/-! That the constructor runs once is kept by everything. -/

namespace Unopened

variable {activity : MainActivity}

theorem onConnection (unopened : activity.Unopened)
    (change : NetworkingConnection → NetworkingConnection) :
    (activity.onConnection change).Unopened := by
  intro fresh idle
  rw [MainActivity.onConnection, unopened fresh idle]
  rfl

theorem beginLogin (unopened : activity.Unopened) (construction : Construction)
    (user : String) : (activity.beginLogin construction user).Unopened := by
  unfold MainActivity.beginLogin
  split
  · exact unopened
  · rename_i idle
    split
    · exact unopened
    · rename_i fresh
      split
      · exact unopened
      · cases construction with
        | started =>
            intro _ returned
            cases returned
        | unknownHostException =>
            intro _ returned
            cases returned
        | numberFormatException => exact unopened

theorem markConnected (unopened : activity.Unopened) : activity.markConnected.Unopened := by
  unfold MainActivity.markConnected
  split
  · intro fresh
    cases fresh
  · exact unopened

theorem sendLogin (unopened : activity.Unopened) (now : DateTime) :
    (activity.sendLogin now).Unopened := by
  unfold MainActivity.sendLogin
  split
  · split
    · exact unopened
    · intro _ returned
      cases returned
  · exact unopened

theorem endLogin (unopened : activity.Unopened) : activity.endLogin.Unopened := by
  unfold MainActivity.endLogin
  split
  · intro fresh
    cases fresh
  · exact unopened

theorem onMsgSend (unopened : activity.Unopened) (now : DateTime) (msg : String) :
    (activity.onMsgSend now msg).Unopened := by
  unfold MainActivity.onMsgSend
  split
  · exact unopened
  · split
    · exact unopened
    · rename_i loggedIn
      split
      · exact unopened
      · split
        · exact unopened
        · intro fresh
          exact absurd (fresh.symm.trans (not_not.mp loggedIn)) (by simp)

theorem read {codecs : Codecs} (unopened : activity.Unopened)
    (platform : Platform codecs) : (activity.read platform).Unopened := by
  unfold MainActivity.read
  split
  · exact unopened
  · rename_i connection found
    have opened : activity.state = .noConnection → activity.login ≠ .returned := by
      intro fresh idle
      rw [unopened fresh idle] at found
      cases found
    split
    · exact unopened
    · split
      · exact fun fresh idle => absurd idle (opened fresh)
      · dsimp only
        split
        · exact fun fresh idle => absurd idle (opened fresh)
        · rename_i handled
          rcases handle_cases handled with ⟨_, rfl⟩ | ⟨_, rfl⟩
          · intro fresh
            cases fresh
          · exact fun fresh idle => absurd idle (opened fresh)

theorem kept {codecs : Codecs} (platform : Platform codecs) : Kept platform Unopened where
  onCreate _ _ := rfl
  beginLogin construction user held := held.beginLogin construction user
  markConnected held := held.markConnected
  sendLogin now held := held.sendLogin now
  endLogin held := held.endLogin
  onMsgSend now msg held := held.onMsgSend now msg
  read held := held.read platform
  finish held := held
  onConnection change held := held.onConnection change

end Unopened

/-! A user that is logged in has a name. -/

def Known (activity : MainActivity) : Prop :=
  activity.state = .isLoggedIn → activity.user.isSome = true

namespace Known

variable {activity : MainActivity}

theorem beginLogin (known : activity.Known) (construction : Construction) (user : String) :
    (activity.beginLogin construction user).Known := by
  unfold MainActivity.beginLogin
  split
  · exact known
  · split
    · exact known
    · split
      · exact known
      · cases construction with
        | started => exact fun _ => rfl
        | unknownHostException => exact fun _ => rfl
        | numberFormatException => exact fun _ => rfl

theorem markConnected (known : activity.Known) : activity.markConnected.Known := by
  unfold MainActivity.markConnected
  split
  · intro loggedIn
    cases loggedIn
  · exact known

theorem sendLogin (known : activity.Known) (now : DateTime) :
    (activity.sendLogin now).Known := by
  unfold MainActivity.sendLogin
  split
  · split
    · exact known
    · exact known
  · exact known

theorem endLogin (known : activity.Known) : activity.endLogin.Known := by
  unfold MainActivity.endLogin
  split
  · intro loggedIn
    cases loggedIn
  · exact known

theorem onMsgSend (known : activity.Known) (now : DateTime) (msg : String) :
    (activity.onMsgSend now msg).Known := by
  unfold MainActivity.onMsgSend
  split
  · exact known
  · split
    · exact known
    · split
      · exact known
      · split
        · exact known
        · exact known

theorem read {codecs : Codecs} (known : activity.Known) (platform : Platform codecs) :
    (activity.read platform).Known := by
  unfold MainActivity.read
  split
  · exact known
  · split
    · exact known
    · split
      · exact known
      · dsimp only
        split
        · exact known
        · rename_i handled
          rcases handle_cases handled with ⟨own, rfl⟩ | ⟨_, rfl⟩
          · obtain ⟨_, user, _, _, named⟩ := own
            exact fun _ => Option.isSome_iff_exists.mpr ⟨user, named⟩
          · exact known

theorem kept {codecs : Codecs} (platform : Platform codecs) : Kept platform Known where
  onCreate loggedIn := by cases loggedIn
  beginLogin construction user held := held.beginLogin construction user
  markConnected held := held.markConnected
  sendLogin now held := held.sendLogin now
  endLogin held := held.endLogin
  onMsgSend now msg held := held.onMsgSend now msg
  read held := held.read platform
  finish held := held
  onConnection _ held := held

end Known

end AndroidMessenger.Client.MainActivity
