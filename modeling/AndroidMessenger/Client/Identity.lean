import AndroidMessenger.Client.Coherence

namespace AndroidMessenger.Client

open Library Msg

variable {codecs : Codecs} {platform : Platform codecs}

/-! One activity logs in once, and speaks under the name of that login. -/

namespace Session

def loginOf : Action → Option LoginRequest
  | .handed (.login req) => some req
  | _ => none

theorem eq_of_loginOf {action : Action} {login : LoginRequest}
    (found : loginOf action = some login) : action = .handed (.login login) := by
  unfold loginOf at found
  split at found
  · cases found
    rfl
  · cases found

def logins (trace : List Action) : List LoginRequest := trace.filterMap loginOf

def Joined (trace : List Action) (user : String) : Prop :=
  ∃ response : LoginResponse,
    Action.received (.visitLogin (some response)) ∈ trace ∧
      response.joiningUsername = some user

def Spoken (before : List Action) (req : MessageRequest) : Prop :=
  req.content ≠ "" ∧
    ∃ login ∈ logins before, req.sender = some login.sender ∧ Joined before login.sender

structure Orderly (trace : List Action) : Prop where
  once : (logins trace).length ≤ 1
  long : ∀ login ∈ logins trace, 3 ≤ javaLength login.sender
  spoken : ∀ before req after,
    trace = before ++ .handed (.message req) :: after → Spoken before req

theorem logins_append (trace emitted : List Action) :
    logins (trace ++ emitted) = logins trace ++ logins emitted :=
  List.filterMap_append

theorem logins_received (calls : List ResponseCall) :
    logins (calls.map .received) = [] := by
  induction calls with
  | nil => rfl
  | cons call rest ih => exact ih

theorem Joined.append {trace : List Action} {user : String} (joined : Joined trace user)
    (emitted : List Action) : Joined (trace ++ emitted) user := by
  obtain ⟨response, received, joining⟩ := joined
  exact ⟨response, List.mem_append_left emitted received, joining⟩

/-! A trace stays orderly when nothing but a response is added, or a request that may be
sent. -/

namespace Orderly

variable {trace : List Action}

theorem start : Orderly [] where
  once := Nat.zero_le 1
  long := nofun
  spoken := by
    intro before req after equality
    cases before with
    | nil => cases equality
    | cons action rest => cases equality

theorem concat (held : Orderly trace) {action : Action}
    (once : ∀ login, action = .handed (.login login) →
      logins trace = [] ∧ 3 ≤ javaLength login.sender)
    (spoken : ∀ req, action = .handed (.message req) → Spoken trace req) :
    Orderly (trace ++ [action]) where
  once := by
    rw [logins_append, List.length_append]
    cases found : loginOf action with
    | none =>
        have none : logins [action] = [] := by simp [logins, found]
        rw [none]
        exact held.once
    | some login =>
        rw [(once login (eq_of_loginOf found)).1]
        exact Nat.le_of_eq (by simp [logins, found])
  long := by
    intro login inside
    rw [logins_append, List.mem_append] at inside
    rcases inside with old | new
    · exact held.long login old
    · obtain ⟨other, single, found⟩ := List.mem_filterMap.mp new
      obtain rfl := List.mem_singleton.mp single
      exact (once login (eq_of_loginOf found)).2
  spoken := by
    intro before req after equality
    rcases List.eq_nil_or_concat after with rfl | ⟨rest, last, rfl⟩
    · obtain ⟨rfl, same⟩ := List.append_inj' equality rfl
      exact spoken req (List.singleton_inj.mp same)
    · rw [List.concat_eq_append, ← List.cons_append, ← List.append_assoc] at equality
      exact held.spoken before req rest (List.append_inj' equality rfl).1

theorem received (held : Orderly trace) (calls : List ResponseCall) :
    Orderly (trace ++ calls.map .received) := by
  induction calls using List.reverseRecOn with
  | nil => simpa using held
  | append_singleton calls call ih =>
      rw [List.map_append, ← List.append_assoc]
      exact ih.concat nofun nofun

end Orderly

/-- What the requests so far have to do with the state of the activity. -/
structure Identified (trace : List Action) (session : Session) : Prop where
  coherent : Coherent session
  orderly : Orderly trace
  unsent : (session.activity.mConnection = none ∨
    ∃ user, session.activity.login = .connecting user ∨
      session.activity.login = .sending user) → logins trace = []
  sent : session.activity.mConnection ≠ none →
    (session.activity.login = .marking ∨ session.activity.login = .returned) →
    ∃ login ∈ logins trace, session.activity.user = some login.sender
  joined : session.activity.state = .isLoggedIn →
    ∃ user, session.activity.user = some user ∧ Joined trace user

namespace Identified

variable {trace : List Action} {session : Session}

theorem received (held : Identified trace session) (calls : List ResponseCall)
    {after : Session} (coherent : Coherent after)
    (connection : after.activity.mConnection = session.activity.mConnection)
    (login : after.activity.login = session.activity.login)
    (user : after.activity.user = session.activity.user)
    (joined : after.activity.state = .isLoggedIn →
      session.activity.state = .isLoggedIn ∨
        ∃ name, session.activity.user = some name ∧
          Joined (trace ++ calls.map .received) name) :
    Identified (trace ++ calls.map .received) after := by
  have unchanged : logins (trace ++ calls.map .received) = logins trace := by
    rw [logins_append, logins_received, List.append_nil]
  refine ⟨coherent, held.orderly.received calls, ?_, ?_, ?_⟩
  · rw [unchanged, connection, login]
    exact held.unsent
  · rw [unchanged, connection, login, user]
    exact held.sent
  · intro loggedIn
    rw [user]
    rcases joined loggedIn with before | now
    · obtain ⟨name, named, already⟩ := held.joined before
      exact ⟨name, named, already.append _⟩
    · exact now

theorem frame (held : Identified trace session) {after : Session}
    (coherent : Coherent after) (same : after.activity = session.activity) :
    Identified (trace ++ []) after := by
  apply held.received [] coherent
  · rw [same]
  · rw [same]
  · rw [same]
  · rw [same]
    exact .inl

theorem moves {event : Event} {after : Session} {emitted : List Action}
    (held : Identified trace session) (alive : session.activity.alive = true)
    (moved : Moves platform session event after emitted) :
    Identified (trace ++ emitted) after := by
  have coherent := held.coherent.moves alive moved
  cases moved with
  | rests => exact held.frame coherent rfl
  | starts address port user number idle fresh long =>
      -- A call that is taken finds no connection, so no login was sent before it.
      have absent := held.coherent.mConnection_eq_none idle fresh
      rw [List.append_nil]
      refine ⟨coherent, held.orderly, fun _ => held.unsent (.inl absent), ?_, ?_⟩
      · intro _ given
        rcases given with marking | returned
        · cases marking
        · cases returned
      · intro loggedIn
        exact absurd (fresh.symm.trans loggedIn) nofun
  | misses address port user idle fresh long =>
      have absent := held.coherent.mConnection_eq_none idle fresh
      rw [List.append_nil]
      exact ⟨coherent, held.orderly, fun _ => held.unsent (.inl absent),
        fun present => absurd absent present, nofun⟩
  | misreads address port user idle fresh long =>
      have absent := held.coherent.mConnection_eq_none idle fresh
      rw [List.append_nil]
      refine ⟨coherent, held.orderly, fun _ => held.unsent (.inl absent),
        fun present => absurd absent present, ?_⟩
      intro loggedIn
      exact absurd (fresh.symm.trans loggedIn) nofun
  | marks user connecting =>
      rw [List.append_nil]
      refine ⟨coherent, held.orderly,
        fun _ => held.unsent (.inr ⟨user, .inl connecting⟩), ?_, nofun⟩
      intro _ given
      rcases given with marking | returned
      · cases marking
      · cases returned
  | sends now user connection sending present =>
      obtain ⟨named, long⟩ := held.coherent.named user (.inr sending)
      have unsent := held.unsent (.inr ⟨user, .inr sending⟩)
      refine ⟨coherent, held.orderly.concat ?_ nofun, ?_, ?_, ?_⟩
      · intro login same
        cases same
        exact ⟨unsent, Nat.le_of_not_lt long⟩
      · intro given
        rcases given with absent | ⟨other, connecting | sending⟩
        · cases absent
        · cases connecting
        · cases sending
      · intro _ _
        refine ⟨{ dateTime := now, sender := user }, ?_, named⟩
        rw [logins_append]
        exact List.mem_append_right _ List.mem_cons_self
      · intro loggedIn
        obtain ⟨joiner, same, joined⟩ := held.joined loggedIn
        exact ⟨joiner, same, joined.append _⟩
  | ends marking =>
      rw [List.append_nil]
      have present := held.coherent.connected (.inl marking)
      refine ⟨coherent, held.orderly, ?_, fun _ _ => held.sent present (.inl marking), nofun⟩
      intro given
      rcases given with absent | ⟨other, connecting | sending⟩
      · exact absurd absent present
      · cases connecting
      · cases sending
  | speaks now msg connection idle loggedIn long present =>
      have connected : session.activity.mConnection ≠ none := by simp [present]
      obtain ⟨user, named, joined⟩ := held.joined loggedIn
      obtain ⟨login, inside, sender⟩ := held.sent connected (.inr idle)
      -- `_user` cannot have changed since the login was sent.
      have same : user = login.sender := Option.some.inj (named.symm.trans sender)
      have unchanged : ∀ req : MessageRequest,
          logins (trace ++ [.handed (.message req)]) = logins trace := by
        intro req
        rw [logins_append]
        exact List.append_nil _
      refine ⟨coherent, held.orderly.concat nofun ?_, ?_, ?_, ?_⟩
      · intro req handed
        cases handed
        refine ⟨?_, login, inside, sender, same ▸ joined⟩
        intro (blank : msg = "")
        rw [blank] at long
        exact long rfl
      · intro given
        rw [unchanged]
        rcases given with absent | ⟨other, connecting | sending⟩
        · cases absent
        · exact absurd (idle.symm.trans connecting) nofun
        · exact absurd (idle.symm.trans sending) nofun
      · intro _ _
        rw [unchanged]
        exact ⟨login, inside, sender⟩
      · intro _
        exact ⟨user, named, joined.append _⟩
  | dies event calls threads tasks =>
      exact held.received calls coherent rfl rfl rfl .inl
  | connects attempt state present => exact held.frame coherent rfl
  | leaves state present => exact held.frame coherent rfl
  | receives text call after reading visited handled =>
      rcases MainActivity.handle_cases handled with ⟨own, rfl⟩ | ⟨foreign, rfl⟩
      · apply held.received [call] coherent rfl rfl rfl
        intro _
        obtain ⟨response, user, rfl, joining, named⟩ := own
        exact .inr ⟨user, named, response,
          List.mem_append_right _ List.mem_cons_self, joining⟩
      · exact held.received [call] coherent rfl rfl rfl .inl
  | runs output req rest before after waiting present same => exact held.frame coherent rfl

end Identified

variable (writer : GsonWriter platform) (host : Host)

theorem start_identified : Identified [] start where
  coherent := .start
  orderly := .start
  unsent := fun _ => rfl
  sent := fun present => absurd rfl present
  joined := nofun

theorem identified_run (events : List Event) :
    Identified ((machine writer host).trace events) ((machine writer host).run events) := by
  apply reached writer host Identified start_identified
  intro trace session event after emitted alive moved held
  exact held.moves alive moved

/-- An activity sends one login at most, of a name that is long enough, and its messages
under that name and once the server has let it in. -/
theorem orderly_trace (events : List Event) :
    Orderly ((machine writer host).trace events) :=
  (identified_run writer host events).orderly

end Session

end AndroidMessenger.Client
