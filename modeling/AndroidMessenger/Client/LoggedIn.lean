import AndroidMessenger.Client.Identity

namespace AndroidMessenger.Client

open Library Msg

variable {codecs : Codecs} {platform : Platform codecs}

/-! The UI thread writes `state` after the request has left, and the reader thread when
the answer comes. -/

namespace Session

variable (writer : GsonWriter platform) (host : Host)

/-- Once `visitLogin` has let the user in, `state` passes the tests in `onMsgSend` and
`visitMessage` up to the end of the run. -/
def StaysLoggedIn (events : List Event) : Prop :=
  ∀ before after, before ++ after <+: events →
    ((machine writer host).run before).activity.state = .isLoggedIn →
    ((machine writer host).run (before ++ after)).activity.state = .isLoggedIn

/-- An assignment of `login` is made before the answer to its user is received. -/
def AssignsFirst (trace : List Action) (session : Session) : Event → Prop
  | .markConnected => session.activity.alive = true → ∀ user,
      session.activity.login = .connecting user → ¬ Joined trace user
  | .endLogin => session.activity.alive = true → session.activity.login = .marking →
      ∀ user, session.activity.user = some user → ¬ Joined trace user
  | _ => True

def Heard (trace : List Action) (session : Session) : Prop :=
  session.activity.alive = true → ∀ call, .received call ∈ trace →
    session.activity.mConnection ≠ none

variable {trace : List Action} {session after : Session} {event : Event}
  {emitted : List Action}

theorem Heard.moves (held : Heard trace session) (coherent : Coherent session)
    (alive : session.activity.alive = true)
    (moved : Moves platform session event after emitted) :
    Heard (trace ++ emitted) after := by
  intro running call inside
  apply moved.mConnection_ne_none
  rcases List.mem_append.mp inside with old | new
  · exact held alive call old
  · exact coherent.mConnection_ne_none alive (moved.isReading_of_received running new)

theorem heard_run (events : List Event) :
    Heard ((machine writer host).trace events) ((machine writer host).run events) := by
  have both : Coherent ((machine writer host).run events) ∧
      Heard ((machine writer host).trace events) ((machine writer host).run events) := by
    apply reached writer host (fun trace session => Coherent session ∧ Heard trace session)
    · exact ⟨.start, fun _ _ inside => absurd inside List.not_mem_nil⟩
    · intro trace session event after emitted alive moved held
      exact ⟨held.1.moves alive moved, held.2.moves held.1 alive moved⟩
  exact both.2

/-! A timely assignment does not overwrite `isLoggedIn`. -/

theorem Identified.keeps (held : Identified trace session)
    (alive : session.activity.alive = true)
    (moved : Moves platform session event after emitted)
    (first : AssignsFirst trace session event)
    (loggedIn : session.activity.state = .isLoggedIn) :
    after.activity.state = .isLoggedIn := by
  obtain ⟨user, named, joined⟩ := held.joined loggedIn
  cases moved with
  | rests => exact loggedIn
  | starts address port name number idle fresh long => exact loggedIn
  | misses address port name idle fresh long =>
      exact absurd (fresh.symm.trans loggedIn) nofun
  | misreads address port name idle fresh long => exact loggedIn
  | marks name connecting =>
      have same := (held.coherent.named name (.inl connecting)).1
      rw [named] at same
      cases same
      exact absurd joined (first alive user connecting)
  | sends => exact loggedIn
  | ends marking => exact absurd joined (first alive marking user named)
  | speaks => exact loggedIn
  | dies => exact loggedIn
  | connects => exact loggedIn
  | leaves => exact loggedIn
  | receives text call after reading visited handled =>
      rcases MainActivity.handle_cases handled with ⟨own, rfl⟩ | ⟨foreign, rfl⟩
      · rfl
      · exact loggedIn
  | runs => exact loggedIn

theorem Moves.joined (moved : Moves platform session event after emitted)
    (coherent : Coherent session) (heard : Heard trace session)
    (alive : session.activity.alive = true) (running : after.activity.alive = true)
    {user : String} (named : after.activity.user = some user)
    (joined : Joined (trace ++ emitted) user) :
    session.activity.user = some user ∧ Joined trace user ∨
      after.activity.state = .isLoggedIn := by
  have unheard : session.activity.login = .returned →
      session.activity.state = .noConnection → ¬ Joined trace user := by
    intro idle fresh given
    obtain ⟨response, received, _⟩ := given
    exact heard alive _ received (coherent.mConnection_eq_none idle fresh)
  have handed : ∀ req, Joined (trace ++ [.handed req]) user → Joined trace user := by
    intro req given
    obtain ⟨response, received, joining⟩ := given
    rcases List.mem_append.mp received with old | new
    · exact ⟨response, old, joining⟩
    · exact absurd (List.mem_singleton.mp new) nofun
  cases moved with
  | rests => exact .inl ⟨named, by simpa using joined⟩
  | starts address port name number idle fresh long =>
      exact absurd (by simpa using joined) (unheard idle fresh)
  | misses address port name idle fresh long =>
      exact absurd (by simpa using joined) (unheard idle fresh)
  | misreads => cases running
  | marks => exact .inl ⟨named, by simpa using joined⟩
  | sends => exact .inl ⟨named, handed _ joined⟩
  | ends => exact .inl ⟨named, by simpa using joined⟩
  | speaks => exact .inl ⟨named, handed _ joined⟩
  | dies => cases running
  | connects => exact .inl ⟨named, by simpa using joined⟩
  | leaves => exact .inl ⟨named, by simpa using joined⟩
  | receives text call after reading visited handled =>
      rcases MainActivity.handle_cases handled with ⟨own, rfl⟩ | ⟨foreign, rfl⟩
      · exact .inr rfl
      · obtain ⟨response, received, joining⟩ := joined
        rcases List.mem_append.mp received with old | new
        · exact .inl ⟨named, response, old, joining⟩
        · cases List.mem_singleton.mp new
          exact absurd ⟨response, user, rfl, joining, named⟩ foreign
  | runs => exact .inl ⟨named, by simpa using joined⟩

variable {writer host}

theorem StaysLoggedIn.of_append {events rest : List Event}
    (stays : StaysLoggedIn writer host (events ++ rest)) :
    StaysLoggedIn writer host events := by
  intro before after inside
  exact stays before after (inside.trans (List.prefix_append events rest))

theorem StaysLoggedIn.loggedIn {events : List Event}
    (stays : StaysLoggedIn writer host events)
    (running : ((machine writer host).run events).activity.alive = true) {user : String}
    (named : ((machine writer host).run events).activity.user = some user)
    (joined : Joined ((machine writer host).trace events) user) :
    ((machine writer host).run events).activity.state = .isLoggedIn := by
  induction events using List.reverseRecOn with
  | nil => exact absurd named nofun
  | append_singleton events event ih =>
      have kept : ((machine writer host).run events).activity.state = .isLoggedIn →
          ((machine writer host).run (events ++ [event])).activity.state = .isLoggedIn :=
        stays events [event] List.prefix_rfl
      rw [Machine.run_concat] at running named kept ⊢
      rw [Machine.trace_concat] at joined
      cases alive : ((machine writer host).run events).activity.alive with
      | true =>
          have moved := moves_step writer host alive event
          rcases moved.joined (coherent_run writer host events)
            (heard_run writer host events) alive running named joined with
            ⟨before, already⟩ | now
          · exact kept (ih stays.of_append alive before already)
          · exact now
      | false =>
          rw [step_of_dead writer host alive, alive] at running
          cases running

/-- The user stays logged in when both assignments of `login` come before the answer of
the server, and only then. -/
theorem staysLoggedIn_iff (writer : GsonWriter platform) (host : Host)
    (events : List Event) :
    StaysLoggedIn writer host events ↔
      (machine writer host).Meets AssignsFirst events := by
  constructor
  · intro stays before event after equality
    have inside : before ++ [event] <+: events := ⟨after, by rw [equality]; simp⟩
    have stayed : StaysLoggedIn writer host before := by
      obtain ⟨rest, rfl⟩ := inside
      exact stays.of_append.of_append
    have overwritten : ((machine writer host).run before).activity.alive = true →
        ∀ user, ((machine writer host).run before).activity.user = some user →
        Joined ((machine writer host).trace before) user →
        ((machine writer host).step ((machine writer host).run before)
          event).activity.state = .isLoggedIn := by
      intro alive user named joined
      rw [← Machine.run_concat]
      exact stays before [event] inside (stayed.loggedIn alive named joined)
    have coherent := coherent_run writer host before
    generalize (machine writer host).run before = session at coherent overwritten ⊢
    -- Only the two assignments write another value over `isLoggedIn`.
    cases event with
    | markConnected =>
        intro alive user connecting joined
        have still := overwritten alive user (coherent.named user (.inl connecting)).1 joined
        simp [machine, alive, step, ui, MainActivity.markConnected, connecting] at still
    | endLogin =>
        intro alive marking user named joined
        have still := overwritten alive user named joined
        simp [machine, alive, step, ui, MainActivity.endLogin, marking] at still
    | login address port user => trivial
    | sendLogin now => trivial
    | onMsgSend now msg => trivial
    | connect attempt => trivial
    | read text => trivial
    | leaveLoop => trivial
    | doInBackground output => trivial
  · intro timely before after inside loggedIn
    induction after using List.reverseRecOn with
    | nil => simpa using loggedIn
    | append_singleton after event ih =>
        rw [← List.append_assoc] at inside
        obtain ⟨rest, equality⟩ := inside
        have first := timely (before ++ after) event rest (by rw [← equality]; simp)
        have still := ih ⟨event :: rest, by rw [← equality]; simp⟩
        rw [← List.append_assoc, Machine.run_concat]
        cases alive : ((machine writer host).run (before ++ after)).activity.alive with
        | true =>
            exact (identified_run writer host (before ++ after)).keeps alive
              (moves_step writer host alive event) first still
        | false =>
            rw [step_of_dead writer host alive]
            exact still

/-! The server answers before the UI thread goes on behind `execute`. -/

def bobJoins : Response := .login (Response.Login.ofUsername 0 "bob")

def fastAnswer : List Event := bobAsks ++ [.read (bobJoins.text Codecs.compact)]

theorem visit_bobJoins : visit Platform.escaping (bobJoins.text Codecs.compact) =
    .ok (.visitLogin (some {
      dateTime := some 0
      sender := some Instance.serverSender
      joiningUsername := some "bob" })) :=
  (visit_text_eq_ok_iff Platform.escaping bobJoins _).mpr ⟨0, by decide +kernel, rfl⟩

theorem run_fastAnswer :
    ((machine GsonWriter.escaping Host.ascii).run fastAnswer).activity =
      { ((machine GsonWriter.escaping Host.ascii).run bobAsks).activity with
        state := .isLoggedIn } := by
  obtain ⟨reading, asked⟩ := run_bobAsks
  rw [fastAnswer, Machine.run_concat]
  generalize (machine GsonWriter.escaping Host.ascii).run bobAsks = session at reading asked
  have handled : session.activity.handle (.visitLogin (some {
      dateTime := some 0
      sender := some Instance.serverSender
      joiningUsername := some "bob" })) =
        .ok { session.activity with state := .isLoggedIn } := by
    rw [asked]
    rfl
  rw [step_of_alive _ _ (by rw [asked]), step, read_of_handled reading visit_bobJoins handled]

theorem fast_answer_overwritten :
    ((machine GsonWriter.escaping Host.ascii).run fastAnswer).activity.state =
        .isLoggedIn ∧
      ((machine GsonWriter.escaping Host.ascii).run
        (fastAnswer ++ [.endLogin])).activity.state = .attemptedLogin ∧
      ¬ StaysLoggedIn GsonWriter.escaping Host.ascii (fastAnswer ++ [.endLogin]) := by
  have before : ((machine GsonWriter.escaping Host.ascii).run fastAnswer).activity.state =
      .isLoggedIn := by rw [run_fastAnswer]
  have after : ((machine GsonWriter.escaping Host.ascii).run
      (fastAnswer ++ [.endLogin])).activity.state = .attemptedLogin := by
    have answered := run_fastAnswer
    rw [run_bobAsks.2] at answered
    rw [Machine.run_concat]
    generalize (machine GsonWriter.escaping Host.ascii).run fastAnswer = session at answered
    rw [step_of_alive _ _ (by rw [answered]), step, ui, answered]
    rfl
  refine ⟨before, after, ?_⟩
  intro stays
  have still := stays fastAnswer [.endLogin] List.prefix_rfl before
  rw [after] at still
  cases still

end Session

end AndroidMessenger.Client
