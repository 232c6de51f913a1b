import AndroidMessenger.Client.Session

namespace AndroidMessenger.Client

open Library Msg

variable {codecs : Codecs} {platform : Platform codecs}

/-! What every run of a session keeps. -/

namespace MainActivity

/-- The only response that changes an activity is a login under its own name. -/
def IsOwnLogin (activity : MainActivity) (call : ResponseCall) : Prop :=
  ∃ response user, call = .visitLogin (some response) ∧
    response.joiningUsername = some user ∧ activity.user = some user

theorem handle_cases {call : ResponseCall} {activity after : MainActivity}
    (handled : activity.handle call = .ok after) :
    activity.IsOwnLogin call ∧ after = { activity with state := .isLoggedIn } ∨
      ¬ activity.IsOwnLogin call ∧ after = activity := by
  cases call with
  | visitLogin login =>
      simp only [handle, visitLogin] at handled
      split at handled
      · contradiction
      · rename_i joiningUsername joined
        obtain ⟨response, rfl, joining⟩ := Option.bind_eq_some_iff.mp joined
        split at handled
        · rename_i own
          cases handled
          exact .inl ⟨⟨response, joiningUsername, rfl, joining, own.symm⟩, rfl⟩
        · rename_i foreign
          cases handled
          refine .inr ⟨?_, rfl⟩
          rintro ⟨other, user, same, otherJoining, named⟩
          cases same
          rw [joining] at otherJoining
          exact foreign (otherJoining.trans named.symm)
  | visitMessage message =>
      simp only [handle, visitMessage] at handled
      have foreign : ¬ activity.IsOwnLogin (.visitMessage message) := by
        intro given
        rcases given with ⟨response, user, same, _⟩
        cases same
      refine .inr ⟨foreign, ?_⟩
      split at handled
      · cases handled
        rfl
      · split at handled
        · contradiction
        · cases handled
          rfl
  | visitError error =>
      have foreign : ¬ activity.IsOwnLogin (.visitError error) := by
        intro given
        rcases given with ⟨response, user, same, _⟩
        cases same
      cases handled
      exact .inr ⟨foreign, rfl⟩

end MainActivity

namespace Session

/-- How `state`, `_user`, `mConnection`, the threads and the progress of `login` belong
together. -/
structure Coherent (session : Session) : Prop where
  fresh : session.activity.mConnection = none → session.activity.state = .noConnection
  unlogged : session.activity.state = .noConnection →
    session.activity.mConnection = none ∨ ∃ user, session.activity.login = .connecting user
  connected : (session.activity.login = .marking ∨
    ∃ user, session.activity.login = .connecting user) →
    session.activity.mConnection ≠ none
  named : ∀ user, (session.activity.login = .connecting user ∨
    session.activity.login = .sending user) →
    session.activity.user = some user ∧ ¬ javaLength user < 3
  threaded : session.activity.alive = true →
    (session.threads = none ↔ session.activity.mConnection = none)

namespace Coherent

variable {session : Session}

theorem mConnection_eq_none (held : Coherent session)
    (idle : session.activity.login = .returned)
    (fresh : session.activity.state = .noConnection) :
    session.activity.mConnection = none := by
  rcases held.unlogged fresh with absent | ⟨user, connecting⟩
  · exact absent
  · rw [idle] at connecting
    cases connecting

theorem start : Coherent start where
  fresh := fun _ => rfl
  unlogged := fun _ => .inl rfl
  connected := by
    intro given
    rcases given with marking | ⟨user, connecting⟩
    · cases marking
    · cases connecting
  named := by
    intro user given
    rcases given with connecting | sending
    · cases connecting
    · cases sending
  threaded := fun _ => iff_of_true rfl rfl

theorem mConnection_ne_none (held : Coherent session)
    (alive : session.activity.alive = true) (reading : session.isReading = true) :
    session.activity.mConnection ≠ none := by
  intro absent
  rw [isReading, (held.threaded alive).mpr absent] at reading
  cases reading

theorem moves {event : Event} {after : Session} {emitted : List Action}
    (held : Coherent session) (alive : session.activity.alive = true)
    (moved : Moves platform session event after emitted) : Coherent after := by
  cases moved with
  | rests => exact held
  | starts address port user number idle fresh long =>
      refine ⟨nofun, fun _ => .inr ⟨user, rfl⟩, fun _ => nofun, ?_, fun _ => ?_⟩
      · rintro other (connecting | sending)
        · cases connecting
          exact ⟨rfl, long⟩
        · cases sending
      · simp
  | misses address port user idle fresh long =>
      have absent := held.mConnection_eq_none idle fresh
      refine ⟨fun _ => rfl, fun _ => .inl absent, ?_, ?_, held.threaded⟩
      · rintro (marking | ⟨other, connecting⟩)
        · cases marking
        · cases connecting
      · rintro other (connecting | sending)
        · cases connecting
        · cases sending
          exact ⟨rfl, long⟩
  | misreads address port user idle fresh long =>
      refine ⟨held.fresh, held.unlogged, held.connected, ?_, nofun⟩
      rintro other (connecting | sending)
      · rw [idle] at connecting
        cases connecting
      · rw [idle] at sending
        cases sending
  | marks user connecting =>
      have present := held.connected (.inr ⟨user, connecting⟩)
      refine ⟨fun absent => absurd absent present, nofun, ?_, ?_, held.threaded⟩
      · rintro (marking | ⟨other, again⟩)
        · cases marking
        · cases again
      · rintro other (again | sending)
        · cases again
        · cases sending
          exact held.named user (.inl connecting)
  | sends now user connection sending present =>
      refine ⟨nofun, ?_, fun _ => nofun, ?_, fun _ => ?_⟩
      · intro fresh
        rcases held.unlogged fresh with absent | ⟨other, connecting⟩
        · rw [present] at absent
          cases absent
        · rw [sending] at connecting
          cases connecting
      · rintro other (again | again)
        · cases again
        · cases again
      · simp [held.threaded alive, present]
  | ends marking =>
      have present := held.connected (.inl marking)
      refine ⟨fun absent => absurd absent present, nofun, ?_, ?_, held.threaded⟩
      · rintro (again | ⟨other, connecting⟩)
        · cases again
        · cases connecting
      · rintro other (connecting | sending)
        · cases connecting
        · cases sending
  | speaks now msg connection idle loggedIn long present =>
      refine ⟨nofun, ?_, fun _ => nofun, held.named, fun _ => ?_⟩
      · intro fresh
        rw [loggedIn] at fresh
        cases fresh
      · simp [held.threaded alive, present]
  | dies event calls threads tasks =>
      exact ⟨held.fresh, held.unlogged, held.connected, held.named, nofun⟩
  | connects attempt state present =>
      refine ⟨held.fresh, held.unlogged, held.connected, held.named, fun _ => ?_⟩
      have connected := held.threaded alive
      simpa [present] using connected
  | leaves state present =>
      refine ⟨held.fresh, held.unlogged, held.connected, held.named, fun _ => ?_⟩
      have connected := held.threaded alive
      simpa [present] using connected
  | receives text call after reading visited handled =>
      rcases MainActivity.handle_cases handled with ⟨own, rfl⟩ | ⟨foreign, rfl⟩
      · have present := held.mConnection_ne_none alive reading
        exact ⟨fun absent => absurd absent present, nofun, held.connected, held.named,
          held.threaded⟩
      · exact held
  | runs output req rest before after waiting present same =>
      refine ⟨held.fresh, held.unlogged, held.connected, held.named, fun _ => ?_⟩
      have connected := held.threaded alive
      simpa [present] using connected

end Coherent

section Moves

variable {session after : Session} {event : Event} {emitted : List Action}

theorem Moves.mConnection_ne_none (moved : Moves platform session event after emitted)
    (present : session.activity.mConnection ≠ none) :
    after.activity.mConnection ≠ none := by
  cases moved with
  | rests => exact present
  | starts => exact nofun
  | misses => exact present
  | misreads => exact present
  | marks => exact present
  | sends => exact nofun
  | ends => exact present
  | speaks => exact nofun
  | dies => exact present
  | connects => exact present
  | leaves => exact present
  | receives text call after reading visited handled =>
      rw [MainActivity.mConnection_handle handled]
      exact present
  | runs => exact present

theorem Moves.isReading_of_received (moved : Moves platform session event after emitted)
    (running : after.activity.alive = true) {call : ResponseCall}
    (inside : .received call ∈ emitted) : session.isReading = true := by
  cases moved with
  | sends => exact absurd (List.mem_singleton.mp inside) nofun
  | speaks => exact absurd (List.mem_singleton.mp inside) nofun
  | dies => cases running
  | receives text call after reading visited handled => exact reading
  | _ => cases inside

end Moves

variable (writer : GsonWriter platform) (host : Host)

theorem step_of_alive {session : Session} (alive : session.activity.alive = true)
    (event : Event) :
    (machine writer host).step session event = session.step writer host event := by
  simp [machine, alive]

theorem step_of_dead {session : Session} (dead : session.activity.alive = false)
    (event : Event) : (machine writer host).step session event = session := by
  simp [machine, dead]

theorem emits_of_dead {session : Session} (dead : session.activity.alive = false)
    (event : Event) : (machine writer host).emits session event = [] := by
  simp [machine, dead]

theorem reached (invariant : List Action → Session → Prop)
    (start : invariant [] Session.start)
    (keep : ∀ trace session event after emitted, session.activity.alive = true →
      Moves platform session event after emitted → invariant trace session →
      invariant (trace ++ emitted) after) (events : List Event) :
    invariant ((machine writer host).trace events) ((machine writer host).run events) := by
  apply (machine writer host).induction start
  intro trace session event held
  cases alive : session.activity.alive with
  | true => exact keep trace session event _ _ alive (moves_step writer host alive event) held
  | false =>
      rw [step_of_dead writer host alive, emits_of_dead writer host alive, List.append_nil]
      exact held

theorem coherent_run (events : List Event) :
    Coherent ((machine writer host).run events) := by
  apply reached writer host (fun _ session => Coherent session) .start
  intro trace session event after emitted alive moved held
  exact held.moves alive moved

/-! A login whose request has left. -/

def bobAsks : List Event :=
  [.login "10.0.2.2" "3000" "bob", .markConnected, .connect .opened, .sendLogin 0,
    .doInBackground .takes]

theorem run_bobAsks :
    ((machine GsonWriter.escaping Host.ascii).run bobAsks).isReading = true ∧
      ((machine GsonWriter.escaping Host.ascii).run bobAsks).activity = {
        alive := true
        state := .hasConnection
        user := some "bob"
        mConnection := some {
          sock := none
          sent := [.login { dateTime := 0, sender := "bob" }]
          received := [] }
        login := .marking } := ⟨rfl, rfl⟩

end Session

end AndroidMessenger.Client
