import AndroidMessenger.Client.Coherence

namespace AndroidMessenger.Client

open Library Msg

variable {codecs : Codecs} {platform : Platform codecs}

/-! A whole call of `login`, when the connection cannot be built. -/

def Host.Builds (host : Host) (address port : String) : Prop :=
  host.getByName address = true ∧ (parseInt host.digit port).isSome = true

theorem construct_eq_started_iff (host : Host) (address port : String) :
    NetworkingConnection.construct host address port = .started ↔
      host.Builds address port := by
  unfold NetworkingConnection.construct Host.Builds
  cases known : host.getByName address with
  | false => simp
  | true =>
      cases number : parseInt host.digit port with
      | none => simp
      | some value => simp

namespace Session

def call (address port user : String) (now : DateTime) : List Event :=
  [.login address port user, .markConnected, .sendLogin now, .endLogin]

structure Open (session : Session) : Prop where
  alive : session.activity.alive = true
  idle : session.activity.login = .returned
  fresh : session.activity.state = .noConnection

variable (writer : GsonWriter platform) (host : Host)

/-- A call that cannot build its connection returns, sends nothing and leaves the state
as it was. -/
structure Harmless (session : Session) (address port user : String) (now : DateTime) :
    Prop where
  returns : ((machine writer host).runFrom session
    (call address port user now)).activity.alive = true
  returned : ((machine writer host).runFrom session
    (call address port user now)).activity.login = .returned
  silent : ∀ req, .handed req ∉
    (machine writer host).traceFrom session (call address port user now)
  fresh : ((machine writer host).runFrom session
    (call address port user now)).activity.state = .noConnection

/-- What a caller of `login` relies on after a run. -/
structure KeepsLogin (events : List Event) (address port user : String) (now : DateTime) :
    Prop where
  harmless : Open ((machine writer host).run events) →
    (javaLength user < 3 ∨ ¬ host.Builds address port) →
    Harmless writer host ((machine writer host).run events) address port user now
  connected : ((machine writer host).run events).activity.state = .attemptedLogin ∨
    ((machine writer host).run events).activity.state = .isLoggedIn →
    ((machine writer host).run events).activity.mConnection ≠ none

variable {session : Session}

theorem Harmless.of_short (opened : Open session) (address port : String) {user : String}
    (short : javaLength user < 3) (now : DateTime) :
    Harmless writer host session address port user now := by
  have ignored : session.login host address port user = session := by
    apply login_of_ignored
    simp [MainActivity.beginLogin, short]
  have marked : session.activity.markConnected = session.activity := by
    simp [MainActivity.markConnected, opened.idle]
  have sent : session.activity.sendLogin now = session.activity := by
    simp [MainActivity.sendLogin, opened.idle]
  have ended : session.activity.endLogin = session.activity := by
    simp [MainActivity.endLogin, opened.idle]
  have ignores : ∀ event ∈ call address port user now,
      (machine writer host).step session event = session ∧
        (machine writer host).emits session event = [] := by
    intro event inside
    simp only [call, List.mem_cons, List.not_mem_nil, or_false] at inside
    rcases inside with rfl | rfl | rfl | rfl
    · simp [machine, opened.alive, step, receives, ignored, handed_self]
    · simp [machine, opened.alive, step, receives, ui, marked, handed_self]
    · simp [machine, opened.alive, step, receives, ui, sent, handed_self]
    · simp [machine, opened.alive, step, receives, ui, ended, handed_self]
  obtain ⟨rests, silent⟩ := (machine writer host).runFrom_of_ignored ignores
  refine ⟨?_, ?_, ?_, ?_⟩
  · rw [rests]
    exact opened.alive
  · rw [rests]
    exact opened.idle
  · intro req
    rw [silent]
    exact List.not_mem_nil
  · rw [rests]
    exact opened.fresh

theorem runFrom_of_dead (dead : session.activity.alive = false) (events : List Event) :
    (machine writer host).runFrom session events = session := by
  refine ((machine writer host).runFrom_of_ignored ?_).1
  intro event _
  exact ⟨step_of_dead writer host dead event, emits_of_dead writer host dead event⟩

/-- Behind the `catch` clause, the request goes to a connection that does not exist; what
`parseInt` throws is not caught. -/
theorem dies_of_unbuilt (opened : Open session)
    (absent : session.activity.mConnection = none) {address port user : String}
    (long : ¬ javaLength user < 3) (unbuilt : ¬ host.Builds address port)
    (now : DateTime) :
    ((machine writer host).runFrom session
      (call address port user now)).activity.alive = false := by
  rw [call, Machine.runFrom_cons, step_of_alive _ _ opened.alive, step]
  cases constructed : NetworkingConnection.construct host address port with
  | started => exact absurd ((construct_eq_started_iff host address port).mp constructed) unbuilt
  | numberFormatException =>
      have begun : (session.login host address port user).activity =
          { session.activity with user := some user, alive := false } := by
        rw [login_activity, constructed,
          MainActivity.beginLogin_numberFormat opened.idle opened.fresh long]
      rw [runFrom_of_dead writer host (by rw [begun]), begun]
  | unknownHostException =>
      have begun : (session.login host address port user).activity =
          { session.activity with
            user := some user
            state := .noConnection
            login := .sending user } := by
        rw [login_activity, constructed,
          MainActivity.beginLogin_unknownHost opened.idle opened.fresh long]
      generalize session.login host address port user = thrown at begun
      have alive : thrown.activity.alive = true := by
        rw [begun]
        exact opened.alive
      have marked : thrown.ui MainActivity.markConnected = thrown := by
        have same : thrown.activity.markConnected = thrown.activity := by
          rw [begun]
          rfl
        rw [ui, same, handed_self, List.append_nil]
      have sent : (thrown.ui (MainActivity.sendLogin now)).activity.alive = false := by
        have dead : thrown.activity.sendLogin now = thrown.activity.finish := by
          rw [begun]
          simp [MainActivity.sendLogin, MainActivity.finish, absent]
        rw [ui, dead]
        rfl
      rw [Machine.runFrom_cons, step_of_alive _ _ alive, step, marked,
        Machine.runFrom_cons, step_of_alive _ _ alive, step, runFrom_of_dead _ _ sent]
      exact sent

/-- A caller of `login` gets what it relies on, but for a name that is long enough and a
connection that cannot be built. -/
theorem keepsLogin_iff (writer : GsonWriter platform) (host : Host) (events : List Event)
    (address port user : String) (now : DateTime) :
    KeepsLogin writer host events address port user now ↔
      (Open ((machine writer host).run events) →
        javaLength user < 3 ∨
          host.getByName address = true ∧ (parseInt host.digit port).isSome = true) := by
  have coherent := coherent_run writer host events
  constructor
  · intro keeps opened
    by_contra fails
    have long : ¬ javaLength user < 3 := fun short => fails (.inl short)
    have unbuilt : ¬ host.Builds address port := fun builds => fails (.inr builds)
    have returns := (keeps.harmless opened (.inr unbuilt)).returns
    have absent := coherent.mConnection_eq_none opened.idle opened.fresh
    rw [dies_of_unbuilt writer host opened absent long unbuilt now] at returns
    cases returns
  · intro builds
    refine ⟨?_, ?_⟩
    · intro opened fails
      rcases builds opened with short | built
      · exact .of_short writer host opened address port short now
      · rcases fails with short | unbuilt
        · exact .of_short writer host opened address port short now
        · exact absurd built unbuilt
    · intro loggedIn absent
      have fresh := coherent.fresh absent
      rcases loggedIn with attempted | joined
      · exact absurd (fresh.symm.trans attempted) nofun
      · exact absurd (fresh.symm.trans joined) nofun

/-! An address that does not resolve, and a port that is not a number. -/

def Host.offline : Host := { Host.ascii with getByName := fun _ => false }

theorem failed_construction_ends_application :
    ((machine GsonWriter.escaping Host.offline).run
        (call "nowhere" "3000" "bob" 0)).activity.alive = false ∧
      ((machine GsonWriter.escaping Host.ascii).run
        (call "10.0.2.2" "port" "bob" 0)).activity.alive = false ∧
      ¬ KeepsLogin GsonWriter.escaping Host.offline [] "nowhere" "3000" "bob" 0 ∧
      ¬ KeepsLogin GsonWriter.escaping Host.ascii [] "10.0.2.2" "port" "bob" 0 := by
  have opened : Open start := ⟨rfl, rfl, rfl⟩
  have unknown : ¬ Host.offline.Builds "nowhere" "3000" := by
    intro builds
    cases builds.1
  have unparsed : ¬ Host.ascii.Builds "10.0.2.2" "port" := by
    intro builds
    cases builds.2
  refine ⟨rfl, rfl, ?_, ?_⟩
  · intro keeps
    cases (keeps.harmless opened (.inr unknown)).returns
  · intro keeps
    cases (keeps.harmless opened (.inr unparsed)).returns

end Session

end AndroidMessenger.Client
