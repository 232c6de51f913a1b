import AndroidMessenger.Client.Construction

namespace AndroidMessenger.Client

open Library Msg

variable {codecs : Codecs} {platform : Platform codecs}

/-! What an attempted login that ends without success leaves behind. -/

namespace Session

variable (writer : GsonWriter platform) (host : Host)

/-- The response visitor does not get through with an answer, or is told of an error. -/
def rejects (platform : Platform codecs) (activity : MainActivity) (text : String) : Bool :=
  match visit platform text with
  | .error _ => true
  | .ok (.visitError _) => true
  | .ok call =>
      match activity.handle call with
      | .error _ => true
      | .ok _ => false

def fails (session : Session) : Event → Bool
  | .connect attempt =>
      match session.threads with
      | none => false
      | some state =>
          decide (state.reader = .started ∧ state.sockLock = none ∧
            (attempt ≠ .opened ∨ ¬ (0 ≤ session.port ∧ session.port ≤ 65535)))
  | .leaveLoop => session.isReading
  | .read text =>
      session.isReading && decide (session.activity.state ≠ .isLoggedIn) &&
        rejects platform session.activity text
  | .doInBackground output =>
      match session.tasks, session.threads with
      | .login req :: _, some state =>
          let text := platform.toString ((NetworkRequest.login req).toJson writer)
          match Sending.doInBackground { text, successHandler := false } output state with
          | none => false
          | some (report, _) => decide (report ≠ { thrown := none, callback := none })
      | _, _ => false
  | _ => false

inductive Note where
  | began
  | failed
  deriving DecidableEq

def note (session : Session) (event : Event) : Option Note :=
  if session.activity.alive then
    match event with
    | .login _ _ user =>
        if session.activity.login = .returned ∧ session.activity.state = .noConnection ∧
            ¬ javaLength user < 3 then some .began
        else none
    | event => if session.fails writer event then some .failed else none
  else none

def notes (events : List Event) : List Note :=
  ((machine writer host).observing fun session event =>
    (session.note writer event).toList).trace events

def HasFailed (events : List Event) : Prop :=
  (notes writer host events).getLast? = some .failed

def Settled (session : Session) : Prop :=
  session.activity.alive = false ∨ session.activity.login = .returned

/-- No request or response is outstanding, and no thread serves a connection. -/
structure Quiet (session : Session) : Prop where
  alive : session.activity.alive = true
  idle : session.activity.login = .returned
  unsent : session.tasks = []
  unserved : ∀ state, session.threads = some state → state.reader = .ended

structure Recovers (events : List Event) : Prop where
  failed : HasFailed writer host events → Settled ((machine writer host).run events) →
    Open ((machine writer host).run events)
  quiet : Quiet ((machine writer host).run events) →
    ((machine writer host).run events).activity.state = .noConnection

variable {session after : Session} {event : Event} {emitted : List Action}

theorem fails_of_error (reading : session.isReading = true)
    (pending : session.activity.state ≠ .isLoggedIn) (res : Response.Error) :
    session.fails writer (.read ((Response.error res).text codecs)) = true := by
  have rejected : rejects platform session.activity ((Response.error res).text codecs) = true := by
    rw [rejects, visit_error_text]
  simp [fails, reading, pending, rejected]

theorem threads_of_isReading (reading : session.isReading = true) :
    session.threads ≠ none := by
  intro absent
  rw [isReading, absent] at reading
  cases reading

theorem threads_of_fails (failing : session.fails writer event = true) :
    session.threads ≠ none := by
  intro absent
  cases event with
  | connect attempt => simp [fails, absent] at failing
  | leaveLoop => exact threads_of_isReading failing absent
  | read text =>
      simp only [fails, Bool.and_eq_true] at failing
      exact threads_of_isReading failing.1.1 absent
  | doInBackground output => simp [fails, absent] at failing
  | login address port user => cases failing
  | markConnected => cases failing
  | sendLogin now => cases failing
  | endLogin => cases failing
  | onMsgSend now msg => cases failing

theorem ended_of_connect {attempt : Sending.Attempt} {state : Sending.State}
    (ended : (Sending.connect attempt state).reader = .ended) :
    state.reader = .ended ∨
      state.reader = .started ∧ state.sockLock = none ∧ attempt ≠ .opened := by
  obtain ⟨sockLock, sock, reader⟩ := state
  cases reader with
  | ended => exact .inl rfl
  | reading => cases ended
  | started =>
      cases sockLock with
      | some thread => cases ended
      | none =>
          refine .inr ⟨rfl, rfl, ?_⟩
          rintro rfl
          cases ended

theorem Moves.ended (moved : Moves platform session event after emitted)
    (running : after.activity.alive = true) {state : Sending.State}
    (present : after.threads = some state) (ended : state.reader = .ended) :
    (∃ before, session.threads = some before ∧ before.reader = .ended) ∨
      session.fails writer event = true := by
  cases moved with
  | rests => exact .inl ⟨state, present, ended⟩
  | starts =>
      cases present
      cases ended
  | misses => exact .inl ⟨state, present, ended⟩
  | misreads => cases running
  | marks => exact .inl ⟨state, present, ended⟩
  | sends => exact .inl ⟨state, present, ended⟩
  | ends => exact .inl ⟨state, present, ended⟩
  | speaks => exact .inl ⟨state, present, ended⟩
  | dies => cases running
  | connects attempt before served =>
      cases present
      rcases ended_of_connect ended with already | ⟨started, free, refused⟩
      · exact .inl ⟨before, served, already⟩
      · exact .inr (by simp [fails, served, started, free, refused])
  | leaves before served =>
      cases present
      obtain ⟨sockLock, sock, reader⟩ := before
      cases reader with
      | started => cases ended
      | reading => exact .inr (by simp [fails, isReading, served])
      | ended => exact .inl ⟨_, served, rfl⟩
  | receives text call after reading visited handled => exact .inl ⟨state, present, ended⟩
  | runs output req rest before after waiting served same =>
      cases present
      exact .inl ⟨before, served, same.symm.trans ended⟩

structure Noted (notes : List Note) (session : Session) : Prop where
  coherent : Coherent session
  failed : session.activity.alive = true → notes.getLast? = some .failed →
    session.activity.mConnection ≠ none
  ended : session.activity.alive = true → ∀ state, session.threads = some state →
    state.reader = .ended → notes.getLast? = some .failed

theorem fails_of_note (noted : session.note writer event = some .failed) :
    session.fails writer event = true := by
  unfold note at noted
  split at noted
  · split at noted
    · split at noted
      · cases noted
      · cases noted
    · split at noted
      · assumption
      · cases noted
  · cases noted

theorem note_of_fails (alive : session.activity.alive = true)
    (failing : session.fails writer event = true) :
    session.note writer event = some .failed := by
  cases event with
  | login address port user => cases failing
  | _ => simp [note, alive, failing]

theorem open_of_note (noted : session.note writer event = some .began) : Open session := by
  unfold note at noted
  split at noted
  · rename_i alive
    split at noted
    · split at noted
      · rename_i opened
        exact ⟨alive, opened.1, opened.2.1⟩
      · cases noted
    · split at noted
      · cases noted
      · cases noted
  · cases noted

theorem Noted.moves {notes : List Note} (held : Noted notes session)
    (alive : session.activity.alive = true)
    (moved : Moves platform session event after emitted) :
    Noted (notes ++ (session.note writer event).toList) after := by
  have last : (notes ++ (session.note writer event).toList).getLast? =
      (session.note writer event).or notes.getLast? := by
    rw [List.getLast?_append]
    cases session.note writer event with
    | none => rfl
    | some note => rfl
  refine ⟨held.coherent.moves alive moved, ?_, ?_⟩
  · intro _ failed
    apply moved.mConnection_ne_none
    rw [last] at failed
    cases noted : session.note writer event with
    | none =>
        rw [noted] at failed
        exact held.failed alive failed
    | some note =>
        rw [noted] at failed
        obtain rfl := Option.some.inj failed
        have served := threads_of_fails writer (fails_of_note writer noted)
        exact fun absent => served ((held.coherent.threaded alive).mpr absent)
  · intro running state present ended
    rw [last]
    rcases moved.ended writer running present ended with ⟨before, served, already⟩ | failing
    · have failed := held.ended alive before served already
      cases noted : session.note writer event with
      | none => exact failed
      | some note =>
          cases note with
          | failed => rfl
          | began =>
              -- A call that is taken finds no connection, and no thread of one.
              have opened := open_of_note writer noted
              exact absurd (held.coherent.mConnection_eq_none opened.idle opened.fresh)
                (held.failed alive failed)
    · rw [note_of_fails writer alive failing]
      rfl

theorem start_noted : Noted [] start where
  coherent := .start
  failed := nofun
  ended := nofun

theorem noted_run (events : List Event) :
    Noted (notes writer host events) ((machine writer host).run events) := by
  rw [← Machine.run_observing (machine writer host)
    (fun session event => (session.note writer event).toList)]
  refine @Machine.induction _ _ _ _ Noted start_noted ?_ events
  intro notes session event held
  change Noted (notes ++ (session.note writer event).toList)
    ((machine writer host).step session event)
  cases alive : session.activity.alive with
  | true => exact held.moves writer alive (moves_step writer host alive event)
  | false =>
      have unnoted : session.note writer event = none := by simp [note, alive]
      rw [unnoted, step_of_dead writer host alive, Option.toList_none, List.append_nil]
      exact held

theorem hasFailed_concat {events : List Event}
    (alive : ((machine writer host).run events).activity.alive = true) {event : Event}
    (failing : ((machine writer host).run events).fails writer event = true) :
    HasFailed writer host (events ++ [event]) := by
  rw [HasFailed, notes, Machine.observing_concat, note_of_fails writer alive failing]
  exact List.getLast?_concat

theorem not_open_of_hasFailed {events : List Event} (failed : HasFailed writer host events) :
    ¬ Open ((machine writer host).run events) := by
  intro opened
  have noted := noted_run writer host events
  exact noted.failed opened.alive failed
    (noted.coherent.mConnection_eq_none opened.idle opened.fresh)

/-- A run recovers from its failed attempts when it ends before any of them is dealt with,
and only then. -/
theorem recovers_iff (writer : GsonWriter platform) (host : Host) (events : List Event) :
    (∀ before, before <+: events → Recovers writer host before) ↔
      ∀ before, before <+: events → HasFailed writer host before →
        ¬ Settled ((machine writer host).run before) := by
  constructor
  · intro recovers before inside failed settled
    exact not_open_of_hasFailed writer host failed
      ((recovers before inside).failed failed settled)
  · intro unsettled before inside
    refine ⟨fun failed settled => absurd settled (unsettled before inside failed), ?_⟩
    intro quiet
    have noted := noted_run writer host before
    cases served : ((machine writer host).run before).threads with
    | none => exact noted.coherent.fresh ((noted.coherent.threaded quiet.alive).mp served)
    | some state =>
        have failed := noted.ended quiet.alive state served (quiet.unserved state served)
        exact absurd (.inr quiet.idle) (unsettled before inside failed)

/-! A connection that is refused, one that the server closes, and a name that is in
use. -/

def refused : List Event :=
  [.login "10.0.2.2" "3000" "bob", .markConnected, .connect .newSocket, .sendLogin 0,
    .endLogin]

def bobWaits : List Event := bobAsks ++ [.endLogin]

def nameInUse : Response.Error :=
  Response.Error.ofCode 0 Instance.serverSender ErrorCode.userNameInUse
    "You dun goofed. Username is in use. (Server Error)"

def refusal : Event := .read ((Response.error nameInUse).text Codecs.compact)

theorem run_refusal :
    ((machine GsonWriter.escaping Host.ascii).run
      (bobWaits ++ [refusal])).activity.alive = false := by
  have reading : ((machine GsonWriter.escaping Host.ascii).run bobWaits).isReading = true := rfl
  have alive : ((machine GsonWriter.escaping Host.ascii).run bobWaits).activity.alive =
      true := rfl
  rw [Machine.run_concat, step_of_alive _ _ alive, refusal, step,
    read_of_rejected reading (visit_error_text Platform.escaping nameInUse)]
  rfl

theorem failed_login_is_never_repeated :
    (((machine GsonWriter.escaping Host.ascii).run refused).activity.state =
        .attemptedLogin ∧
      ¬ Recovers GsonWriter.escaping Host.ascii refused) ∧
    (((machine GsonWriter.escaping Host.ascii).run
        (bobWaits ++ [.leaveLoop])).activity.state = .attemptedLogin ∧
      ¬ Recovers GsonWriter.escaping Host.ascii (bobWaits ++ [.leaveLoop])) ∧
    ((machine GsonWriter.escaping Host.ascii).run
        (bobWaits ++ [refusal])).activity.alive = false ∧
      ¬ Recovers GsonWriter.escaping Host.ascii (bobWaits ++ [refusal]) := by
  refine ⟨⟨rfl, ?_⟩, ⟨rfl, ?_⟩, run_refusal, ?_⟩
  · intro recovers
    cases (recovers.failed rfl (.inr rfl)).fresh
  · intro recovers
    cases recovers.quiet {
      alive := rfl
      idle := rfl
      unsent := rfl
      unserved := by
        intro state served
        cases served
        rfl }
  · intro recovers
    have pending : ((machine GsonWriter.escaping Host.ascii).run bobWaits).activity.state =
        .attemptedLogin := rfl
    have failing : ((machine GsonWriter.escaping Host.ascii).run bobWaits).fails
        GsonWriter.escaping refusal = true := by
      apply fails_of_error GsonWriter.escaping rfl
      rw [pending]
      exact nofun
    have opened := recovers.failed
      (hasFailed_concat GsonWriter.escaping Host.ascii rfl failing) (.inl run_refusal)
    exact absurd (run_refusal.symm.trans opened.alive) nofun

end Session

end AndroidMessenger.Client
