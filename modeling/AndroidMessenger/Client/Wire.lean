import AndroidMessenger.Client.Coherence

namespace AndroidMessenger.Client

open Library Msg

variable {codecs : Codecs} {platform : Platform codecs}

namespace Sending

/-- The reader sets `_sock` when it starts. -/
def State.Settled (state : State) : Prop := state.reader = .started → state.sock = none

theorem State.Settled.connect {state : State} (settled : state.Settled)
    (attempt : Attempt) : (connect attempt state).Settled := by
  obtain ⟨sockLock, sock, reader⟩ := state
  cases reader with
  | started =>
      cases sockLock with
      | none => cases attempt <;> exact nofun
      | some thread => exact settled
  | reading => exact settled
  | ended => exact settled

theorem State.Settled.sock_connect {state : State} (settled : state.Settled)
    (attempt : Attempt) :
    (Sending.connect attempt state).sock.getD [] = state.sock.getD [] := by
  obtain ⟨sockLock, sock, reader⟩ := state
  cases reader with
  | started =>
      obtain rfl : sock = none := settled rfl
      cases sockLock with
      | none => cases attempt <;> rfl
      | some thread => rfl
  | reading => rfl
  | ended => rfl

theorem sock_leaveLoop (state : State) : (leaveLoop state).sock = state.sock := by
  obtain ⟨sockLock, sock, reader⟩ := state
  cases reader <;> rfl

theorem State.Settled.leaveLoop {state : State} (settled : state.Settled) :
    (leaveLoop state).Settled := by
  obtain ⟨sockLock, sock, reader⟩ := state
  cases reader with
  | started => exact settled
  | reading => exact nofun
  | ended => exact nofun

def put (text : String) : Output → Bytes
  | .getOutputStreamFails => []
  | output => println (Utf8.encode (text ++ "\n")) output

theorem doInBackground_of_sock (task : SendTask) (output : Output) (bytes : Bytes)
    (reader : ReaderPhase) :
    ∃ callback, doInBackground task output
        { sockLock := none, sock := some bytes, reader } =
      some ({ thrown := none, callback },
        { sockLock := none, sock := some (bytes ++ put task.text output), reader }) := by
  cases output with
  | getOutputStreamFails => exact ⟨_, by rw [put, List.append_nil]; rfl⟩
  | breaks count => exact ⟨_, rfl⟩
  | takes => exact ⟨_, rfl⟩

end Sending

/-! What the tasks of a session put on its socket. -/

namespace Session

def handedIn (trace : List Action) : List NetworkRequest :=
  trace.filterMap fun
    | .handed req => some req
    | .received _ => none

def outputOf : Event → Option Sending.Output
  | .doInBackground output => some output
  | _ => none

/-- What the task of a request puts on a socket. -/
def put (writer : GsonWriter platform) (turn : NetworkRequest × Sending.Output) : Bytes :=
  Sending.put (platform.toString (turn.1.toJson writer)) turn.2

def linesOf (writer : GsonWriter platform) (requests : List NetworkRequest) : Bytes :=
  requests.flatMap fun req => Utf8.encode (req.line writer)

/-- Every request has had its turn or waits for it, and the socket carries what the
turns put on it.  A task without a socket ends the activity, and is not accounted for. -/
structure Accounted (writer : GsonWriter platform) (outputs : List Sending.Output)
    (requests : List NetworkRequest) (session : Session) : Prop where
  settled : ∀ state, session.threads = some state → state.Settled
  carried : ∀ state, session.threads = some state →
    (session.activity.alive = true ∨ state.sock ≠ none) →
    ∃ done : List (NetworkRequest × Sending.Output),
      requests = done.map Prod.fst ++ session.tasks ∧
      (done.map Prod.snd).Sublist outputs ∧
      state.sock.getD [] = done.flatMap (put writer)

def Unburdened (requests : List NetworkRequest) (session : Session) : Prop :=
  session.activity.alive = true → session.activity.mConnection = none →
    requests = [] ∧ session.tasks = []

section Handed

theorem handedIn_nil : handedIn [] = [] := rfl

theorem handedIn_append (first second : List Action) :
    handedIn (first ++ second) = handedIn first ++ handedIn second :=
  List.filterMap_append

theorem handedIn_received (calls : List ResponseCall) :
    handedIn (calls.map .received) = [] := by
  induction calls with
  | nil => rfl
  | cons call rest ih => exact ih

theorem handedIn_handed (requests : List NetworkRequest) :
    handedIn (requests.map .handed) = requests := by
  induction requests with
  | nil => rfl
  | cons req rest ih => exact congrArg (req :: ·) ih

variable (writer : GsonWriter platform) (host : Host) {session : Session}

theorem handedIn_emits (alive : session.activity.alive = true) (event : Event) :
    handedIn ((machine writer host).emits session event) =
      handed session.activity (session.step writer host event).activity := by
  simp only [machine, alive, if_true]
  rw [handedIn_append, handedIn_received, handedIn_handed, List.nil_append]

end Handed

namespace Accounted

variable {writer : GsonWriter platform} {outputs : List Sending.Output}
  {requests : List NetworkRequest} {session : Session}

theorem of_same {after : Session} (held : Accounted writer outputs requests session)
    (alive : session.activity.alive = true) (threads : after.threads = session.threads)
    (tasks : after.tasks = session.tasks) : Accounted writer outputs requests after where
  settled := threads ▸ held.settled
  carried := by
    intro state present _
    rw [tasks]
    exact held.carried state (threads ▸ present) (.inl alive)

theorem mono (held : Accounted writer outputs requests session)
    {longer : List Sending.Output} (more : outputs.Sublist longer) :
    Accounted writer longer requests session where
  settled := held.settled
  carried := by
    intro state present lively
    obtain ⟨done, whole, turns, wire⟩ := held.carried state present lively
    exact ⟨done, whole, turns.trans more, wire⟩

theorem ui (held : Accounted writer outputs requests session)
    (alive : session.activity.alive = true) (change : MainActivity → MainActivity) :
    Accounted writer outputs
      (requests ++ handed session.activity (change session.activity))
      (session.ui change) where
  settled := held.settled
  carried := by
    intro state present _
    obtain ⟨done, whole, turns, wire⟩ := held.carried state present (.inl alive)
    refine ⟨done, ?_, turns, wire⟩
    rw [Session.ui, whole, List.append_assoc]

theorem login (held : Accounted writer outputs requests session)
    (alive : session.activity.alive = true) (coherent : Coherent session)
    (unburdened : Unburdened requests session) (host : Host)
    (address port user : String) :
    Accounted writer outputs requests (session.login host address port user) := by
  dsimp only [Session.login]
  split
  · rename_i begun
    have fresh : session.activity.state = .noConnection := by
      by_contra opened
      have ignored := begun.2
      simp [MainActivity.beginLogin, opened, begun.1] at ignored
    obtain ⟨none, quiet⟩ := unburdened alive (coherent.mConnection_eq_none begun.1 fresh)
    refine ⟨?_, ?_⟩
    · intro state present _
      obtain rfl := Option.some.inj present
      rfl
    · intro state present _
      obtain rfl := Option.some.inj present
      exact ⟨[], by rw [none]; exact quiet.symm, List.nil_sublist _, rfl⟩
  · exact held.of_same alive rfl rfl

theorem threads (held : Accounted writer outputs requests session)
    (alive : session.activity.alive = true) {before after : Sending.State}
    (present : session.threads = some before) (settled : after.Settled)
    (same : after.sock.getD [] = before.sock.getD []) (activity : MainActivity) :
    Accounted writer outputs requests
      { session with activity, threads := some after } where
  settled := by
    intro state known
    obtain rfl := Option.some.inj known
    exact settled
  carried := by
    intro state known _
    obtain rfl := Option.some.inj known
    rw [same]
    exact held.carried before present (.inl alive)

theorem connect (held : Accounted writer outputs requests session)
    (alive : session.activity.alive = true) (attempt : Sending.Attempt) :
    Accounted writer outputs requests (session.connect attempt) := by
  unfold Session.connect
  cases present : session.threads with
  | none => exact held
  | some state =>
      dsimp only
      have settled := held.settled state present
      split
      · exact held.threads alive present (settled.connect _) (settled.sock_connect _) _
      · exact held.threads alive present (settled.connect _) (settled.sock_connect _) _

theorem read (held : Accounted writer outputs requests session)
    (alive : session.activity.alive = true) (text : String) :
    Accounted writer outputs requests (session.read platform text) := by
  unfold Session.read
  split
  · split
    · exact held.of_same alive rfl rfl
    · split
      · exact held.of_same alive rfl rfl
      · exact held.of_same alive rfl rfl
  · exact held

theorem leaveLoop (held : Accounted writer outputs requests session)
    (alive : session.activity.alive = true) :
    Accounted writer outputs requests
      { session with threads := session.threads.map Sending.leaveLoop } := by
  cases present : session.threads with
  | none => exact held.of_same alive present.symm rfl
  | some state =>
      have settled := held.settled state present
      exact held.threads alive present settled.leaveLoop
        (congrArg (Option.getD · []) (Sending.sock_leaveLoop state)) _

theorem turn (held : Accounted writer outputs requests session)
    (alive : session.activity.alive = true) {req : NetworkRequest}
    {rest : List NetworkRequest} {bytes : Bytes} {reader : ReaderPhase}
    (waits : session.tasks = req :: rest)
    (present : session.threads = some { sockLock := none, sock := some bytes, reader })
    (output : Sending.Output) :
    Accounted writer (outputs ++ [output]) requests
      { session with
        threads := some {
          sockLock := none, sock := some (bytes ++ put writer (req, output)), reader }
        tasks := rest } where
  settled := by
    intro state known early
    obtain rfl := Option.some.inj known
    exact absurd (held.settled _ present early) nofun
  carried := by
    intro state known _
    obtain rfl := Option.some.inj known
    obtain ⟨done, whole, turns, wire⟩ := held.carried _ present (.inl alive)
    have written : bytes = done.flatMap (put writer) := wire
    refine ⟨done ++ [(req, output)], ?_, ?_, ?_⟩
    · rw [whole, waits]
      simp
    · rw [List.map_append]
      exact turns.append (List.Sublist.refl _)
    · rw [List.flatMap_append, ← written]
      simp

theorem doInBackground (held : Accounted writer outputs requests session)
    (alive : session.activity.alive = true) (output : Sending.Output) :
    Accounted writer (outputs ++ [output]) requests
      (session.doInBackground writer output) := by
  have idle : Accounted writer (outputs ++ [output]) requests session :=
    held.mono (List.sublist_append_left _ _)
  unfold Session.doInBackground
  cases waits : session.tasks with
  | nil => exact idle
  | cons req rest =>
      cases present : session.threads with
      | none => exact idle
      | some state =>
          obtain ⟨sockLock, sock, reader⟩ := state
          cases sockLock with
          | some thread => exact idle
          | none =>
              cases sock with
              | none =>
                  refine ⟨?_, ?_⟩
                  · intro state known _
                    obtain rfl := Option.some.inj known
                    rfl
                  · intro state known lively
                    obtain rfl := Option.some.inj known
                    rcases lively with again | opened
                    · cases again
                    · exact absurd rfl opened
              | some bytes =>
                  obtain ⟨callback, ran⟩ := Sending.doInBackground_of_sock
                    { text := platform.toString (req.toJson writer), successHandler := false }
                    output bytes reader
                  simp only [ran, if_true]
                  exact held.turn alive waits present output

theorem step (held : Accounted writer outputs requests session)
    (alive : session.activity.alive = true) (coherent : Coherent session)
    (unburdened : Unburdened requests session) (host : Host) (event : Event) :
    Accounted writer (outputs ++ (outputOf event).toList)
      (requests ++ handed session.activity (session.step writer host event).activity)
      (session.step writer host event) := by
  have more : outputs.Sublist (outputs ++ (outputOf event).toList) :=
    List.sublist_append_left outputs _
  cases event with
  | login address port user =>
      rw [Session.step, handed_login, List.append_nil]
      exact (held.login alive coherent unburdened host address port user).mono more
  | markConnected => exact (held.ui alive MainActivity.markConnected).mono more
  | sendLogin now => exact (held.ui alive (MainActivity.sendLogin now)).mono more
  | endLogin => exact (held.ui alive MainActivity.endLogin).mono more
  | onMsgSend now msg => exact (held.ui alive (MainActivity.onMsgSend now msg)).mono more
  | connect attempt =>
      rw [Session.step, handed_of_mConnection (mConnection_connect attempt), List.append_nil]
      exact (held.connect alive attempt).mono more
  | read text =>
      rw [Session.step, handed_read, List.append_nil]
      exact (held.read alive text).mono more
  | leaveLoop =>
      rw [Session.step, handed_self, List.append_nil]
      exact (held.leaveLoop alive).mono more
  | doInBackground output =>
      rw [Session.step, handed_of_mConnection (mConnection_doInBackground writer output),
        List.append_nil]
      exact held.doInBackground alive output

end Accounted

section Runs

variable (writer : GsonWriter platform) (host : Host)

theorem unburdened_run (events : List Event) :
    Unburdened (handedIn ((machine writer host).trace events))
      ((machine writer host).run events) := by
  apply reached writer host (fun trace session => Unburdened (handedIn trace) session)
    (fun _ _ => ⟨rfl, rfl⟩)
  intro trace session event after emitted alive moved held
  rw [handedIn_append]
  cases moved with
  | starts => exact fun _ absent => nomatch absent
  | misreads => exact fun dead => nomatch dead
  | sends => exact fun _ absent => nomatch absent
  | speaks => exact fun _ absent => nomatch absent
  | dies => exact fun dead => nomatch dead
  | receives text call after reading visited handled =>
      intro _ absent
      rw [MainActivity.mConnection_handle handled] at absent
      have quiet := held alive absent
      exact ⟨by rw [quiet.1]; rfl, quiet.2⟩
  | runs output req rest before after waiting =>
      intro _ absent
      have quiet := (held alive absent).2
      rw [waiting] at quiet
      cases quiet
  | _ =>
      intro _ absent
      have quiet := held alive absent
      exact ⟨by rw [quiet.1]; rfl, quiet.2⟩

theorem accounted_run (events : List Event) :
    Accounted writer (events.filterMap outputOf)
      (handedIn ((machine writer host).trace events))
      ((machine writer host).run events) := by
  induction events using List.reverseRecOn with
  | nil => exact ⟨nofun, nofun⟩
  | append_singleton events event ih =>
      have coherent := coherent_run writer host events
      have unburdened := unburdened_run writer host events
      have last : (events ++ [event]).filterMap outputOf =
          events.filterMap outputOf ++ (outputOf event).toList := by
        cases output : outputOf event <;> simp [output]
      rw [Machine.trace_concat, Machine.run_concat, last, handedIn_append]
      generalize (machine writer host).run events = session at ih coherent unburdened ⊢
      cases alive : session.activity.alive with
      | false =>
          rw [step_of_dead writer host alive, emits_of_dead writer host alive, handedIn_nil,
            List.append_nil]
          exact ih.mono (List.sublist_append_left _ _)
      | true =>
          rw [step_of_alive writer host alive, handedIn_emits writer host alive]
          exact ih.step alive coherent unburdened host event

theorem flatMap_put_of_takes {done : List (NetworkRequest × Sending.Output)}
    (takes : ∀ output ∈ done.map Prod.snd, output = .takes) :
    done.flatMap (put writer) = linesOf writer (done.map Prod.fst) := by
  induction done with
  | nil => rfl
  | cons turn rest ih =>
      have whole : put writer turn = Utf8.encode (turn.1.line writer) := by
        rw [put, takes turn.2 (List.mem_map_of_mem List.mem_cons_self)]
        rfl
      rw [List.flatMap_cons, whole, ih fun output inside =>
        takes output (List.mem_cons_of_mem _ inside)]
      rfl

/-- The socket carries the requests in the order in which they were handed over, each at
most once; and if it takes every line, it lacks what waits for its turn and nothing
else. -/
theorem wire_carries_requests (events : List Event) {state : Sending.State}
    {bytes : Bytes} (present : ((machine writer host).run events).threads = some state)
    (opened : state.sock = some bytes) :
    (∃ done : List (NetworkRequest × Sending.Output),
      handedIn ((machine writer host).trace events) =
        done.map Prod.fst ++ ((machine writer host).run events).tasks ∧
      (done.map Prod.snd).Sublist (events.filterMap outputOf) ∧
      bytes = done.flatMap (put writer)) ∧
    ((∀ output ∈ events.filterMap outputOf, output = .takes) →
      bytes ++ linesOf writer ((machine writer host).run events).tasks =
        linesOf writer (handedIn ((machine writer host).trace events))) := by
  have lively : state.sock ≠ none := by
    rw [opened]
    exact nofun
  obtain ⟨done, whole, turns, wire⟩ :=
    (accounted_run writer host events).carried state present (.inr lively)
  rw [opened, Option.getD_some] at wire
  refine ⟨⟨done, whole, turns, wire⟩, ?_⟩
  intro takes
  have lines := flatMap_put_of_takes writer fun output inside =>
    takes output (turns.subset inside)
  rw [wire, lines, whole, linesOf, linesOf, linesOf, List.flatMap_append]

set_option maxRecDepth 4000 in
theorem threads_bobAsks :
    ((machine GsonWriter.escaping Host.ascii).run bobAsks).threads = some {
      sockLock := none
      sock := some (Utf8.encode (NetworkRequest.line GsonWriter.escaping
        (.login { dateTime := 0, sender := "bob" })))
      reader := .reading } := rfl

theorem bobAsks_on_wire :
    Utf8.encode (NetworkRequest.line GsonWriter.escaping
        (.login { dateTime := 0, sender := "bob" })) ++
        linesOf GsonWriter.escaping
          ((machine GsonWriter.escaping Host.ascii).run bobAsks).tasks =
      linesOf GsonWriter.escaping
        (handedIn ((machine GsonWriter.escaping Host.ascii).trace bobAsks)) :=
  (wire_carries_requests GsonWriter.escaping Host.ascii bobAsks threads_bobAsks rfl).2
    (by decide)

end Runs

end Session

end AndroidMessenger.Client
