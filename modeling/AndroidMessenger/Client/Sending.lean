import AndroidMessenger.Client.Gson
import AndroidMessenger.Library.Machine
import AndroidMessenger.Library.Utf8

namespace AndroidMessenger.Client

open Library Msg

/-! The threads of one `NetworkingConnection`.  What a thread does from
`sockLock.lock()` up to the end of its section is one step. -/

inductive Thread where
  | reader
  | task
  deriving DecidableEq

inductive ReaderPhase where
  | started
  | reading
  | ended
  deriving DecidableEq

/-- A task that `send` has made and that is executed: what
`message.toJson().toString()` gives, and whether there is a `successHandler`. -/
structure SendTask where
  text : String
  successHandler : Bool

/-- An `IOException` that reaches the `catch` clause of the task. -/
inductive IoException where
  | getOutputStream
  deriving DecidableEq

inductive Callback where
  | onSuccess
  | onError (err : IoException)
  deriving DecidableEq

structure Report where
  thrown : Option JavaExn
  callback : Option Callback
  deriving DecidableEq

namespace Sending

/-- `_sock` is kept as the bytes that were put on it. -/
structure State where
  sockLock : Option Thread
  sock : Option Bytes
  reader : ReaderPhase

namespace State

/-- `sockLock.lock()`, where a thread that finds the lock taken waits. -/
def lock (thread : Thread) (state : State) : Option State :=
  match state.sockLock with
  | none => some { state with sockLock := some thread }
  | some _ => none

def unlock (state : State) : State := { state with sockLock := none }

end State

/-- How the section in which the reader connects is left. -/
inductive Attempt where
  | opened
  | newSocket
  | getInputStream
  deriving DecidableEq

/-- `ReaderThread.run` up to its loop.  Nothing unlocks on the way to the `catch`
clause, and the thread ends behind it. -/
def connect (attempt : Attempt) (state : State) : State :=
  match state.reader, state.lock .reader with
  | .started, some state =>
      match attempt with
      | .opened => { state with sock := some [], reader := .reading }.unlock
      | .newSocket => { state with reader := .ended }
      | .getInputStream => { state with sock := some [], reader := .ended }
  | _, _ => state

/-- The loop of `ReaderThread.run` is left, at the end of the stream or by an
exception. -/
def leaveLoop (state : State) : State :=
  match state.reader with
  | .reading => { state with reader := .ended }
  | _ => state

/-- What the socket does with a line. -/
inductive Output where
  | getOutputStreamFails
  | breaks (count : Nat)
  | takes
  deriving DecidableEq

/-- The bytes that `println` puts on a socket.  It keeps an `IOException` to itself. -/
def println (line : Bytes) : Output → Bytes
  | .breaks count => line.take count
  | _ => line

/-- The body of the `try` clause: what it puts on `_sock`, or what it throws. -/
def transmit (task : SendTask) (output : Output) (sock : Option Bytes) :
    Except (JavaExn ⊕ IoException) Bytes :=
  match sock, output with
  | none, _ => .error (.inl .nullPointerException)
  | some _, .getOutputStreamFails => .error (.inr .getOutputStream)
  | some _, output => .ok (println (Utf8.encode (task.text ++ "\n")) output)

def onPostExecute (task : SendTask) (err : Option IoException) : Option Callback :=
  if err = none ∧ task.successHandler = true then some .onSuccess
  else err.map .onError

/-- `doInBackground`, and `onPostExecute` if it returned. -/
def doInBackground (task : SendTask) (output : Output) (state : State) :
    Option (Report × State) :=
  (state.lock .task).map fun state =>
    match transmit task output state.sock with
    | .error (.inl exn) => ({ thrown := some exn, callback := none }, state.unlock)
    | .error (.inr err) =>
        ({ thrown := none, callback := onPostExecute task (some err) }, state.unlock)
    | .ok bytes =>
        ({ thrown := none, callback := onPostExecute task none },
          { state with sock := state.sock.map fun before => before ++ bytes }.unlock)

theorem reader_doInBackground {task : SendTask} {output : Output} {state after : State}
    {report : Report} (done : doInBackground task output state = some (report, after)) :
    after.reader = state.reader := by
  obtain ⟨sockLock, sock, reader⟩ := state
  cases sockLock with
  | some thread => cases done
  | none =>
      simp only [doInBackground, State.lock, Option.map_some, Option.some.injEq] at done
      split at done
      · exact congrArg State.reader (Prod.mk.inj done).2.symm
      · exact congrArg State.reader (Prod.mk.inj done).2.symm
      · have same := (Prod.mk.inj done).2.symm
        rw [same]
        rfl

inductive Event where
  | connect (attempt : Attempt)
  | leaveLoop
  | send (task : SendTask) (output : Output)

inductive Action where
  | finished (task : SendTask) (report : Report)
  | waits (task : SendTask)

def step (state : State) : Event → State
  | .connect attempt => connect attempt state
  | .leaveLoop => leaveLoop state
  | .send task output =>
      match doInBackground task output state with
      | some (_, state) => state
      | none => state

def emits (state : State) : Event → List Action
  | .connect _ => []
  | .leaveLoop => []
  | .send task output =>
      match doInBackground task output state with
      | some (report, _) => [.finished task report]
      | none => [.waits task]

/-- The constructor, which starts the reader thread. -/
def start : State where
  sockLock := none
  sock := none
  reader := .started

def machine : Machine State Event Action where
  initial := start
  step := step
  emits := emits

/-! What a task owes to its caller. -/

def Puts (task : SendTask) (before after : State) : Prop :=
  ∃ bytes line, before.sock = some bytes ∧ after.sock = some (bytes ++ line) ∧
    Utf8.encode task.text <+: line

def Succeeds (task : SendTask) (report : Report) : Prop :=
  report.thrown = none ∧
    (task.successHandler = true → report.callback = some .onSuccess)

/-- The task sends its text and reports success, or it reports an error. -/
structure Serves (state : State) (task : SendTask) (output : Output) : Prop where
  answers : ∃ report, machine.emits state (.send task output) = [.finished task report] ∧
    (Puts task state (machine.step state (.send task output)) ∧ Succeeds task report ∨
      ∃ err, report.callback = some (.onError err))
  connected : ∀ report,
    .finished task report ∈ machine.emits state (.send task output) →
    report.thrown ≠ some .nullPointerException
  honest : ∀ report,
    .finished task report ∈ machine.emits state (.send task output) →
    report.callback = some .onSuccess →
    Puts task state (machine.step state (.send task output))
  unblocked : .waits task ∈ machine.emits state (.send task output) →
    ¬ (state.sockLock = some .reader ∧ state.reader = .ended)

def ServesSends (_ : List Action) (state : State) : Event → Prop
  | .send task output => Serves state task output
  | _ => True

def attemptOf : Event → Option Attempt
  | .connect attempt => some attempt
  | .leaveLoop => none
  | .send _ _ => none

/-- The attempt to connect, of which there is one. -/
def attempted (events : List Event) : Option Attempt := events.findSome? attemptOf

/-- The socket does not break within the text. -/
def Carries (task : SendTask) : Output → Prop
  | .getOutputStreamFails => True
  | .breaks count => (Utf8.encode task.text).length ≤ count
  | .takes => True

/-! What the attempt to connect leaves behind, for the rest of the run. -/

inductive Reached : Option Attempt → State → Prop
  | early : Reached none start
  | connected (bytes : Bytes) (reader : ReaderPhase) (connecting : reader ≠ .started) :
      Reached (some .opened) { sockLock := none, sock := some bytes, reader }
  | refused {attempt : Attempt} (failed : attempt ≠ .opened) (sock : Option Bytes) :
      Reached (some attempt) { sockLock := some .reader, sock, reader := .ended }

namespace Reached

variable {first : Option Attempt} {state : State}

theorem connect (reached : Reached first state) (attempt : Attempt) :
    Reached (first.or (some attempt)) (connect attempt state) := by
  cases reached with
  | early =>
      cases attempt with
      | opened => exact connected [] .reading nofun
      | newSocket => exact refused (by decide) none
      | getInputStream => exact refused (by decide) (some [])
  | connected bytes reader connecting =>
      cases reader with
      | started => exact absurd rfl connecting
      | reading => exact connected bytes _ connecting
      | ended => exact connected bytes _ connecting
  | refused failed sock => exact refused failed sock

theorem leaveLoop (reached : Reached first state) :
    Reached first (leaveLoop state) := by
  cases reached with
  | early => exact early
  | connected bytes reader connecting =>
      cases reader with
      | started => exact absurd rfl connecting
      | reading => exact connected bytes .ended nofun
      | ended => exact connected bytes _ connecting
  | refused failed sock => exact refused failed sock

theorem send (reached : Reached first state) (task : SendTask) (output : Output) :
    Reached first (machine.step state (.send task output)) := by
  cases reached with
  | early => exact early
  | connected bytes reader connecting =>
      cases output with
      | getOutputStreamFails => exact connected bytes _ connecting
      | breaks count => exact connected _ reader connecting
      | takes => exact connected _ reader connecting
  | refused failed sock => exact refused failed sock

theorem step (reached : Reached first state) (event : Event) :
    Reached (first.or (attemptOf event)) (machine.step state event) := by
  cases event with
  | connect attempt => exact reached.connect attempt
  | leaveLoop =>
      rw [attemptOf, Option.or_none]
      exact reached.leaveLoop
  | send task output =>
      rw [attemptOf, Option.or_none]
      exact reached.send task output

end Reached

theorem reached_run (events : List Event) :
    Reached (attempted events) (machine.run events) := by
  induction events using List.reverseRecOn with
  | nil => exact .early
  | append_singleton events event ih =>
      have last : attempted (events ++ [event]) =
          (attempted events).or (attemptOf event) := by
        simp [attempted, List.findSome?_append]
      rw [last, Machine.run_concat]
      exact ih.step event

/-! What a task does in each of these states. -/

theorem prefix_println_iff (task : SendTask) {output : Output}
    (stream : output ≠ .getOutputStreamFails) :
    Utf8.encode task.text <+: println (Utf8.encode (task.text ++ "\n")) output ↔
      Carries task output := by
  have line : Utf8.encode task.text <+: Utf8.encode (task.text ++ "\n") := by
    rw [Utf8.encode_append]
    exact List.prefix_append _ _
  cases output with
  | getOutputStreamFails => exact absurd rfl stream
  | breaks count =>
      rw [println, List.prefix_take_iff, and_iff_right line]
      rfl
  | takes => exact iff_of_true line trivial

theorem onPostExecute_none_ne (task : SendTask) (err : IoException) :
    onPostExecute task none ≠ some (.onError err) := by
  cases present : task.successHandler with
  | true => simp [onPostExecute, present]
  | false => simp [onPostExecute, present]

theorem succeeds_onPostExecute (task : SendTask) :
    Succeeds task { thrown := none, callback := onPostExecute task none } := by
  refine ⟨rfl, ?_⟩
  intro present
  simp [onPostExecute, present]

theorem serves_getOutputStreamFails (bytes : Bytes) (reader : ReaderPhase)
    (task : SendTask) :
    Serves { sockLock := none, sock := some bytes, reader } task
      .getOutputStreamFails where
  answers := ⟨_, rfl, .inr ⟨.getOutputStream, rfl⟩⟩
  connected := by
    intro report inside
    obtain rfl := (Action.finished.inj (List.mem_singleton.mp inside)).2
    exact nofun
  honest := by
    intro report inside told
    obtain rfl := (Action.finished.inj (List.mem_singleton.mp inside)).2
    simp [onPostExecute] at told
  unblocked := by
    intro waits
    exact absurd (List.mem_singleton.mp waits) nofun

theorem serves_println_iff (bytes : Bytes) (reader : ReaderPhase) (task : SendTask)
    {output : Output} (stream : output ≠ .getOutputStreamFails) :
    Serves { sockLock := none, sock := some bytes, reader } task output ↔
      Carries task output := by
  have emitted : machine.emits { sockLock := none, sock := some bytes, reader }
      (.send task output) =
        [.finished task { thrown := none, callback := onPostExecute task none }] := by
    cases output with
    | getOutputStreamFails => exact absurd rfl stream
    | breaks count => rfl
    | takes => rfl
  have after : (machine.step { sockLock := none, sock := some bytes, reader }
      (.send task output)).sock =
        some (bytes ++ println (Utf8.encode (task.text ++ "\n")) output) := by
    cases output with
    | getOutputStreamFails => exact absurd rfl stream
    | breaks count => rfl
    | takes => rfl
  rw [← prefix_println_iff task stream]
  constructor
  · intro serves
    obtain ⟨report, finished, outcome⟩ := serves.answers
    rw [emitted] at finished
    obtain rfl := (Action.finished.inj (List.singleton_inj.mp finished)).2
    rcases outcome with ⟨puts, _⟩ | ⟨err, reported⟩
    · obtain ⟨before, line, old, new, whole⟩ := puts
      obtain rfl := Option.some.inj old
      rw [after] at new
      rw [List.append_cancel_left (Option.some.inj new)]
      exact whole
    · exact absurd reported (onPostExecute_none_ne task err)
  · intro whole
    have puts : Puts task { sockLock := none, sock := some bytes, reader }
        (machine.step { sockLock := none, sock := some bytes, reader }
          (.send task output)) := ⟨bytes, _, rfl, after, whole⟩
    refine ⟨⟨_, emitted, .inl ⟨puts, succeeds_onPostExecute task⟩⟩, ?_, ?_, ?_⟩
    · intro report inside
      rw [emitted] at inside
      obtain rfl := (Action.finished.inj (List.mem_singleton.mp inside)).2
      exact nofun
    · intro report _ _
      exact puts
    · intro waits
      rw [emitted] at waits
      exact absurd (List.mem_singleton.mp waits) nofun

theorem Reached.serves_iff {first : Option Attempt} {state : State}
    (reached : Reached first state) (task : SendTask) (output : Output) :
    Serves state task output ↔ first = some .opened ∧ Carries task output := by
  cases reached with
  | early =>
      apply iff_of_false
      · intro serves
        exact serves.connected _ (List.mem_singleton.mpr rfl) rfl
      · simp
  | connected bytes reader connecting =>
      rw [and_iff_right rfl]
      cases output with
      | getOutputStreamFails =>
          exact iff_of_true (serves_getOutputStreamFails bytes reader task) trivial
      | breaks count => exact serves_println_iff bytes reader task nofun
      | takes => exact serves_println_iff bytes reader task nofun
  | refused failed sock =>
      apply iff_of_false
      · intro serves
        exact serves.unblocked (List.mem_singleton.mpr rfl) ⟨rfl, rfl⟩
      · intro given
        exact failed (Option.some.inj given.1)

/-- The tasks keep what they owe when their turn comes after the socket was opened and
the socket does not break within a text, and only then. -/
theorem servesSends_iff (events : List Event) :
    machine.Meets ServesSends events ↔
      ∀ before task output after, events = before ++ .send task output :: after →
        attempted before = some .opened ∧ Carries task output := by
  constructor
  · intro meets before task output after equality
    have serves : Serves (machine.run before) task output :=
      meets before (.send task output) after equality
    exact ((reached_run before).serves_iff task output).mp serves
  · intro timely before event after equality
    cases event with
    | connect attempt => trivial
    | leaveLoop => trivial
    | send task output =>
        exact ((reached_run before).serves_iff task output).mpr
          (timely before task output after equality)

/-! A sender that is faster than the reader, a reader that is refused, and a socket that
breaks. -/

def greeting : SendTask where
  text := "hi"
  successHandler := true

theorem sends_fail_around_connect :
    machine.trace [.send greeting .takes] =
        [.finished greeting { thrown := some .nullPointerException, callback := none }] ∧
      machine.trace [.connect .newSocket, .send greeting .takes] = [.waits greeting] ∧
      machine.trace [.connect .opened, .send greeting (.breaks 0)] =
        [.finished greeting { thrown := none, callback := some .onSuccess }] ∧
      (machine.run [.connect .opened, .send greeting (.breaks 0)]).sock = some [] ∧
      ¬ machine.Meets ServesSends [.send greeting .takes] := by
  refine ⟨rfl, rfl, rfl, rfl, ?_⟩
  intro meets
  have serves : Serves start greeting .takes := meets [] (.send greeting .takes) [] rfl
  exact serves.connected _ (List.mem_singleton.mpr rfl) rfl

end Sending

end AndroidMessenger.Client
