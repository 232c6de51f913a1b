import AndroidMessenger.Chat.Logins

namespace AndroidMessenger.Chat

open Library Msg Networking Client

/-! The activities with their screens.  A click needs its button, and a task needs the UI
thread, which has nothing else to do meanwhile. -/

structure Rooms where
  system : System
  screens : Nat → Screen

inductive RoomsEvent where
  | shared (event : SystemEvent)
  | edit (client : Nat) (msg : String)
  | stop (client : Nat)
  | start (client : Nat)
  | destroy (client : Nat)
  | runTask (client : Nat) (now : DateTime)

namespace Rooms

def setScreen (client : Nat) (screen : Screen) (rooms : Rooms) : Rooms :=
  { rooms with screens := Function.update rooms.screens client screen }

/-- `login` is called by the button of a `LoginFragment`, and `onMsgSend` by that of a
`RoomFragment`, with the text of its field. -/
def clickable (rooms : Rooms) : SystemEvent → Bool
  | .beginLogin client _ _ =>
      match (rooms.screens client).root with
      | .login => true
      | .room _ _ | .detached => false
  | .onMsgSend client _ msg =>
      match (rooms.screens client).root with
      | .login | .detached => false
      | .room _ room => room.msgText = msg
  | _ => true

variable {codecs : Codecs} (platform : Platform codecs)
  (dateTimeFormatter : DateTime → String)

/-- What the next text of a reader thread makes of the screen. -/
def posted (rooms : Rooms) (client : Nat) : Option Screen :=
  (rooms.screens client).read platform (rooms.system.clients client)

def seen (rooms : Rooms) : SystemEvent → Nat → Screen
  | .read client =>
      if (rooms.system.clients client).alive then
        Function.update rooms.screens client
          ((rooms.posted platform client).getD (rooms.screens client))
      else rooms.screens
  | _ => rooms.screens

/-- An exception of `commit` leaves the reader thread and ends the application. -/
def thrown (rooms : Rooms) : SystemEvent → List SystemEvent
  | .read client =>
      if (rooms.system.clients client).alive ∧ (rooms.posted platform client).isNone then
        [.finish client]
      else []
  | _ => []

def share (event : SystemEvent) (rooms : Rooms) : Rooms :=
  if rooms.clickable event then
    { system := (System.machine platform).runFrom rooms.system
        (event :: rooms.thrown platform event)
      screens := rooms.seen platform event }
  else rooms

/-- The UI thread waits for something to do. -/
def UiIdle (rooms : Rooms) (client : Nat) : Prop :=
  (rooms.system.clients client).alive = true ∧
    (rooms.system.clients client).login = .returned

instance (rooms : Rooms) (client : Nat) : Decidable (rooms.UiIdle client) :=
  inferInstanceAs (Decidable (_ ∧ _))

def onUi (client : Nat) (change : Screen → Screen) (rooms : Rooms) : Rooms :=
  if rooms.UiIdle client then rooms.setScreen client (change (rooms.screens client))
  else rooms

/-- The next task of a UI thread that is free, and what it leaves. -/
def nextTask (client : Nat) (now : DateTime) (rooms : Rooms) : Option (Option Screen) :=
  if rooms.UiIdle client then
    match (rooms.screens client).tasks with
    | [] => none
    | task :: tasks =>
        some (Screen.run dateTimeFormatter now task { rooms.screens client with tasks })
  else none

/-- An exception of a task ends the application. -/
def runTask (client : Nat) (now : DateTime) (rooms : Rooms) : Rooms :=
  match rooms.nextTask dateTimeFormatter client now with
  | none => rooms
  | some none => { rooms with system := rooms.system.act client MainActivity.finish }
  | some (some screen) => rooms.setScreen client screen

def step (rooms : Rooms) : RoomsEvent → Rooms
  | .shared event => rooms.share platform event
  | .edit client msg => rooms.onUi client (Screen.edit msg)
  | .stop client => rooms.onUi client Screen.stop
  | .start client => rooms.onUi client Screen.start
  | .destroy client => rooms.onUi client Screen.destroy
  | .runTask client now => rooms.runTask dateTimeFormatter client now

variable (codecs) in
def emits (rooms : Rooms) : RoomsEvent → List Action
  | .shared event => if rooms.clickable event then rooms.system.emits codecs event else []
  | _ => []

def machine : Machine Rooms RoomsEvent Action where
  initial :=
    { system := (System.machine platform).initial
      screens _ := Screen.onCreate }
  step := step platform dateTimeFormatter
  emits := emits codecs

def behind (rooms : Rooms) : RoomsEvent → List SystemEvent
  | .shared event =>
      if rooms.clickable event then event :: rooms.thrown platform event else []
  | .edit _ _ | .stop _ | .start _ | .destroy _ => []
  | .runTask client now =>
      match rooms.nextTask dateTimeFormatter client now with
      | some none => [.finish client]
      | _ => []

variable {platform dateTimeFormatter}

theorem system_onUi (client : Nat) (change : Screen → Screen) (rooms : Rooms) :
    (rooms.onUi client change).system = rooms.system := by
  unfold onUi
  split
  · rfl
  · rfl

theorem thrown_cases (platform : Platform codecs) (rooms : Rooms) (event : SystemEvent) :
    rooms.thrown platform event = [] ∨
      ∃ client, event = .read client ∧ rooms.thrown platform event = [.finish client] := by
  cases event with
  | read client =>
      rw [thrown]
      split
      · exact Or.inr ⟨client, rfl, rfl⟩
      · exact Or.inl rfl
  | _ => exact Or.inl rfl

/-- The server has no part in the end of an application. -/
theorem traceFrom_finish (system : System) (client : Nat) :
    (System.machine platform).traceFrom system [.finish client] = [] := by
  have silent : (System.machine platform).emits system (.finish client) = [] :=
    @System.emits_of_serverEvent codecs system (.finish client) rfl
  rw [Machine.traceFrom_cons, silent]
  rfl

theorem traceFrom_thrown (rooms : Rooms) (event : SystemEvent) (system : System) :
    (System.machine platform).traceFrom system (rooms.thrown platform event) = [] := by
  rcases thrown_cases platform rooms event with none | ⟨client, _, finishes⟩
  · rw [none]
    rfl
  · rw [finishes]
    exact traceFrom_finish system client

/-- The screens add nothing to what the activities and the server do. -/
theorem refines (platform : Platform codecs) (dateTimeFormatter : DateTime → String) :
    (machine platform dateTimeFormatter).Refines (System.machine platform)
      (behind platform dateTimeFormatter) (fun rooms system => rooms.system = system) where
  initial := rfl
  step := by
    rintro rooms _ event rfl
    cases event with
    | shared event =>
        change (rooms.share platform event).system = _
        cases clicked : rooms.clickable event with
        | true => simp only [share, behind, clicked, if_true]
        | false =>
            simp only [share, behind, clicked, if_false, Bool.false_eq_true]
            rfl
    | edit client msg => exact system_onUi client _ rooms
    | stop client => exact system_onUi client _ rooms
    | start client => exact system_onUi client _ rooms
    | destroy client => exact system_onUi client _ rooms
    | runTask client now =>
        change (rooms.runTask dateTimeFormatter client now).system = _
        cases next : rooms.nextTask dateTimeFormatter client now with
        | none => simp [runTask, behind, next]
        | some after =>
            cases after with
            | none =>
                simp only [runTask, behind, next]
                rfl
            | some screen =>
                simp only [runTask, behind, next]
                rfl
  emits := by
    rintro rooms _ event rfl
    cases event with
    | shared event =>
        change rooms.emits codecs (.shared event) = _
        cases clicked : rooms.clickable event with
        | true =>
            simp only [emits, behind, clicked, if_true]
            rw [Machine.traceFrom, traceFrom_thrown, List.append_nil]
            rfl
        | false =>
            simp only [emits, behind, clicked, if_false, Bool.false_eq_true]
            rfl
    | edit client msg => rfl
    | stop client => rfl
    | start client => rfl
    | destroy client => rfl
    | runTask client now =>
        change [] = _
        cases next : rooms.nextTask dateTimeFormatter client now with
        | none => simp [behind, next]
        | some after =>
            cases after with
            | none =>
                simp only [behind, next]
                exact (traceFrom_finish rooms.system client).symm
            | some screen => simp [behind, next]

/-! What steps that read nothing leave of an activity. -/

/-- The activity keeps its user, and the step neither logs it in nor revives it. -/
structure Framed (before after : MainActivity) : Prop where
  user : after.user = before.user
  state : after.state = .isLoggedIn → before.state = .isLoggedIn
  alive : after.alive = true → before.alive = true

theorem Framed.refl (activity : MainActivity) : Framed activity activity := ⟨rfl, id, id⟩

theorem framed_of_dead {before after : MainActivity} (user : after.user = before.user)
    (state : after.state = before.state) (dead : after.alive = false) :
    Framed before after := by
  refine ⟨user, fun loggedIn => state ▸ loggedIn, fun alive => ?_⟩
  rw [dead] at alive
  cases alive

theorem framed_act {client : Nat} {change : MainActivity → MainActivity} {system : System}
    (framed : Framed (system.clients client) (change (system.clients client))) (other : Nat) :
    Framed (system.clients other) ((system.act client change).clients other) := by
  rw [System.clients_act]
  split
  · rename_i same
    rw [← same.1]
    exact framed
  · exact Framed.refl _

theorem framed_update (system : System) (client : Nat)
    (change : NetworkingConnection → NetworkingConnection) (other : Nat) :
    Framed (system.clients other)
      ((system.update client (MainActivity.onConnection change)).clients other) := by
  by_cases same : other = client
  · subst same
    rw [System.clients_update_self]
    exact ⟨rfl, id, id⟩
  · rw [System.clients_update_of_ne same]
    exact Framed.refl _

theorem framed_serve (system : System) (event : SystemEvent) (client : Nat) :
    Framed (system.clients client) ((system.serve codecs event).clients client) := by
  unfold System.serve
  split
  · cases prepares : system.serverEvent codecs event with
    | none => exact Framed.refl _
    | some pair =>
        obtain ⟨served, prepared⟩ := pair
        change Framed _ ((prepared.clients client).onConnection _)
        have own : Framed (system.clients client) (prepared.clients client) := by
          rcases System.serverEvent_cases prepares with
            ⟨joining, fd, _, _, _, rfl⟩ | ⟨reader, _, _, _, _, _, _, _, rfl | rfl⟩ | ⟨_, rfl⟩
          · exact framed_update system joining _ client
          · exact Framed.refl _
          · exact framed_update system reader _ client
          · exact Framed.refl _
        exact ⟨own.user, own.state, own.alive⟩
  · exact Framed.refl _

theorem framed_markConnected (activity : MainActivity) :
    Framed activity activity.markConnected := by
  unfold MainActivity.markConnected
  split
  · exact ⟨rfl, nofun, id⟩
  · exact Framed.refl _

theorem framed_sendLogin (now : DateTime) (activity : MainActivity) :
    Framed activity (activity.sendLogin now) := by
  unfold MainActivity.sendLogin
  split
  · split
    · exact framed_of_dead rfl rfl rfl
    · exact ⟨rfl, id, id⟩
  · exact Framed.refl _

theorem framed_endLogin (activity : MainActivity) : Framed activity activity.endLogin := by
  unfold MainActivity.endLogin
  split
  · exact ⟨rfl, nofun, id⟩
  · exact Framed.refl _

theorem framed_onMsgSend (now : DateTime) (msg : String) (activity : MainActivity) :
    Framed activity (activity.onMsgSend now msg) := by
  unfold MainActivity.onMsgSend
  split
  · exact Framed.refl _
  · split
    · exact Framed.refl _
    · split
      · exact Framed.refl _
      · split
        · exact framed_of_dead rfl rfl rfl
        · exact ⟨rfl, id, id⟩

theorem beginLogin_cases (construction : MainActivity.Construction) (user : String)
    (activity : MainActivity) :
    activity.beginLogin construction user = activity ∨
      activity.state = .noConnection ∧ activity.login = .returned ∧
        (activity.beginLogin construction user).state ≠ .isLoggedIn := by
  unfold MainActivity.beginLogin
  split
  · exact Or.inl rfl
  · rename_i idle
    split
    · exact Or.inl rfl
    · rename_i fresh
      split
      · exact Or.inl rfl
      · refine Or.inr ⟨not_not.mp fresh, not_not.mp idle, ?_⟩
        rw [not_not] at fresh
        cases construction with
        | started => simp [fresh]
        | unknownHostException => simp
        | numberFormatException => simp [fresh]

def reads (platform : Platform codecs) (events : List SystemEvent) (client : Nat) :
    List String :=
  ((System.machine platform).observing (System.readBy client)).trace events

theorem reads_append_incoming (platform : Platform codecs) (events : List SystemEvent)
    (client : Nat) :
    reads platform events client ++
        (((System.machine platform).run events).clients client).incoming =
      System.got platform events client := rfl

theorem ownLogin_unread {events : List SystemEvent} {client : Nat} {text : String}
    {rest : List String}
    (next : (((System.machine platform).run events).clients client).incoming = text :: rest)
    {name : String} (own : ownLogin platform (some name) text = true) :
    ∀ other ∈ reads platform events client, ownLogin platform (some name) other = false := by
  intro other inside
  by_contra joins
  have once := System.ownLogin_got_once platform events client name
  rw [← reads_append_incoming, next, List.countP_append, List.countP_cons_of_pos own] at once
  have before : 0 < (reads platform events client).countP (ownLogin platform (some name)) :=
    List.countP_pos_iff.mpr ⟨other, inside, by simpa using joins⟩
  omega

theorem reads_concat (events : List SystemEvent) (event : SystemEvent) (client : Nat) :
    reads platform (events ++ [event]) client = reads platform events client ++
      ((System.machine platform).run events).readBy client event :=
  (System.machine platform).observing_concat ..

theorem reads_of_absent {events : List SystemEvent} {client : Nat}
    (absent : (((System.machine platform).run events).clients client).mConnection = none) :
    reads platform events client = [] := by
  have all := System.texts_in_turn platform events client
  rw [MainActivity.sock, absent] at all
  exact (List.append_eq_nil_iff.mp all).1

section Shared

variable {events : List SystemEvent} {client : Nat}

theorem shows_framed {event : SystemEvent} {screen : Screen}
    (shows : (((System.machine platform).run events).clients client).alive = true →
      Shows platform (reads platform events client)
        (((System.machine platform).run events).clients client) screen)
    (silent : ((System.machine platform).run events).readBy client event = [])
    (framed : Framed (((System.machine platform).run events).clients client)
      (((System.machine platform).run (events ++ [event])).clients client))
    (alive : (((System.machine platform).run (events ++ [event])).clients client).alive = true) :
    Shows platform (reads platform (events ++ [event]) client)
      (((System.machine platform).run (events ++ [event])).clients client) screen := by
  rw [reads_concat, silent, List.append_nil]
  exact (shows (framed.alive alive)).frame framed.user framed.state

variable {screens : Nat → Screen}
  (shows : ∀ client, (((System.machine platform).run events).clients client).alive = true →
    Shows platform (reads platform events client)
      (((System.machine platform).run events).clients client) (screens client))

include shows

theorem shows_beginLogin (actor : Nat) (user : String)
    (construction : MainActivity.Construction)
    (alive : (((System.machine platform).run
      (events ++ [.beginLogin actor user construction])).clients client).alive = true) :
    Shows platform (reads platform (events ++ [.beginLogin actor user construction]) client)
      (((System.machine platform).run
        (events ++ [.beginLogin actor user construction])).clients client)
      (screens client) := by
  rw [Machine.run_concat] at alive
  rw [reads_concat, Machine.run_concat]
  change (System.clients (System.act actor (MainActivity.beginLogin construction user) _)
    client).alive = true at alive
  change Shows platform (reads platform events client ++ [])
    ((System.act actor (MainActivity.beginLogin construction user) _).clients client) _
  rw [System.clients_act] at alive
  rw [List.append_nil, System.clients_act]
  split
  · rename_i own
    obtain ⟨rfl, before⟩ := own
    rcases beginLogin_cases construction user
      (((System.machine platform).run events).clients actor) with same | ⟨fresh, idle, out⟩
    · rw [same]
      exact shows actor before
    · have absent := System.unopened_run platform events actor fresh idle
      have unread := shows actor before
      rw [reads_of_absent absent] at unread ⊢
      exact unread.unread out
  · rename_i other
    rw [if_neg other] at alive
    exact shows client alive

theorem shows_read (actor : Nat)
    (kept : .finish client ∉
      thrown platform { system := (System.machine platform).run events, screens }
        (.read actor))
    (alive : (((System.machine platform).run (events ++ [.read actor])).clients
      client).alive = true) :
    Shows platform (reads platform (events ++ [.read actor]) client)
      (((System.machine platform).run (events ++ [.read actor])).clients client)
      (seen platform { system := (System.machine platform).run events, screens } (.read actor)
        client) := by
  rw [Machine.run_concat] at alive
  rw [reads_concat, Machine.run_concat]
  change (System.clients (System.act actor (MainActivity.read platform) _) client).alive = true
    at alive
  change Shows platform _ ((System.act actor (MainActivity.read platform) _).clients client) _
  rw [System.clients_act] at alive
  rw [System.clients_act, System.readBy, seen]
  by_cases running : (((System.machine platform).run events).clients actor).alive = true
  · rw [if_pos running]
    by_cases own : actor = client
    · subst own
      rw [if_pos ⟨rfl, running⟩, if_pos ⟨rfl, running⟩, Function.update_self]
      cases posts : posted platform { system := (System.machine platform).run events, screens }
        actor with
      | none =>
          rw [thrown, posts, if_pos ⟨running, rfl⟩] at kept
          exact absurd List.mem_cons_self kept
      | some screen =>
          rw [posted] at posts
          cases next : (((System.machine platform).run events).clients actor).incoming with
          | nil =>
              rw [Screen.read_of_idle next] at posts
              rw [MainActivity.read_of_idle next, ← Option.some.inj posts, List.take_nil,
                List.append_nil]
              exact shows actor running
          | cons text rest =>
              refine (shows actor running).read next posts ?_
              intro own
              obtain ⟨name, named⟩ := exists_of_ownLogin own
              rw [named] at own ⊢
              exact ownLogin_unread next own
    · rw [if_neg fun both => own both.1] at alive
      rw [if_neg fun both => own both.1, if_neg fun both => own both.1, List.append_nil,
        Function.update_of_ne fun same => own same.symm]
      exact shows client alive
  · rw [if_neg fun both => running both.2] at alive
    rw [if_neg running, if_neg fun both => running both.2, if_neg fun both => running both.2,
      List.append_nil]
    exact shows client alive

theorem shows_shared (event : SystemEvent)
    (kept : .finish client ∉
      thrown platform { system := (System.machine platform).run events, screens } event)
    (alive : (((System.machine platform).run (events ++ [event])).clients client).alive = true) :
    Shows platform (reads platform (events ++ [event]) client)
      (((System.machine platform).run (events ++ [event])).clients client)
      (seen platform { system := (System.machine platform).run events, screens } event
        client) := by
  cases event with
  | beginLogin actor user construction =>
      exact shows_beginLogin shows actor user construction alive
  | read actor => exact shows_read shows actor kept alive
  | markConnected actor =>
      refine shows_framed (shows client) rfl ?_ alive
      rw [Machine.run_concat]
      exact framed_act (framed_markConnected _) client
  | sendLogin actor now =>
      refine shows_framed (shows client) rfl ?_ alive
      rw [Machine.run_concat]
      exact framed_act (framed_sendLogin now _) client
  | endLogin actor =>
      refine shows_framed (shows client) rfl ?_ alive
      rw [Machine.run_concat]
      exact framed_act (framed_endLogin _) client
  | onMsgSend actor now msg =>
      refine shows_framed (shows client) rfl ?_ alive
      rw [Machine.run_concat]
      exact framed_act (framed_onMsgSend now msg _) client
  | finish actor =>
      refine shows_framed (shows client) rfl ?_ alive
      rw [Machine.run_concat]
      exact framed_act (framed_of_dead rfl rfl rfl) client
  | onSocketServer actor accepted =>
      refine shows_framed (shows client) rfl ?_ alive
      rw [Machine.run_concat]
      exact framed_serve _ _ client
  | onSocket actor recv now writes =>
      refine shows_framed (shows client) rfl ?_ alive
      rw [Machine.run_concat]
      exact framed_serve _ _ client
  | onSTDIN line =>
      refine shows_framed (shows client) rfl ?_ alive
      rw [Machine.run_concat]
      exact framed_serve _ _ client

theorem shows_thrown (event : SystemEvent)
    (alive : (((System.machine platform).run (events ++ event ::
      thrown platform { system := (System.machine platform).run events, screens }
        event)).clients client).alive = true) :
    Shows platform (reads platform (events ++ event ::
        thrown platform { system := (System.machine platform).run events, screens } event) client)
      (((System.machine platform).run (events ++ event ::
        thrown platform { system := (System.machine platform).run events, screens }
          event)).clients client)
      (seen platform { system := (System.machine platform).run events, screens } event
        client) := by
  have moved := @shows_shared _ _ _ client _ shows event
  rcases thrown_cases platform { system := (System.machine platform).run events, screens }
    event with none | ⟨actor, _, finishes⟩
  · rw [none] at moved alive ⊢
    exact moved List.not_mem_nil alive
  · rw [finishes] at moved alive ⊢
    rw [List.append_cons] at alive ⊢
    have framed : Framed
        (((System.machine platform).run (events ++ [event])).clients client)
        (((System.machine platform).run (events ++ [event] ++ [.finish actor])).clients
          client) := by
      rw [(System.machine platform).run_concat (events ++ [event])]
      exact framed_act (framed_of_dead rfl rfl rfl) client
    refine shows_framed (fun before => moved ?_ before) rfl framed alive
    intro own
    obtain rfl : client = actor := by simpa using own
    have before := framed.alive alive
    rw [(System.machine platform).run_concat (events ++ [event])] at alive
    change (System.clients (System.act client MainActivity.finish _) client).alive = true
      at alive
    rw [System.clients_act, if_pos ⟨rfl, before⟩] at alive
    cases alive

end Shared

def underneath (platform : Platform codecs) (dateTimeFormatter : DateTime → String)
    (events : List RoomsEvent) : List SystemEvent :=
  ((machine platform dateTimeFormatter).observing (behind platform dateTimeFormatter)).trace events

variable {dateTimeFormatter : DateTime → String}

theorem underneath_concat (events : List RoomsEvent) (event : RoomsEvent) :
    underneath platform dateTimeFormatter (events ++ [event]) =
      underneath platform dateTimeFormatter events ++
        ((machine platform dateTimeFormatter).run events).behind platform dateTimeFormatter
          event :=
  (machine platform dateTimeFormatter).observing_concat ..

theorem system_run (events : List RoomsEvent) :
    ((machine platform dateTimeFormatter).run events).system =
      (System.machine platform).run (underneath platform dateTimeFormatter events) :=
  (refines platform dateTimeFormatter).run events

/-- Only a task that empties the field of a detached fragment throws, and every other one
leaves the user with what there is to see. -/
theorem nextTask_cases (dateTimeFormatter : DateTime → String) {rooms : Rooms} {client : Nat}
    {texts : List String}
    (shows : (rooms.system.clients client).alive = true →
      Shows platform texts (rooms.system.clients client) (rooms.screens client))
    (now : DateTime) :
    rooms.nextTask dateTimeFormatter client now = none ∨
      (rooms.nextTask dateTimeFormatter client now = some none ∧
        rooms.UiIdle client ∧ (rooms.screens client).root = .detached ∧
          (rooms.screens client).tasks.head? = some .resetTextField) ∨
      ∃ after, rooms.nextTask dateTimeFormatter client now = some (some after) ∧
        Shows platform texts (rooms.system.clients client) after := by
  unfold nextTask
  split
  · rename_i idle
    split
    · exact Or.inl rfl
    · rename_i task tasks next
      rcases (shows idle.1).run next dateTimeFormatter now with
        ⟨root, resets, throws⟩ | ⟨after, ran, still⟩
      · exact Or.inr (Or.inl ⟨congrArg some throws, idle, root, by rw [next, resets]; rfl⟩)
      · exact Or.inr (Or.inr ⟨after, congrArg some ran, still⟩)
  · exact Or.inl rfl

section OnUi

variable {rooms : Rooms} {texts : Nat → List String}
  (shows : ∀ client, (rooms.system.clients client).alive = true →
    Shows platform (texts client) (rooms.system.clients client) (rooms.screens client))

include shows

theorem shows_setScreen {actor : Nat} {screen : Screen}
    (own : (rooms.system.clients actor).alive = true →
      Shows platform (texts actor) (rooms.system.clients actor) screen) {client : Nat}
    (alive : (rooms.system.clients client).alive = true) :
    Shows platform (texts client) (rooms.system.clients client)
      ((rooms.setScreen actor screen).screens client) := by
  change Shows platform (texts client) (rooms.system.clients client)
    (Function.update rooms.screens actor screen client)
  by_cases same : client = actor
  · subst same
    rw [Function.update_self]
    exact own alive
  · rw [Function.update_of_ne same]
    exact shows client alive

theorem shows_onUi {change : Screen → Screen} {actor : Nat}
    (keeps : Shows platform (texts actor) (rooms.system.clients actor) (rooms.screens actor) →
      Shows platform (texts actor) (rooms.system.clients actor)
        (change (rooms.screens actor))) {client : Nat}
    (alive : (rooms.system.clients client).alive = true) :
    Shows platform (texts client) (rooms.system.clients client)
      ((rooms.onUi actor change).screens client) := by
  unfold onUi
  split
  · exact shows_setScreen shows (fun running => keeps (shows actor running)) alive
  · exact shows client alive

end OnUi

theorem shows_step {events : List SystemEvent} {rooms : Rooms}
    (same : rooms.system = (System.machine platform).run events)
    (shows : ∀ client, (rooms.system.clients client).alive = true →
      Shows platform (reads platform events client) (rooms.system.clients client)
        (rooms.screens client))
    (event : RoomsEvent) {client : Nat}
    (alive : ((rooms.step platform dateTimeFormatter event).system.clients client).alive =
      true) :
    Shows platform
      (reads platform (events ++ rooms.behind platform dateTimeFormatter event) client)
      ((rooms.step platform dateTimeFormatter event).system.clients client)
      ((rooms.step platform dateTimeFormatter event).screens client) := by
  cases event with
  | shared event =>
      rw [step] at alive ⊢
      cases clicked : rooms.clickable event with
      | true =>
          simp only [share, behind, clicked, if_true] at alive ⊢
          obtain ⟨system, screens⟩ := rooms
          obtain rfl : system = _ := same
          rw [← Machine.run_append] at alive ⊢
          exact shows_thrown shows event alive
      | false =>
          simp only [share, behind, clicked, if_false, Bool.false_eq_true,
            List.append_nil] at alive ⊢
          exact shows client alive
  | edit actor msg =>
      rw [step, system_onUi] at alive ⊢
      rw [behind, List.append_nil]
      exact shows_onUi shows (fun before => before.edit msg) alive
  | stop actor =>
      rw [step, system_onUi] at alive ⊢
      rw [behind, List.append_nil]
      exact shows_onUi shows Shows.stop alive
  | start actor =>
      rw [step, system_onUi] at alive ⊢
      rw [behind, List.append_nil]
      exact shows_onUi shows Shows.start alive
  | destroy actor =>
      rw [step, system_onUi] at alive ⊢
      rw [behind, List.append_nil]
      exact shows_onUi shows (fun _ => Shows.destroy _) alive
  | runTask actor now =>
      rcases nextTask_cases dateTimeFormatter (shows actor) now with
        none | ⟨throws, _⟩ | ⟨after, some, still⟩
      · simp only [step, runTask, behind, none, List.append_nil] at alive ⊢
        exact shows client alive
      · simp only [step, runTask, behind, throws] at alive ⊢
        obtain ⟨system, screens⟩ := rooms
        obtain rfl : system = _ := same
        have finishes : System.act actor MainActivity.finish
            ((System.machine platform).run events) =
              (System.machine platform).run (events ++ [.finish actor]) :=
          ((System.machine platform).run_concat events (.finish actor)).symm
        rw [finishes] at alive ⊢
        refine shows_framed (shows client) rfl ?_ alive
        rw [← finishes]
        exact framed_act (framed_of_dead rfl rfl rfl) client
      · simp only [step, runTask, behind, some, List.append_nil] at alive ⊢
        exact shows_setScreen shows (fun _ => still) alive

theorem shows_run (platform : Platform codecs) (dateTimeFormatter : DateTime → String)
    (events : List RoomsEvent) : ∀ client,
    (((machine platform dateTimeFormatter).run events).system.clients client).alive = true →
    Shows platform (reads platform (underneath platform dateTimeFormatter events) client)
      (((machine platform dateTimeFormatter).run events).system.clients client)
      (((machine platform dateTimeFormatter).run events).screens client) := by
  induction events using List.reverseRecOn with
  | nil =>
      intro client _
      exact Shows.onCreate fun loggedIn => by cases loggedIn
  | append_singleton events event ih =>
      intro client alive
      rw [Machine.run_concat] at alive ⊢
      rw [underneath_concat]
      exact shows_step (system_run events) ih event alive

/-! Only the end of an activity detaches its fragment. -/

theorem setScreen_root {rooms : Rooms} {actor client : Nat} {screen : Screen}
    (own : screen.root = .detached → (rooms.screens actor).root = .detached)
    (detached : ((rooms.setScreen actor screen).screens client).root = .detached) :
    (rooms.screens client).root = .detached := by
  change (Function.update rooms.screens actor screen client).root = .detached at detached
  by_cases same : client = actor
  · rw [same, Function.update_self] at detached
    rw [same]
    exact own detached
  · rw [Function.update_of_ne same] at detached
    exact detached

theorem onUi_root {rooms : Rooms} {actor client : Nat} {change : Screen → Screen}
    (own : (change (rooms.screens actor)).root = .detached →
      (rooms.screens actor).root = .detached)
    (detached : ((rooms.onUi actor change).screens client).root = .detached) :
    (rooms.screens client).root = .detached := by
  unfold onUi at detached
  split at detached
  · exact setScreen_root own detached
  · exact detached

theorem seen_root {rooms : Rooms} {event : SystemEvent} {client : Nat}
    (detached : (rooms.seen platform event client).root = .detached) :
    (rooms.screens client).root = .detached := by
  cases event with
  | read actor =>
      rw [seen] at detached
      split at detached
      · refine @setScreen_root rooms actor client
          ((rooms.posted platform actor).getD (rooms.screens actor)) (fun own => ?_) detached
        cases posts : rooms.posted platform actor with
        | none => rwa [posts] at own
        | some after =>
            rw [posts] at own
            exact (Screen.read_frame posts).1.symm.trans own
      · exact detached
  | _ => exact detached

theorem step_root {rooms : Rooms} {event : RoomsEvent} {client : Nat}
    (kept : event ≠ .destroy client)
    (detached : ((rooms.step platform dateTimeFormatter event).screens client).root =
      .detached) : (rooms.screens client).root = .detached := by
  cases event with
  | shared event =>
      rw [step, share] at detached
      split at detached
      · exact seen_root detached
      · exact detached
  | edit actor msg => exact onUi_root Screen.edit_root detached
  | stop actor => exact onUi_root Screen.stop_root detached
  | start actor => exact onUi_root id detached
  | destroy actor =>
      have other : client ≠ actor := fun same => kept (same ▸ rfl)
      rw [step, onUi] at detached
      split at detached
      · change (Function.update rooms.screens actor _ client).root = .detached at detached
        rw [Function.update_of_ne other] at detached
        exact detached
      · exact detached
  | runTask actor now =>
      rw [step, runTask] at detached
      split at detached
      · exact detached
      · exact detached
      · rename_i screen next
        refine setScreen_root (fun own => ?_) detached
        unfold nextTask at next
        split at next
        · split at next
          · cases next
          · rename_i task tasks waiting
            have before := Screen.run_root (Option.some.inj next) own
            exact before
        · cases next

theorem destroyed_of_detached {events : List RoomsEvent} {client : Nat}
    (detached : (((machine platform dateTimeFormatter).run events).screens client).root =
      .detached) : .destroy client ∈ events := by
  induction events using List.reverseRecOn with
  | nil => cases detached
  | append_singleton events event ih =>
      rw [List.mem_append, List.mem_singleton]
      by_cases last : event = .destroy client
      · exact Or.inr last.symm
      · rw [Machine.run_concat] at detached
        exact Or.inl (ih (step_root last detached))

/-- A task of a UI thread throws exactly if it empties the field of a fragment that the end
of its activity has detached, so before that none does.  A user who is logged in to an
activity that runs and is not destroyed sees, once the posted tasks have run, what has been
read since the own login, in that order. -/
theorem rooms_show_responses (platform : Platform codecs)
    (dateTimeFormatter : DateTime → String) (events : List RoomsEvent) (client : Nat) :
    (∀ now, ((machine platform dateTimeFormatter).run events).nextTask dateTimeFormatter client
        now = some none ↔
      ((machine platform dateTimeFormatter).run events).UiIdle client ∧
        (((machine platform dateTimeFormatter).run events).screens client).root = .detached ∧
        (((machine platform dateTimeFormatter).run events).screens client).tasks.head? =
          some .resetTextField) ∧
    (.destroy client ∉ events → ∀ now,
      ((machine platform dateTimeFormatter).run events).nextTask dateTimeFormatter client
        now ≠ some none) ∧
    ((((machine platform dateTimeFormatter).run events).system.clients client).alive = true →
      (((machine platform dateTimeFormatter).run events).system.clients client).state =
        .isLoggedIn →
      (((machine platform dateTimeFormatter).run events).screens client).root ≠ .detached →
      (((machine platform dateTimeFormatter).run events).screens client).entries =
        entriesSince platform
          (((machine platform dateTimeFormatter).run events).system.clients client).user
          (reads platform (underneath platform dateTimeFormatter events) client)) := by
  have shows := shows_run platform dateTimeFormatter events client
  have throws : ∀ now, ((machine platform dateTimeFormatter).run events).nextTask
      dateTimeFormatter client now = some none →
      ((machine platform dateTimeFormatter).run events).UiIdle client ∧
        (((machine platform dateTimeFormatter).run events).screens client).root = .detached ∧
        (((machine platform dateTimeFormatter).run events).screens client).tasks.head? =
          some .resetTextField := by
    intro now throws
    rcases nextTask_cases dateTimeFormatter shows now with
      none | ⟨_, detached⟩ | ⟨after, some, _⟩
    · rw [none] at throws
      cases throws
    · exact detached
    · rw [some] at throws
      cases throws
  refine ⟨fun now => ⟨throws now, ?_⟩, ?_, ?_⟩
  · rintro ⟨idle, root, resets⟩
    obtain ⟨tasks, next⟩ := List.head?_eq_some_iff.mp resets
    have dropped : Screen.room
        { ((machine platform dateTimeFormatter).run events).screens client with tasks } =
          none := by
      rw [Screen.room, root]
    rw [nextTask, if_pos idle, next]
    dsimp only
    rw [Screen.run, dropped]
  · intro kept now throwing
    exact kept (destroyed_of_detached (throws now throwing).2.1)
  · exact fun alive loggedIn attached =>
      ((shows alive).entries_of_loggedIn loggedIn attached).2

/-- The user is logged in to an activity that is not destroyed, and the server still has
the connection. -/
def InRoom (rooms : Rooms) (client : Nat) : Prop :=
  Connected rooms.system client ∧ (rooms.system.clients client).state = .isLoggedIn ∧
    (rooms.screens client).root ≠ .detached

variable (platform) in
/-- What the user sees, what the UI thread has yet to show and what the reader thread has
yet to read. -/
def outlook (rooms : Rooms) (client : Nat) : List Entry :=
  (rooms.screens client).entries ++
    (rooms.system.clients client).incoming.flatMap (entriesOf platform)

theorem outlook_of_inRoom (events : List RoomsEvent) {client : Nat}
    (inRoom : ((machine platform dateTimeFormatter).run events).InRoom client) :
    ((machine platform dateTimeFormatter).run events).outlook platform client =
      entriesSince platform
        (((machine platform dateTimeFormatter).run events).system.clients client).user
        (System.got platform (underneath platform dateTimeFormatter events) client) := by
  obtain ⟨⟨alive, _⟩, loggedIn, attached⟩ := inRoom
  have shows := shows_run platform dateTimeFormatter events client alive
  obtain ⟨joined, entries⟩ := shows.entries_of_loggedIn loggedIn attached
  rw [outlook, entries, ← entriesSince_append_of_joined platform joined,
    system_run events, reads_append_incoming]

/-- As long as nothing goes wrong, the users who are logged in see the same rows in the
same order, but for the ones before they joined and the ones that are on their way. -/
theorem rooms_agree (platform : Platform codecs) (dateTimeFormatter : DateTime → String)
    {events : List RoomsEvent}
    (meets : (System.machine platform).Meets (System.OrderlyStep codecs)
      (underneath platform dateTimeFormatter events)) :
    (∀ client, ((machine platform dateTimeFormatter).run events).InRoom client →
      ((machine platform dateTimeFormatter).run events).outlook platform client <:+
        ((Server.responses ((machine platform dateTimeFormatter).trace events)).map
          (Response.text codecs)).flatMap (entriesOf platform)) ∧
    ∀ first second, ((machine platform dateTimeFormatter).run events).InRoom first →
      ((machine platform dateTimeFormatter).run events).InRoom second →
      ((machine platform dateTimeFormatter).run events).outlook platform first <:+
          ((machine platform dateTimeFormatter).run events).outlook platform second ∨
        ((machine platform dateTimeFormatter).run events).outlook platform second <:+
          ((machine platform dateTimeFormatter).run events).outlook platform first := by
  have suffix : ∀ client, ((machine platform dateTimeFormatter).run events).InRoom client →
      ((machine platform dateTimeFormatter).run events).outlook platform client <:+
        ((Server.responses ((machine platform dateTimeFormatter).trace events)).map
          (Response.text codecs)).flatMap (entriesOf platform) := by
    intro client inRoom
    rw [outlook_of_inRoom events inRoom, (refines platform dateTimeFormatter).trace events]
    obtain ⟨⟨_, ptr, listed, listens⟩, _⟩ := inRoom
    rw [system_run events] at listed listens
    apply List.IsSuffix.flatMap
    exact (List.dropWhile_suffix _).trans (System.got_suffix meets listens listed)
  refine ⟨suffix, ?_⟩
  intro first second firstIn secondIn
  exact List.suffix_or_suffix_of_suffix (suffix first firstIn) (suffix second secondIn)

/-! As long as no task has run and no activity has left the foreground. -/

theorem share_of_unsaved {rooms : Rooms}
    (closed : ∀ client, (rooms.screens client).root = .login ∧
      (rooms.screens client).mStateSaved = false) {event : SystemEvent}
    (silent : ∀ client now msg, event ≠ .onMsgSend client now msg) :
    rooms.behind platform dateTimeFormatter (.shared event) = [event] ∧
      ∀ client, ((rooms.share platform event).screens client).root = .login ∧
        ((rooms.share platform event).screens client).mStateSaved = false := by
  have clicked : rooms.clickable event = true := by
    cases event with
    | beginLogin client user construction => rw [clickable, (closed client).1]
    | onMsgSend client now msg => exact absurd rfl (silent client now msg)
    | _ => rfl
  have posts : rooms.thrown platform event = [] ∧ ∀ client,
      (rooms.seen platform event client).root = .login ∧
        (rooms.seen platform event client).mStateSaved = false := by
    cases event with
    | read actor =>
        obtain ⟨after, posts⟩ := Screen.read_of_unsaved (closed actor).2
          (rooms.system.clients actor)
        obtain ⟨root, unsaved⟩ := Screen.read_frame posts
        have posted : rooms.posted platform actor = some after := posts
        refine ⟨?_, fun client => ?_⟩
        · rw [thrown, posted, if_neg (by simp)]
        · rw [seen, posted]
          split
          · by_cases same : client = actor
            · rw [same, Function.update_self]
              exact ⟨root.trans (closed actor).1, unsaved.trans (closed actor).2⟩
            · rw [Function.update_of_ne same]
              exact closed client
          · exact closed client
    | _ => exact ⟨rfl, closed⟩
  rw [behind, if_pos clicked, posts.1, share, if_pos clicked]
  exact ⟨rfl, posts.2⟩

theorem underneath_shared (platform : Platform codecs) (dateTimeFormatter : DateTime → String)
    (events : List SystemEvent)
    (silent : ∀ event ∈ events, ∀ client now msg, event ≠ .onMsgSend client now msg) :
    underneath platform dateTimeFormatter (events.map .shared) = events ∧
      ∀ client,
        (((machine platform dateTimeFormatter).run (events.map .shared)).screens client).root =
          .login ∧
        (((machine platform dateTimeFormatter).run (events.map .shared)).screens
          client).mStateSaved = false := by
  induction events using List.reverseRecOn with
  | nil => exact ⟨rfl, fun _ => ⟨rfl, rfl⟩⟩
  | append_singleton events event ih =>
      obtain ⟨same, closed⟩ := ih fun other inside =>
        silent other (List.mem_append_left _ inside)
      obtain ⟨one, still⟩ := share_of_unsaved closed
        (silent event (List.mem_append_right _ List.mem_cons_self))
      rw [List.map_append, List.map_singleton, underneath_concat, Machine.run_concat, same, one]
      exact ⟨rfl, still⟩

/-! Two activities that both log in as Bob, since they have both asked before the answer. -/

def plain (_ : DateTime) : String := ""

def bobsRooms : List RoomsEvent := bobTwice.map .shared

theorem silent_bobTwice : ∀ event ∈ bobTwice, ∀ client now msg,
    event ≠ SystemEvent.onMsgSend client now msg := by
  rintro event inside client now msg rfl
  simp [bobTwice, bobBegins, bobServed] at inside

theorem underneath_bobsRooms : underneath Platform.compact plain bobsRooms = bobTwice := by
  exact (underneath_shared _ _ _ silent_bobTwice).1

theorem orderly_bobTwice :
    (System.machine Platform.compact).Meets (System.OrderlyStep Codecs.compact) bobTwice := by
  have reading : ∀ client trace system,
      System.OrderlyStep Codecs.compact trace system (.read client) := by
    intro client trace system served behindIt
    obtain ⟨_, prepares⟩ := System.serverEvent_of_behind behindIt
    cases prepares
  have first := System.orderly_bobServed.concat (reading 0 _ _)
  exact first.concat (reading 1 _ _)

theorem run_bobTwice :
    (System.machine Platform.compact).run bobTwice =
      System.act 1 (MainActivity.read Platform.compact)
        (System.act 0 (MainActivity.read Platform.compact)
          ((System.machine Platform.compact).run (bothAsk ++ [bobServed]))) := by
  have split : bobTwice = bothAsk ++ [bobServed] ++ [.read 0] ++ [.read 1] := rfl
  rw [split, Machine.run_concat, Machine.run_concat]
  generalize (System.machine Platform.compact).run (bothAsk ++ [bobServed]) = system
  rfl

theorem inRoom_bobTwice (client : Nat) (either : client = 0 ∨ client = 1) :
    Connected ((System.machine Platform.compact).run bobTwice) client ∧
      (((System.machine Platform.compact).run bobTwice).clients client).state =
        .isLoggedIn := by
  obtain ⟨first, second⟩ := clients_served
  have listed := System.listed_bobServed
  rw [run_bobTwice]
  generalize (System.machine Platform.compact).run (bothAsk ++ [bobServed]) = system at *
  unfold Connected
  rw [System.process_act, System.process_act, listed]
  have alive : ∀ ptr sent, (bobAnswered ptr sent).alive = true := fun _ _ => rfl
  rcases either with rfl | rfl
  · simp [System.clients_act, first, alive, read_bobAnswered, bobAsking, MainActivity.sock]
  · simp [System.clients_act, second, alive, read_bobAnswered, bobAsking, MainActivity.sock]

theorem inRoom_bobsRooms (client : Nat) (either : client = 0 ∨ client = 1) :
    ((machine Platform.compact plain).run bobsRooms).InRoom client := by
  obtain ⟨connected, loggedIn⟩ := inRoom_bobTwice client either
  have root := ((underneath_shared Platform.compact plain bobTwice silent_bobTwice).2 client).1
  refine ⟨?_, ?_, ?_⟩
  · rw [system_run, underneath_bobsRooms]
    exact connected
  · rw [system_run, underneath_bobsRooms]
    exact loggedIn
  · rw [bobsRooms, root]
    exact nofun

theorem bobsRooms_agree :
    ((machine Platform.compact plain).run bobsRooms).outlook Platform.compact 0 <:+
        ((machine Platform.compact plain).run bobsRooms).outlook Platform.compact 1 ∨
      ((machine Platform.compact plain).run bobsRooms).outlook Platform.compact 1 <:+
        ((machine Platform.compact plain).run bobsRooms).outlook Platform.compact 0 := by
  have orderly := orderly_bobTwice
  rw [← underneath_bobsRooms] at orderly
  apply (rooms_agree Platform.compact plain orderly).2 0 1
  · exact inRoom_bobsRooms 0 (Or.inl rfl)
  · exact inRoom_bobsRooms 1 (Or.inr rfl)

end Rooms

end AndroidMessenger.Chat
