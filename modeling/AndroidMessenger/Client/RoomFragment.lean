import Mathlib.Data.List.TakeWhile
import AndroidMessenger.Client.Channels

namespace AndroidMessenger.Client

open Library Msg

/-! What an activity shows, and the tasks that the reader thread leaves to the UI thread. -/

inductive TableRow where
  | joined (date username : String)
  | info (date username : String)
  | content (text : Option String)
  deriving DecidableEq

/-- What a `RoomFragment` has once its view is created. -/
structure RoomFragment where
  mMessageTable : List TableRow
  msgText : String

namespace RoomFragment

def onViewCreated : RoomFragment where
  mMessageTable := []
  msgText := ""

variable (dateTimeFormatter : DateTime → String)

def createUserMessageElements (dateTime : DateTime) (username : String)
    (content : Option String) (room : RoomFragment) : RoomFragment :=
  { room with
    mMessageTable := room.mMessageTable ++
      [.info (dateTimeFormatter dateTime) username, .content content] }

def createLoggedInElements (dateTime : DateTime) (username : String)
    (room : RoomFragment) : RoomFragment :=
  { room with
    mMessageTable := room.mMessageTable ++ [.joined (dateTimeFormatter dateTime) username] }

end RoomFragment

/-- What is posted to the UI thread.  `execCommit` is that of the fragment manager. -/
inductive UiTask where
  | execCommit
  | showLoggedIn (joiningUsername : String)
  | resetTextField
  | createMsg (originator : String) (content : Option String)
  deriving DecidableEq

/-- The fragment in `R.id.fragment_root`.  Every `RoomFragment` has its own number.  When
the activity is destroyed its fragment is detached, and `onDetach` drops the views. -/
inductive FragmentRoot where
  | login
  | room (fragment : Nat) (room : RoomFragment)
  | detached

/-- `created` is the number of the next `RoomFragment`, and `pendingActions` has those that
were committed and do not show yet.  `mStateSaved` is that of the fragment manager. -/
structure Screen where
  root : FragmentRoot
  mStateSaved : Bool
  mRoomFragment : Option Nat
  created : Nat
  pendingActions : List Nat
  tasks : List UiTask

namespace Screen

def onCreate : Screen where
  root := .login
  mStateSaved := false
  mRoomFragment := none
  created := 0
  pendingActions := []
  tasks := []

/-- The view of `mRoomFragment`, which it has only while it is attached. -/
def room (screen : Screen) : Option RoomFragment :=
  match screen.root with
  | .login => none
  | .room fragment room => if screen.mRoomFragment = some fragment then some room else none
  | .detached => none

def setRoom (room : RoomFragment) (screen : Screen) : Screen :=
  match screen.root with
  | .login => screen
  | .room fragment _ => { screen with root := .room fragment room }
  | .detached => screen

/-! On the reader thread.  `none` is an exception that leaves it. -/

def runOnUiThread (task : UiTask) (screen : Screen) : Screen :=
  { screen with tasks := screen.tasks ++ [task] }

/-- `commit` throws once the state is saved.  The fragment manager has posted its task if
there are actions that wait for it. -/
def showRoomFragment (screen : Screen) : Option Screen :=
  if screen.mStateSaved then none
  else
    some { screen with
      mRoomFragment := some screen.created
      created := screen.created + 1
      pendingActions := screen.pendingActions ++ [screen.created]
      tasks :=
        if screen.pendingActions = [] then screen.tasks ++ [.execCommit] else screen.tasks }

def visitLogin (login : Option LoginResponse) (activity : MainActivity) (screen : Screen) :
    Option Screen :=
  match login.bind LoginResponse.joiningUsername with
  | none => some screen
  | some joiningUsername =>
      let own : Bool := some joiningUsername = activity.user
      let shown := if own then screen.showRoomFragment else some screen
      if own || activity.state = .isLoggedIn then
        shown.map (runOnUiThread (.showLoggedIn joiningUsername))
      else shown

def visitMessage (message : Option MessageResponse) (activity : MainActivity)
    (screen : Screen) : Screen :=
  if activity.state ≠ .isLoggedIn then screen
  else
    match message.bind MessageResponse.originator with
    | none => screen
    | some originator =>
        let screen :=
          if some originator = activity.user then screen.runOnUiThread .resetTextField
          else screen
        screen.runOnUiThread (.createMsg originator (message.bind MessageResponse.content))

def visit (call : ResponseCall) (activity : MainActivity) (screen : Screen) :
    Option Screen :=
  match call with
  | .visitLogin login => screen.visitLogin login activity
  | .visitMessage message => some (screen.visitMessage message activity)
  | .visitError _ => some screen

/-- What the reader thread posts when it reads the next text.  What the texts themselves
make it throw is not counted here. -/
def read {codecs : Codecs} (platform : Platform codecs) (activity : MainActivity)
    (screen : Screen) : Option Screen :=
  match activity.incoming with
  | [] => some screen
  | text :: _ =>
      match Client.visit platform text with
      | .error _ => some screen
      | .ok call => screen.visit call activity

/-! On the UI thread. -/

def execPendingActions (screen : Screen) : Screen :=
  { screen with
    root :=
      match screen.pendingActions.getLast? with
      | none => screen.root
      | some fragment => .room fragment RoomFragment.onViewCreated
    pendingActions := [] }

/-- `method.invoke`, whose exceptions are caught. -/
def invoke (change : RoomFragment → RoomFragment) (screen : Screen) : Screen :=
  match screen.room with
  | none => screen
  | some room => screen.setRoom (change room)

/-- A task of the UI thread.  `none` is an exception that leaves it. -/
def run (dateTimeFormatter : DateTime → String) (now : DateTime) (task : UiTask)
    (screen : Screen) : Option Screen :=
  match task with
  | .execCommit => some screen.execPendingActions
  | .showLoggedIn joiningUsername =>
      some (screen.invoke (RoomFragment.createLoggedInElements dateTimeFormatter now
        joiningUsername))
  | .resetTextField =>
      match screen.room with
      | none => none
      | some room => some (screen.setRoom { room with msgText := "" })
  | .createMsg originator content =>
      some (screen.invoke (RoomFragment.createUserMessageElements dateTimeFormatter now
        originator content))

def edit (msg : String) (screen : Screen) : Screen :=
  match screen.root with
  | .login => screen
  | .room fragment room => { screen with root := .room fragment { room with msgText := msg } }
  | .detached => screen

/-- The activity leaves the foreground.  What is committed is carried out first. -/
def stop (screen : Screen) : Screen :=
  { screen.execPendingActions with
    mStateSaved := true
    tasks := screen.tasks.filter (· ≠ .execCommit) }

def start (screen : Screen) : Screen :=
  { screen with
    mStateSaved :=
      match screen.root with
      | .login | .room _ _ => false
      | .detached => screen.mStateSaved }

/-- The activity is left for good, or for another one when the device is turned. -/
def destroy (screen : Screen) : Screen :=
  { screen.stop with root := .detached }

end Screen

/-! What a row says but for its date, and what a user is to see. -/

inductive Entry where
  | joined (username : String)
  | info (username : String)
  | content (text : Option String)
  deriving DecidableEq

def TableRow.entry : TableRow → Entry
  | .joined _ username => .joined username
  | .info _ username => .info username
  | .content text => .content text

def UiTask.entries : UiTask → List Entry
  | .execCommit => []
  | .showLoggedIn joiningUsername => [.joined joiningUsername]
  | .resetTextField => []
  | .createMsg originator content => [.info originator, .content content]

namespace ResponseCall

/-- What a response says to a user who is logged in. -/
def entries : ResponseCall → List Entry
  | .visitLogin login =>
      match login.bind LoginResponse.joiningUsername with
      | none => []
      | some joiningUsername => [.joined joiningUsername]
  | .visitMessage message =>
      match message.bind MessageResponse.originator with
      | none => []
      | some originator => [.info originator, .content (message.bind MessageResponse.content)]
  | .visitError _ => []

def joins (user : Option String) : ResponseCall → Bool
  | .visitLogin login =>
      match login.bind LoginResponse.joiningUsername with
      | none => false
      | some joiningUsername => some joiningUsername = user
  | _ => false

end ResponseCall

variable {codecs : Codecs} (platform : Platform codecs)

def entriesOf (text : String) : List Entry :=
  match visit platform text with
  | .error _ => []
  | .ok call => call.entries

def ownLogin (user : Option String) (text : String) : Bool :=
  match visit platform text with
  | .error _ => false
  | .ok call => call.joins user

/-- What a user who has read the texts is to see: what they say from the own login on. -/
def entriesSince (user : Option String) (texts : List String) : List Entry :=
  (texts.dropWhile fun text => !ownLogin platform user text).flatMap (entriesOf platform)

theorem entriesSince_append_of_joined {user : Option String} {texts : List String}
    (joined : ∃ text ∈ texts, ownLogin platform user text = true) (more : List String) :
    entriesSince platform user (texts ++ more) =
      entriesSince platform user texts ++ more.flatMap (entriesOf platform) := by
  have found : (texts.dropWhile fun text => !ownLogin platform user text).isEmpty = false := by
    rw [List.isEmpty_eq_false_iff]
    intro none
    obtain ⟨own, inside, isOwn⟩ := joined
    have foreign := List.dropWhile_eq_nil_iff.mp none own inside
    rw [isOwn] at foreign
    cases foreign
  rw [entriesSince, List.dropWhile_append, found, if_neg Bool.false_ne_true,
    List.flatMap_append]
  rfl

theorem entriesSince_concat_of_own {user : Option String} {texts : List String}
    (foreign : ∀ text ∈ texts, ownLogin platform user text = false) {text : String}
    (own : ownLogin platform user text = true) :
    entriesSince platform user (texts ++ [text]) = entriesOf platform text := by
  have before : ∀ text ∈ texts, (!ownLogin platform user text) = true := by
    intro other inside
    rw [foreign other inside]
    rfl
  rw [entriesSince, List.dropWhile_append_of_pos before, List.dropWhile_cons, own]
  exact List.flatMap_singleton ..

namespace Screen

def entries (screen : Screen) : List Entry :=
  ((screen.room.map RoomFragment.mMessageTable).getD []).map TableRow.entry ++
    screen.tasks.flatMap UiTask.entries

section Visit

variable {call : ResponseCall} {activity : MainActivity} (screen : Screen)

theorem visit_of_own (own : call.joins activity.user = true) :
    ∃ user, activity.user = some user ∧ call.entries = [.joined user] ∧
      screen.visit call activity =
        screen.showRoomFragment.map (runOnUiThread (.showLoggedIn user)) := by
  cases call with
  | visitLogin login =>
      cases joining : login.bind LoginResponse.joiningUsername with
      | none => simp [ResponseCall.joins, joining] at own
      | some user =>
          have named : activity.user = some user := by
            have same : some user = activity.user := by
              simpa [ResponseCall.joins, joining] using own
            exact same.symm
          refine ⟨user, named, by simp [ResponseCall.entries, joining], ?_⟩
          simp [visit, visitLogin, joining, named]
  | visitMessage message => cases own
  | visitError error => cases own

theorem visit_of_out (foreign : call.joins activity.user = false)
    (out : activity.state ≠ .isLoggedIn) : screen.visit call activity = some screen := by
  cases call with
  | visitLogin login =>
      cases joining : login.bind LoginResponse.joiningUsername with
      | none => simp [visit, visitLogin, joining]
      | some user =>
          have other : some user ≠ activity.user := by
            simpa [ResponseCall.joins, joining] using foreign
          simp [visit, visitLogin, joining, other, out]
  | visitMessage message => simp [visit, visitMessage, out]
  | visitError error => rfl

theorem visit_of_foreign (foreign : call.joins activity.user = false)
    (loggedIn : activity.state = .isLoggedIn) :
    ∃ posted, .execCommit ∉ posted ∧ posted.flatMap UiTask.entries = call.entries ∧
      screen.visit call activity = some { screen with tasks := screen.tasks ++ posted } := by
  have silent : some screen = some { screen with tasks := screen.tasks ++ [] } := by
    rw [List.append_nil]
  cases call with
  | visitLogin login =>
      cases joining : login.bind LoginResponse.joiningUsername with
      | none =>
          refine ⟨[], List.not_mem_nil, by simp [ResponseCall.entries, joining], ?_⟩
          simp [visit, visitLogin, joining]
      | some user =>
          have other : some user ≠ activity.user := by
            simpa [ResponseCall.joins, joining] using foreign
          refine ⟨[.showLoggedIn user], by simp, by simp [ResponseCall.entries, joining,
            UiTask.entries], ?_⟩
          simp [visit, visitLogin, joining, other, loggedIn, runOnUiThread]
  | visitMessage message =>
      cases origin : message.bind MessageResponse.originator with
      | none =>
          refine ⟨[], List.not_mem_nil, by simp [ResponseCall.entries, origin], ?_⟩
          simp [visit, visitMessage, origin]
      | some originator =>
          let content := message.bind MessageResponse.content
          by_cases own : some originator = activity.user
          · have named : activity.user = some originator := own.symm
            refine ⟨[.resetTextField, .createMsg originator content], by simp,
              by simp [ResponseCall.entries, origin, UiTask.entries, content], ?_⟩
            simp [visit, visitMessage, loggedIn, origin, named, runOnUiThread, content]
          · refine ⟨[.createMsg originator content], by simp,
              by simp [ResponseCall.entries, origin, UiTask.entries, content], ?_⟩
            simp [visit, visitMessage, loggedIn, origin, own, runOnUiThread, content]
  | visitError error => exact ⟨[], List.not_mem_nil, rfl, silent⟩

end Visit

section Read

variable {platform} {activity : MainActivity} (screen : Screen) {text : String}
  {rest : List String} (next : activity.incoming = text :: rest)

include next

theorem read_of_own (own : ownLogin platform activity.user text = true) :
    ∃ user, entriesOf platform text = [.joined user] ∧
      screen.read platform activity =
        screen.showRoomFragment.map (runOnUiThread (.showLoggedIn user)) := by
  simp only [read, next]
  unfold ownLogin at own
  unfold entriesOf
  split at own
  · cases own
  · rename_i call visited
    obtain ⟨user, _, entries, posted⟩ := screen.visit_of_own own
    exact ⟨user, entries, posted⟩

theorem read_of_foreign (foreign : ownLogin platform activity.user text = false) :
    (activity.state ≠ .isLoggedIn → screen.read platform activity = some screen) ∧
      ∃ posted, .execCommit ∉ posted ∧
        (activity.state = .isLoggedIn →
          posted.flatMap UiTask.entries = entriesOf platform text) ∧
        screen.read platform activity =
          some { screen with tasks := screen.tasks ++ posted } := by
  have silent : some screen = some { screen with tasks := screen.tasks ++ [] } := by
    rw [List.append_nil]
  simp only [read, next]
  unfold ownLogin at foreign
  unfold entriesOf
  split at foreign
  · exact ⟨fun _ => rfl, [], List.not_mem_nil, fun _ => rfl, silent⟩
  · refine ⟨screen.visit_of_out foreign, ?_⟩
    by_cases loggedIn : activity.state = .isLoggedIn
    · obtain ⟨posted, once, entries, same⟩ := screen.visit_of_foreign foreign loggedIn
      exact ⟨posted, once, fun _ => entries, same⟩
    · refine ⟨[], List.not_mem_nil, fun given => absurd given loggedIn, ?_⟩
      exact (screen.visit_of_out foreign loggedIn).trans silent

end Read

end Screen

variable {platform}

theorem exists_of_ownLogin {user : Option String} {text : String}
    (own : ownLogin platform user text = true) : ∃ name, user = some name := by
  unfold ownLogin at own
  split at own
  · cases own
  · rename_i call visited
    cases call with
    | visitLogin login =>
        cases joining : login.bind LoginResponse.joiningUsername with
        | none => simp [ResponseCall.joins, joining] at own
        | some name =>
            have same : some name = user := by simpa [ResponseCall.joins, joining] using own
            exact ⟨name, same.symm⟩
    | visitMessage message => cases own
    | visitError error => cases own

theorem Screen.read_of_idle {activity : MainActivity}
    (idle : activity.incoming = []) (screen : Screen) :
    screen.read platform activity = some screen := by
  rw [Screen.read, idle]

/-! What becomes of the fragment. -/

namespace Screen

variable {screen after : Screen}

theorem showRoomFragment_cases (shown : screen.showRoomFragment = some after) :
    after.root = screen.root ∧ after.mStateSaved = screen.mStateSaved := by
  unfold showRoomFragment at shown
  split at shown
  · cases shown
  · cases shown
    exact ⟨rfl, rfl⟩

/-- A reader thread leaves the fragment to the UI thread. -/
theorem read_frame {activity : MainActivity}
    (posts : screen.read platform activity = some after) :
    after.root = screen.root ∧ after.mStateSaved = screen.mStateSaved := by
  cases next : activity.incoming with
  | nil =>
      rw [read_of_idle next] at posts
      cases posts
      exact ⟨rfl, rfl⟩
  | cons text rest =>
      cases own : ownLogin platform activity.user text with
      | true =>
          obtain ⟨user, _, commits⟩ := screen.read_of_own next own
          rw [commits] at posts
          obtain ⟨shown, committed, rfl⟩ := Option.map_eq_some_iff.mp posts
          have frame := showRoomFragment_cases committed
          exact frame
      | false =>
          obtain ⟨_, posted, _, _, adds⟩ := screen.read_of_foreign next own
          rw [adds] at posts
          cases posts
          exact ⟨rfl, rfl⟩

theorem read_of_unsaved (unsaved : screen.mStateSaved = false) (activity : MainActivity) :
    ∃ after, screen.read platform activity = some after := by
  cases next : activity.incoming with
  | nil => exact ⟨screen, read_of_idle next screen⟩
  | cons text rest =>
      cases own : ownLogin platform activity.user text with
      | true =>
          obtain ⟨user, _, posts⟩ := screen.read_of_own next own
          rw [showRoomFragment, unsaved, if_neg Bool.false_ne_true] at posts
          exact ⟨_, posts⟩
      | false =>
          obtain ⟨_, posted, _, _, posts⟩ := screen.read_of_foreign next own
          exact ⟨_, posts⟩

theorem setRoom_root (room : RoomFragment)
    (detached : (screen.setRoom room).root = .detached) : screen.root = .detached := by
  unfold setRoom at detached
  split at detached
  · exact detached
  · cases detached
  · exact detached

theorem execPendingActions_root (detached : screen.execPendingActions.root = .detached) :
    screen.root = .detached := by
  unfold execPendingActions at detached
  dsimp only at detached
  split at detached
  · exact detached
  · cases detached

theorem stop_root (detached : screen.stop.root = .detached) : screen.root = .detached :=
  execPendingActions_root detached

theorem invoke_root {change : RoomFragment → RoomFragment}
    (detached : (screen.invoke change).root = .detached) : screen.root = .detached := by
  unfold invoke at detached
  split at detached
  · exact detached
  · exact setRoom_root _ detached

theorem edit_root {msg : String} (detached : (screen.edit msg).root = .detached) :
    screen.root = .detached := by
  unfold edit at detached
  split at detached
  · exact detached
  · cases detached
  · exact detached

theorem run_root {dateTimeFormatter : DateTime → String} {now : DateTime} {task : UiTask}
    (ran : screen.run dateTimeFormatter now task = some after)
    (detached : after.root = .detached) : screen.root = .detached := by
  cases task with
  | execCommit =>
      cases ran
      exact execPendingActions_root detached
  | showLoggedIn joiningUsername =>
      cases ran
      exact invoke_root detached
  | resetTextField =>
      rw [run] at ran
      split at ran
      · cases ran
      · cases ran
        exact setRoom_root _ detached
  | createMsg originator content =>
      cases ran
      exact invoke_root detached

end Screen

namespace MainActivity

theorem read_of_idle {activity : MainActivity} (idle : activity.incoming = []) :
    activity.read platform = activity := by
  unfold read
  split
  · rfl
  · rename_i connection found
    split
    · rfl
    · rename_i text rest received
      simp [incoming, found, received] at idle

theorem user_handle {call : ResponseCall} {activity after : MainActivity}
    (handled : activity.handle call = .ok after) : after.user = activity.user := by
  rcases handle_cases handled with ⟨_, rfl⟩ | ⟨_, rfl⟩
  · rfl
  · rfl

theorem user_read (platform : Platform codecs) (activity : MainActivity) :
    (activity.read platform).user = activity.user := by
  unfold read
  split
  · rfl
  · split
    · rfl
    · split
      · rfl
      · dsimp only
        split
        · rfl
        · rename_i handled
          exact (user_handle handled).trans rfl

theorem joins_of_isOwnLogin {call : ResponseCall} {activity : MainActivity}
    (own : activity.IsOwnLogin call) : call.joins activity.user = true := by
  obtain ⟨response, user, rfl, joining, named⟩ := own
  simp [ResponseCall.joins, joining, named]

theorem state_read (platform : Platform codecs) {activity : MainActivity} {text : String}
    {rest : List String} (next : activity.incoming = text :: rest)
    (foreign : ownLogin platform activity.user text = false) :
    (activity.read platform).state = activity.state := by
  unfold read
  split
  · rfl
  · rename_i connection found
    split
    · rfl
    · rename_i first others received
      obtain ⟨rfl, _⟩ : first = text ∧ others = rest := by
        simpa [incoming, found, received] using next
      split
      · rfl
      · rename_i call visited
        dsimp only
        split
        · rfl
        · rename_i handled
          rcases handle_cases handled with ⟨own, rfl⟩ | ⟨_, rfl⟩
          · have joins := joins_of_isOwnLogin own
            rw [ownLogin, visited] at foreign
            exact absurd joins (by simp [foreign])
          · rfl

end MainActivity

/-! What a user sees, after the texts that the reader thread has read. -/

variable (platform) in
inductive Shows (reads : List String) (activity : MainActivity) (screen : Screen) : Prop where
  | login (root : screen.root = .login) (fragment : screen.mRoomFragment = none)
      (pending : screen.pendingActions = []) (tasks : screen.tasks = [])
      (out : activity.state ≠ .isLoggedIn)
      (foreign : ∀ text ∈ reads, ownLogin platform activity.user text = false)
  | opening {fragment : Nat} {tasks : List UiTask} (root : screen.root = .login)
      (current : screen.mRoomFragment = some fragment)
      (pending : screen.pendingActions = [fragment])
      (posted : screen.tasks = .execCommit :: tasks) (once : .execCommit ∉ tasks)
      (joined : ∃ text ∈ reads, ownLogin platform activity.user text = true)
      (entries : activity.state = .isLoggedIn →
        screen.entries = entriesSince platform activity.user reads)
  | room {fragment : Nat} {room : RoomFragment} (root : screen.root = .room fragment room)
      (current : screen.mRoomFragment = some fragment) (pending : screen.pendingActions = [])
      (once : .execCommit ∉ screen.tasks)
      (joined : ∃ text ∈ reads, ownLogin platform activity.user text = true)
      (entries : activity.state = .isLoggedIn →
        screen.entries = entriesSince platform activity.user reads)
  | detached (root : screen.root = .detached) (pending : screen.pendingActions = [])
      (saved : screen.mStateSaved = true)

namespace Shows

variable {reads : List String} {activity : MainActivity} {screen : Screen}

theorem onCreate {activity : MainActivity} (out : activity.state ≠ .isLoggedIn) :
    Shows platform [] activity Screen.onCreate :=
  login rfl rfl rfl rfl out fun _ inside => absurd inside List.not_mem_nil

theorem entries_of_loggedIn (shows : Shows platform reads activity screen)
    (loggedIn : activity.state = .isLoggedIn) (attached : screen.root ≠ .detached) :
    (∃ text ∈ reads, ownLogin platform activity.user text = true) ∧
      screen.entries = entriesSince platform activity.user reads := by
  cases shows with
  | login root fragment pending tasks out foreign => exact absurd loggedIn out
  | opening root current pending posted once joined entries => exact ⟨joined, entries loggedIn⟩
  | room root current pending once joined entries => exact ⟨joined, entries loggedIn⟩
  | detached root pending saved => exact absurd root attached

theorem frame (shows : Shows platform reads activity screen) {after : MainActivity}
    (user : after.user = activity.user)
    (state : after.state = .isLoggedIn → activity.state = .isLoggedIn) :
    Shows platform reads after screen := by
  cases shows with
  | login root fragment pending tasks out foreign =>
      exact login root fragment pending tasks (fun loggedIn => out (state loggedIn))
        (user ▸ foreign)
  | opening root current pending posted once joined entries =>
      exact opening root current pending posted once (user ▸ joined)
        fun loggedIn => user ▸ entries (state loggedIn)
  | room root current pending once joined entries =>
      exact room root current pending once (user ▸ joined)
        fun loggedIn => user ▸ entries (state loggedIn)
  | detached root pending saved => exact detached root pending saved

theorem unread (shows : Shows platform [] activity screen) {after : MainActivity}
    (out : after.state ≠ .isLoggedIn) : Shows platform [] after screen := by
  cases shows with
  | login root fragment pending tasks _ _ =>
      exact login root fragment pending tasks out fun _ inside => absurd inside List.not_mem_nil
  | opening root current pending posted once joined entries =>
      obtain ⟨_, inside, _⟩ := joined
      exact absurd inside List.not_mem_nil
  | room root current pending once joined entries =>
      obtain ⟨_, inside, _⟩ := joined
      exact absurd inside List.not_mem_nil
  | detached root pending saved => exact detached root pending saved

theorem room_of_login (root : screen.root = .login) : screen.room = none := by
  rw [Screen.room, root]

theorem room_of_room {fragment : Nat} {room : RoomFragment}
    (root : screen.root = .room fragment room)
    (current : screen.mRoomFragment = some fragment) : screen.room = some room := by
  rw [Screen.room, root, current]
  exact if_pos rfl

theorem entries_posted (screen : Screen) (posted : List UiTask) :
    Screen.entries { screen with tasks := screen.tasks ++ posted } =
      screen.entries ++ posted.flatMap UiTask.entries := by
  rw [Screen.entries, Screen.entries, List.flatMap_append, List.append_assoc]
  rfl

section Read

variable (shows : Shows platform reads activity screen) {text : String} {rest : List String}
  (next : activity.incoming = text :: rest) {after : Screen}
  (posts : screen.read platform activity = some after)

include shows next posts

/-- With its own login an activity commits its room. -/
theorem read_own (own : ownLogin platform activity.user text = true)
    (foreign : ∀ other ∈ reads, ownLogin platform activity.user other = false) :
    Shows platform (reads ++ [text]) (activity.read platform) after := by
  have user := MainActivity.user_read platform activity
  have unjoined : ¬ ∃ other ∈ reads, ownLogin platform activity.user other = true := by
    rintro ⟨other, inside, joins⟩
    rw [foreign other inside] at joins
    cases joins
  obtain ⟨name, tells, posted⟩ := screen.read_of_own next own
  rw [posted] at posts
  cases shows with
  | opening root current pending posted none joined entries => exact absurd joined unjoined
  | room root current pending none joined entries => exact absurd joined unjoined
  | detached root pending saved =>
      rw [Screen.showRoomFragment, if_pos saved] at posts
      cases posts
  | login root fragment pending tasks out _ =>
      cases saved : screen.mStateSaved with
      | true =>
          rw [Screen.showRoomFragment, if_pos saved] at posts
          cases posts
      | false =>
          rw [Screen.showRoomFragment, saved, if_neg Bool.false_ne_true, pending,
            if_pos rfl, tasks] at posts
          cases posts
          have joined : ∃ other ∈ reads ++ [text],
              ownLogin platform (activity.read platform).user other = true :=
            ⟨text, List.mem_append_right _ List.mem_cons_self, user ▸ own⟩
          refine opening root rfl rfl rfl (by simp) joined ?_
          intro _
          rw [user, entriesSince_concat_of_own platform foreign own, tells]
          simp [Screen.entries, Screen.room, Screen.runOnUiThread, root, UiTask.entries]

theorem read_foreign (foreign : ownLogin platform activity.user text = false) :
    Shows platform (reads ++ [text]) (activity.read platform) after := by
  have user := MainActivity.user_read platform activity
  have state := MainActivity.state_read platform next foreign
  obtain ⟨idle, posted, clean, tells, adds⟩ := screen.read_of_foreign next foreign
  have more : activity.state = .isLoggedIn →
      screen.entries = entriesSince platform activity.user reads →
      (∃ other ∈ reads, ownLogin platform activity.user other = true) →
      Screen.entries { screen with tasks := screen.tasks ++ posted } =
        entriesSince platform activity.user (reads ++ [text]) := by
    intro loggedIn entries joined
    rw [entries_posted, entries, tells loggedIn,
      entriesSince_append_of_joined platform joined, List.flatMap_singleton]
  have still : (∃ other ∈ reads, ownLogin platform activity.user other = true) →
      ∃ other ∈ reads ++ [text],
        ownLogin platform (activity.read platform).user other = true := by
    rintro ⟨other, inside, joins⟩
    exact ⟨other, List.mem_append_left _ inside, user ▸ joins⟩
  cases shows with
  | login root fragment pending tasks out before =>
      obtain rfl : screen = after := Option.some.inj ((idle out).symm.trans posts)
      apply login root fragment pending tasks (state ▸ out)
      intro other inside
      rw [user]
      rcases List.mem_append.mp inside with earlier | last
      · exact before other earlier
      · exact List.mem_singleton.mp last ▸ foreign
  | @opening fragment tasks root current pending waiting none joined entries =>
      obtain rfl := Option.some.inj (adds.symm.trans posts)
      refine @opening _ _ _ _ _ fragment (tasks ++ posted) root current pending ?_ ?_
        (still joined) ?_
      · rw [waiting, List.cons_append]
      · exact fun inside => (List.mem_append.mp inside).elim none clean
      · intro loggedIn
        rw [state] at loggedIn
        rw [user]
        exact more loggedIn (entries loggedIn) joined
  | room root current pending none joined entries =>
      obtain rfl := Option.some.inj (adds.symm.trans posts)
      refine room root current pending ?_ (still joined) ?_
      · exact fun inside => (List.mem_append.mp inside).elim none clean
      · intro loggedIn
        rw [state] at loggedIn
        rw [user]
        exact more loggedIn (entries loggedIn) joined
  | detached root pending saved =>
      obtain rfl := Option.some.inj (adds.symm.trans posts)
      exact detached root pending saved

theorem read (once : ownLogin platform activity.user text = true →
    ∀ other ∈ reads, ownLogin platform activity.user other = false) :
    Shows platform (reads ++ [text]) (activity.read platform) after := by
  cases own : ownLogin platform activity.user text with
  | true => exact shows.read_own next posts own (once own)
  | false => exact shows.read_foreign next posts own

end Read

theorem run_of_room {room : RoomFragment} (attached : screen.room = some room) {task : UiTask}
    (other : task ≠ .execCommit) (dateTimeFormatter : DateTime → String) (now : DateTime) :
    ∃ after : RoomFragment,
      screen.run dateTimeFormatter now task = some (screen.setRoom after) ∧
      after.mMessageTable.map TableRow.entry =
        room.mMessageTable.map TableRow.entry ++ task.entries := by
  cases task with
  | execCommit => exact absurd rfl other
  | showLoggedIn joiningUsername =>
      refine ⟨room.createLoggedInElements dateTimeFormatter now joiningUsername, ?_, ?_⟩
      · rw [Screen.run, Screen.invoke, attached]
      · rw [RoomFragment.createLoggedInElements, List.map_append]
        rfl
  | resetTextField =>
      refine ⟨{ room with msgText := "" }, ?_, ?_⟩
      · rw [Screen.run, attached]
      · exact (List.append_nil _).symm
  | createMsg originator content =>
      refine ⟨room.createUserMessageElements dateTimeFormatter now originator content, ?_, ?_⟩
      · rw [Screen.run, Screen.invoke, attached]
      · rw [RoomFragment.createUserMessageElements, List.map_append]
        rfl

theorem run_of_detached (root : screen.root = .detached) (pending : screen.pendingActions = [])
    (dateTimeFormatter : DateTime → String) (now : DateTime) (task : UiTask) :
    screen.run dateTimeFormatter now task =
      if task = .resetTextField then none else some screen := by
  have dropped : screen.room = none := by rw [Screen.room, root]
  cases task with
  | execCommit =>
      rw [if_neg (by simp)]
      obtain ⟨root, saved, fragment, created, actions, tasks⟩ := screen
      obtain rfl : actions = [] := pending
      rfl
  | showLoggedIn joiningUsername =>
      rw [Screen.run, Screen.invoke, dropped, if_neg (by simp)]
  | resetTextField => rw [Screen.run, dropped, if_pos rfl]
  | createMsg originator content =>
      rw [Screen.run, Screen.invoke, dropped, if_neg (by simp)]

/-- Only `resetTextField` of a fragment that is detached throws, and every other task
leaves the user with what there is to see. -/
theorem run (shows : Shows platform reads activity screen) {task : UiTask}
    {tasks : List UiTask} (next : screen.tasks = task :: tasks)
    (dateTimeFormatter : DateTime → String) (now : DateTime) :
    (screen.root = .detached ∧ task = .resetTextField ∧
        Screen.run dateTimeFormatter now task { screen with tasks } = none) ∨
      ∃ after, Screen.run dateTimeFormatter now task { screen with tasks } = some after ∧
        Shows platform reads activity after := by
  cases shows with
  | login root fragment pending none out foreign =>
      rw [none] at next
      cases next
  | @opening fragment rest root current pending waiting once joined entries =>
      obtain ⟨rfl, rfl⟩ := List.cons.inj (waiting.symm.trans next)
      have opened : (Screen.execPendingActions { screen with tasks := rest }).root =
          .room fragment RoomFragment.onViewCreated := by
        simp [Screen.execPendingActions, pending]
      refine Or.inr ⟨_, rfl, room opened current rfl once joined ?_⟩
      intro loggedIn
      rw [← entries loggedIn, Screen.entries, Screen.entries, room_of_room opened current,
        room_of_login root, waiting]
      rfl
  | @room fragment view root current pending once joined entries =>
      have other : task ≠ .execCommit := by
        rintro rfl
        rw [next] at once
        exact once List.mem_cons_self
      have attached : Screen.room { screen with tasks } = some view := room_of_room root current
      obtain ⟨after, ran, rows⟩ := run_of_room attached other dateTimeFormatter now
      have kept : (Screen.setRoom after { screen with tasks }) =
          { screen with tasks, root := .room fragment after } := by
        simp [Screen.setRoom, root]
      refine Or.inr ⟨_, ran, ?_⟩
      rw [kept]
      refine @room _ _ _ _ _ fragment after rfl current pending ?_ joined ?_
      · intro inside
        rw [next] at once
        exact once (List.mem_cons_of_mem task inside)
      · intro loggedIn
        have shown : Screen.room { screen with tasks, root := .room fragment after } =
            some after := room_of_room rfl current
        rw [← entries loggedIn, Screen.entries, Screen.entries, shown,
          room_of_room root current, next, List.flatMap_cons, ← List.append_assoc]
        exact congrArg (· ++ tasks.flatMap UiTask.entries) rows
  | detached root pending saved =>
      have ran := @run_of_detached { screen with tasks } root pending dateTimeFormatter now task
      by_cases resets : task = .resetTextField
      · rw [if_pos resets] at ran
        exact Or.inl ⟨root, resets, ran⟩
      · rw [if_neg resets] at ran
        exact Or.inr ⟨_, ran, detached root pending saved⟩

theorem edit (shows : Shows platform reads activity screen) (msg : String) :
    Shows platform reads activity (screen.edit msg) := by
  cases shows with
  | login root fragment pending tasks out foreign =>
      rw [Screen.edit, root]
      exact login root fragment pending tasks out foreign
  | opening root current pending posted once joined entries =>
      rw [Screen.edit, root]
      exact opening root current pending posted once joined entries
  | @room fragment view root current pending once joined entries =>
      rw [Screen.edit, root]
      refine @room _ _ _ _ _ fragment _ rfl current pending once joined ?_
      intro loggedIn
      have shown : Screen.room { screen with
          root := .room fragment { view with msgText := msg } } =
            some { view with msgText := msg } := room_of_room rfl current
      rw [← entries loggedIn, Screen.entries, Screen.entries, room_of_room root current, shown]
      rfl
  | detached root pending saved =>
      rw [Screen.edit, root]
      exact detached root pending saved

theorem entries_withdrawn (tasks : List UiTask) :
    (tasks.filter (· ≠ .execCommit)).flatMap UiTask.entries =
      tasks.flatMap UiTask.entries := by
  induction tasks with
  | nil => rfl
  | cons task tasks ih =>
      by_cases commits : task = .execCommit
      · rw [List.filter_cons_of_neg (by simp [commits]), ih, commits]
        rfl
      · rw [List.filter_cons_of_pos (by simp [commits]), List.flatMap_cons, ih,
          List.flatMap_cons]

/-- The room opens at the latest when the activity leaves the foreground. -/
theorem stop (shows : Shows platform reads activity screen) :
    Shows platform reads activity screen.stop := by
  have withdrawn : UiTask.execCommit ∉ screen.tasks.filter (· ≠ .execCommit) := by
    simp
  cases shows with
  | login root fragment pending tasks out foreign =>
      refine login ?_ fragment rfl ?_ out foreign
      · simp [Screen.stop, Screen.execPendingActions, pending, root]
      · simp [Screen.stop, tasks]
  | @opening fragment tasks root current pending posted once joined entries =>
      have opened : screen.stop.root = .room fragment RoomFragment.onViewCreated := by
        simp [Screen.stop, Screen.execPendingActions, pending]
      refine room opened current rfl withdrawn joined ?_
      intro loggedIn
      rw [← entries loggedIn, Screen.entries, Screen.entries, room_of_room opened current,
        room_of_login root]
      exact congrArg ([] ++ ·) (entries_withdrawn screen.tasks)
  | @room fragment view root current pending once joined entries =>
      have same : screen.stop.root = .room fragment view := by
        simp [Screen.stop, Screen.execPendingActions, pending, root]
      refine room same current rfl withdrawn joined ?_
      intro loggedIn
      rw [← entries loggedIn, Screen.entries, Screen.entries, room_of_room same current,
        room_of_room root current]
      exact congrArg (_ ++ ·) (entries_withdrawn screen.tasks)
  | detached root pending saved =>
      refine detached ?_ rfl rfl
      simp [Screen.stop, Screen.execPendingActions, pending, root]

theorem start (shows : Shows platform reads activity screen) :
    Shows platform reads activity screen.start := by
  cases shows with
  | login root fragment pending tasks out foreign =>
      exact login root fragment pending tasks out foreign
  | opening root current pending posted once joined entries =>
      exact opening root current pending posted once joined entries
  | room root current pending once joined entries =>
      exact room root current pending once joined entries
  | detached root pending saved =>
      refine detached root pending ?_
      rw [Screen.start, root]
      exact saved

theorem destroy (screen : Screen) : Shows platform reads activity screen.destroy :=
  detached rfl rfl rfl

end Shows

end AndroidMessenger.Client
