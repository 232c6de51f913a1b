import AndroidMessenger.Chat.Coherence

namespace AndroidMessenger.Chat

open Library Msg Networking Client

variable {codecs : Codecs}

/-! The whole system. -/

structure Invariant (codecs : Codecs) (trace : List Action) (system : System) : Prop where
  served : ∃ events, system.process = (Server.machine codecs).run events ∧
    trace = (Server.machine codecs).trace events
  accepted : ∀ client ptr, (system.clients client).sock = some ptr →
    .accepted ptr ∈ trace
  apart : ∀ first second ptr, (system.clients first).sock = some ptr →
    (system.clients second).sock = some ptr → first = second
  coherent : ∀ client, (system.clients client).alive = true →
    Coherent codecs trace (system.clients client)

/-- The activity runs, and the server lists its socket. -/
def Connected (system : System) (client : Nat) : Prop :=
  (system.clients client).alive = true ∧
    ∃ ptr ∈ system.process.server.socketList, (system.clients client).sock = some ptr

/-- When the server is about to grant a name, no connected activity but the one that
asks for it has it as its user. -/
def Unrivalled (codecs : Codecs) (_ : List Action) (system : System) :
    SystemEvent → Prop
  | .onSocket client recv now writes => ∀ ptr json req,
      (system.clients client).sock = some ptr →
      Server.visits codecs (.socket ptr recv now writes) system.process.server =
        some (ptr, json, .visitLogin req) →
      req.sender ∉ system.process.server.clientNames →
      ∀ other, other ≠ client → Connected system other →
        (system.clients other).user ≠ some req.sender
  | _ => True

namespace Invariant

variable {trace : List Action} {system : System}

theorem initial (platform : Platform codecs) :
    Invariant codecs [] (System.machine platform).initial where
  served := ⟨[], rfl, rfl⟩
  accepted _ _ listens := by cases listens
  apart _ _ _ listens := by cases listens
  coherent _ _ := Coherent.onCreate

theorem act (held : Invariant codecs trace system) (client : Nat)
    {change : MainActivity → MainActivity}
    (sock : ∀ activity ptr, (change activity).sock = some ptr → activity.sock = some ptr)
    (keeps : ∀ activity, Coherent codecs trace activity →
      Coherent codecs trace (change activity)) :
    Invariant codecs trace (system.act client change) := by
  unfold System.act
  split
  · rename_i alive
    have socks : ∀ other ptr, ((system.update client change).clients other).sock = some ptr →
        (system.clients other).sock = some ptr := by
      intro other ptr listens
      by_cases same : other = client
      · subst same
        rw [System.clients_update_self] at listens
        exact sock _ _ listens
      · rwa [System.clients_update_of_ne same] at listens
    refine ⟨held.served, ?_, ?_, ?_⟩
    · intro other ptr listens
      exact held.accepted other ptr (socks other ptr listens)
    · intro first second ptr left right
      exact held.apart first second ptr (socks first ptr left) (socks second ptr right)
    · intro other running
      by_cases same : other = client
      · subst same
        rw [System.clients_update_self]
        exact keeps _ (held.coherent other alive)
      · rw [System.clients_update_of_ne same] at running ⊢
        exact held.coherent other running
  · exact held

theorem react (held : Invariant codecs trace system)
    (running : system.process.running = true) {prepared : System} {event : Event}
    (process : prepared.process = system.process)
    (accepted : ∀ client ptr, (prepared.clients client).sock = some ptr →
      .accepted ptr ∈ trace ++ (system.process.server.react codecs event).actions)
    (apart : ∀ first second ptr, (prepared.clients first).sock = some ptr →
      (prepared.clients second).sock = some ptr → first = second)
    (coherent : ∀ client, (prepared.clients client).alive = true →
      Coherent codecs trace (prepared.clients client))
    (unrivalled : ∀ client ptr asker json login,
      (prepared.clients client).alive = true →
      (prepared.clients client).sock = some ptr →
      ptr ∈ system.process.server.socketList →
      (prepared.clients client).user = some login.username →
      .answered asker json (.login login) ∈
        (system.process.server.react codecs event).actions → asker = ptr) :
    Invariant codecs (trace ++ (system.process.server.react codecs event).actions)
      (prepared.react codecs event) := by
  have emits := @Server.emits_of_running codecs _ running event
  refine ⟨?_, ?_, ?_, ?_⟩
  · obtain ⟨events, same, history⟩ := held.served
    refine ⟨events ++ [event], ?_, ?_⟩
    · rw [Machine.run_concat, ← same, ← process]
      rfl
    · rw [Machine.trace_concat, ← same, ← history, emits]
  · intro client ptr listens
    exact accepted client ptr (by
      simpa [System.react, MainActivity.sock_receive] using listens)
  · intro first second ptr left right
    exact apart first second ptr
      (by simpa [System.react, MainActivity.sock_receive] using left)
      (by simpa [System.react, MainActivity.sock_receive] using right)
  · intro client alive
    have alive : (prepared.clients client).alive = true := alive
    refine ((coherent client alive).append _).receive ?_
    intro ptr listens text inside
    rw [process, emits, mem_textsTo_iff] at inside
    obtain ⟨listed, _, asker, json, res, answered⟩ := Server.answered_of_wrote inside
    refine ⟨res, wrote_text answered inside, ?_⟩
    intro login same name
    subst same
    obtain ⟨granted, _⟩ := granted_of_answered answered
    rw [unrivalled client ptr asker json login alive listens listed name answered] at granted
    rw [Server.Granted, Server.grants_append]
    exact List.mem_append_right _ granted

theorem accept (held : Invariant codecs trace system)
    (running : system.process.running = true) {client : Nat} (fd : Nat)
    (alive : (system.clients client).alive = true)
    (closed : (system.clients client).sock = none) :
    Invariant codecs
      (trace ++ (system.process.server.react codecs
        (.socketServer (.connection fd))).actions)
      ((system.update client (MainActivity.accept system.process.server.nextPtr)).react
        codecs (.socketServer (.connection fd))) := by
  have socks : ∀ other ptr,
      ((system.update client
        (MainActivity.accept system.process.server.nextPtr)).clients other).sock = some ptr →
      other = client ∧ ptr = system.process.server.nextPtr ∨
        other ≠ client ∧ (system.clients other).sock = some ptr := by
    intro other ptr listens
    by_cases same : other = client
    · subst same
      rw [System.clients_update_self] at listens
      exact Or.inl ⟨rfl, (MainActivity.eq_of_sock_accept listens).symm⟩
    · rw [System.clients_update_of_ne same] at listens
      exact Or.inr ⟨same, listens⟩
  have fresh : ∀ other, (system.clients other).sock ≠
      some system.process.server.nextPtr := by
    intro other listens
    have inside := held.accepted other _ listens
    obtain ⟨events, process, history⟩ := held.served
    rw [history] at inside
    rw [process] at inside
    exact Nat.lt_irrefl _ ((Server.registry codecs events).fresh _ inside)
  refine held.react running rfl ?_ ?_ ?_ ?_
  · intro other ptr listens
    rcases socks other ptr listens with ⟨_, rfl⟩ | ⟨_, listens⟩
    · exact List.mem_append_right _ List.mem_cons_self
    · exact List.mem_append_left _ (held.accepted other ptr listens)
  · intro first second ptr left right
    rcases socks first ptr left with ⟨rfl, rfl⟩ | ⟨_, opened⟩
    · rcases socks second _ right with ⟨rfl, _⟩ | ⟨_, opened⟩
      · rfl
      · exact absurd opened (fresh second)
    · rcases socks second ptr right with ⟨rfl, rfl⟩ | ⟨_, other⟩
      · exact absurd opened (fresh first)
      · exact held.apart first second ptr opened other
  · intro other live
    by_cases same : other = client
    · subst same
      rw [System.clients_update_self]
      exact (held.coherent other alive).accept closed _
    · rw [System.clients_update_of_ne same] at live ⊢
      exact held.coherent other live
  · intro other ptr asker json login _ _ _ _ answered
    obtain ⟨_, _, _, _, _, equality, _⟩ := Server.visit_of_answered answered
    cases equality

theorem onSocket (held : Invariant codecs trace system)
    (running : system.process.running = true) {client : Nat} {recv : Recv}
    {now : TimePoint} {writes : Nat → WriteOutcome} {ptr : SocketPtr}
    (guarded : Unrivalled codecs trace system (.onSocket client recv now writes))
    (listens : (system.clients client).sock = some ptr) {prepared : System}
    (prepares : prepared = system ∨
      prepared = system.update client MainActivity.takeRequest) :
    Invariant codecs
      (trace ++ (system.process.server.react codecs (.socket ptr recv now writes)).actions)
      (prepared.react codecs (.socket ptr recv now writes)) := by
  have same : prepared.process = system.process ∧ ∀ other,
      (prepared.clients other).sock = (system.clients other).sock ∧
      (prepared.clients other).user = (system.clients other).user ∧
      (prepared.clients other).alive = (system.clients other).alive ∧
      (Coherent codecs trace (system.clients other) →
        Coherent codecs trace (prepared.clients other)) := by
    rcases prepares with rfl | rfl
    · exact ⟨rfl, fun other => ⟨rfl, rfl, rfl, id⟩⟩
    · refine ⟨rfl, fun other => ?_⟩
      by_cases same : other = client
      · subst same
        rw [System.clients_update_self]
        exact ⟨MainActivity.sock_takeRequest _, rfl, rfl, Coherent.takeRequest⟩
      · rw [System.clients_update_of_ne same]
        exact ⟨rfl, rfl, rfl, id⟩
  obtain ⟨process, clients⟩ := same
  refine held.react running process ?_ ?_ ?_ ?_
  · intro other target opened
    rw [(clients other).1] at opened
    exact List.mem_append_left _ (held.accepted other target opened)
  · intro first second target left right
    rw [(clients first).1] at left
    rw [(clients second).1] at right
    exact held.apart first second target left right
  · intro other alive
    obtain ⟨_, _, live, keeps⟩ := clients other
    exact keeps (held.coherent other (live ▸ alive))
  · intro other target asker json login alive opened listed name answered
    obtain ⟨sock, user, live, _⟩ := clients other
    obtain ⟨_, req, visited, free, equality⟩ := granted_of_answered answered
    obtain ⟨_, _, _, event, _⟩ := Server.visits_eq_some_iff.mp visited
    obtain rfl : ptr = asker := by cases event; rfl
    by_cases own : other = client
    · subst own
      rw [sock, listens] at opened
      exact Option.some.inj opened
    · have connected : Connected system other :=
        ⟨live ▸ alive, target, listed, sock ▸ opened⟩
      have rival := guarded ptr json req listens visited free other own connected
      rw [user, equality] at name
      exact absurd name rival

theorem serve (held : Invariant codecs trace system) {event : SystemEvent}
    (guarded : Unrivalled codecs trace system event) :
    Invariant codecs (trace ++ system.emits codecs event) (system.serve codecs event) := by
  unfold System.emits System.serve
  cases running : system.process.running with
  | false => simpa using held
  | true =>
      rw [if_pos rfl, if_pos rfl]
      cases prepares : system.serverEvent codecs event with
      | none => simpa using held
      | some pair =>
          obtain ⟨served, prepared⟩ := pair
          simp only
          rw [Server.emits_of_running running]
          rcases System.serverEvent_cases prepares with
            ⟨client, fd, rfl, alive, closed, rfl⟩ |
            ⟨client, recv, now, writes, ptr, rfl, listens, rfl, same⟩ | ⟨other, rfl⟩
          · exact held.accept running fd alive closed
          · exact held.onSocket running guarded listens same
          · refine held.react running rfl ?_ held.apart held.coherent ?_
            · intro client ptr listens
              exact List.mem_append_left _ (held.accepted client ptr listens)
            · intro client ptr asker json login _ _ _ _ answered
              obtain ⟨_, _, _, _, _, equality, _⟩ := Server.visit_of_answered answered
              exact absurd equality (other _ _ _ _)

theorem step (held : Invariant codecs trace system) (platform : Platform codecs)
    {event : SystemEvent} (guarded : Unrivalled codecs trace system event) :
    Invariant codecs (trace ++ (System.machine platform).emits system event)
      ((System.machine platform).step system event) := by
  have silent : system.serverEvent codecs event = none →
      ∀ {after : System}, Invariant codecs trace after →
        Invariant codecs (trace ++ (System.machine platform).emits system event) after := by
    intro own after kept
    change Invariant codecs (trace ++ system.emits codecs event) after
    rw [System.emits_of_serverEvent own, List.append_nil]
    exact kept
  cases event with
  | beginLogin client user construction =>
      exact silent rfl (held.act client (fun _ _ => MainActivity.sock_beginLogin)
        (fun _ kept => kept.beginLogin construction user))
  | markConnected client =>
      exact silent rfl (held.act client
        (fun activity _ listens => activity.sock_markConnected.symm.trans listens)
        (fun _ kept => kept.markConnected))
  | sendLogin client now =>
      exact silent rfl (held.act client
        (fun activity _ listens => (activity.sock_sendLogin now).symm.trans listens)
        (fun _ kept => kept.sendLogin now))
  | endLogin client =>
      exact silent rfl (held.act client
        (fun activity _ listens => activity.sock_endLogin.symm.trans listens)
        (fun _ kept => kept.endLogin))
  | onMsgSend client now msg =>
      exact silent rfl (held.act client
        (fun activity _ listens => (activity.sock_onMsgSend now msg).symm.trans listens)
        (fun _ kept => kept.onMsgSend now msg))
  | read client =>
      exact silent rfl (held.act client
        (fun activity _ listens => (activity.sock_read platform).symm.trans listens)
        (fun _ kept => kept.read platform))
  | finish client =>
      exact silent rfl (held.act client (fun _ _ => id) (fun _ kept => kept.finish))
  | onSocketServer client accepted => exact held.serve guarded
  | onSocket client recv now writes => exact held.serve guarded
  | onSTDIN line => exact held.serve guarded

end Invariant

theorem invariant_of_unrivalled (platform : Platform codecs) {events : List SystemEvent}
    (meets : (System.machine platform).Meets (Unrivalled codecs) events) :
    Invariant codecs ((System.machine platform).trace events)
      ((System.machine platform).run events) := by
  refine meets.induction (Invariant.initial platform) ?_
  intro trace system event guarded held
  exact held.step platform guarded

/-! At most one running activity is logged in with a name, and it is the one whose
login the server granted. -/

def LoggedInAs (system : System) (client : Nat) (name : String) : Prop :=
  (system.clients client).alive = true ∧
    (system.clients client).state = .isLoggedIn ∧
    (system.clients client).user = some name

instance (system : System) (client : Nat) (name : String) :
    Decidable (LoggedInAs system client name) :=
  inferInstanceAs (Decidable (_ ∧ _ ∧ _))

structure Agreement (codecs : Codecs) (trace : List Action) (system : System) : Prop where
  unique : ∀ name first second, LoggedInAs system first name →
    LoggedInAs system second name → first = second
  own : ∀ name client, LoggedInAs system client name →
    ∃ ptr, (system.clients client).sock = some ptr ∧ Server.Granted codecs trace ptr name

theorem Invariant.agreement {trace : List Action} {system : System}
    (held : Invariant codecs trace system) : Agreement codecs trace system := by
  have own : ∀ name client, LoggedInAs system client name →
      ∃ ptr, (system.clients client).sock = some ptr ∧
        Server.Granted codecs trace ptr name := by
    intro name client given
    rcases given with ⟨alive, loggedIn, user⟩
    obtain ⟨ptr, other, listens, same, granted⟩ := (held.coherent client alive).owner loggedIn
    rw [user] at same
    cases same
    exact ⟨ptr, listens, granted⟩
  refine ⟨?_, own⟩
  intro name first second left right
  obtain ⟨ptr, opened, granted⟩ := own name first left
  obtain ⟨other, listens, also⟩ := own name second right
  obtain ⟨events, _, rfl⟩ := held.served
  rw [Server.granted_unique events also granted] at listens
  exact held.apart first second ptr opened listens

/-- In a run in which no name is granted while another connected activity has it as
its user, the activities agree with the server at every moment. -/
theorem agreement_of_unrivalled (platform : Platform codecs) (events : List SystemEvent)
    (meets : (System.machine platform).Meets (Unrivalled codecs) events)
    (before after : List SystemEvent) (cut : events = before ++ after) :
    Agreement codecs ((System.machine platform).trace before)
      ((System.machine platform).run before) := by
  rw [cut] at meets
  exact (invariant_of_unrivalled platform meets.of_append).agreement

theorem not_agreement {trace : List Action} {system : System} {name : String}
    {first second : Nat} (different : first ≠ second)
    (both : LoggedInAs system first name ∧ LoggedInAs system second name) :
    ¬ Agreement codecs trace system :=
  fun agreement => different (agreement.unique name first second both.1 both.2)

/-! One activity logs in as Bob, and then two that both take the name before the
server has granted it. -/

def bobBegins (client fd : Nat) : List SystemEvent :=
  [.beginLogin client "bob" .started, .onSocketServer client (.connection fd),
    .markConnected client, .sendLogin client 0, .endLogin client]

def bobServed : SystemEvent :=
  .onSocket 0 (.data Server.bobChunk) 0 fun _ => .whole

theorem unrivalled_bobBegins :
    (System.machine Platform.compact).Meets (Unrivalled Codecs.compact)
      (bobBegins 0 5 ++ [bobServed]) := by
  have begins : (System.machine Platform.compact).Meets (Unrivalled Codecs.compact)
      (bobBegins 0 5) := by
    apply Machine.Meets.of_forall
    intro event inside trace system
    simp only [bobBegins, List.mem_cons, List.not_mem_nil, or_false] at inside
    rcases inside with rfl | rfl | rfl | rfl | rfl
    · trivial
    · trivial
    · trivial
    · trivial
    · trivial
  apply begins.concat
  have held := invariant_of_unrivalled Platform.compact begins
  have listed : ((System.machine Platform.compact).run
      (bobBegins 0 5)).process.server.socketList = [0] := by
    decide +kernel
  have listens : (((System.machine Platform.compact).run
      (bobBegins 0 5)).clients 0).sock = some 0 := by
    decide +kernel
  intro ptr json req _ _ _ other different connected
  obtain ⟨_, target, inside, opened⟩ := connected
  rw [listed, List.mem_singleton] at inside
  rw [inside] at opened
  exact absurd (held.apart other 0 0 opened listens) different

theorem agreement_bobAlone :
    Agreement Codecs.compact
      ((System.machine Platform.compact).trace (bobBegins 0 5 ++ [bobServed]))
      ((System.machine Platform.compact).run (bobBegins 0 5 ++ [bobServed])) :=
  agreement_of_unrivalled Platform.compact (bobBegins 0 5 ++ [bobServed])
    unrivalled_bobBegins (bobBegins 0 5 ++ [bobServed]) [] (List.append_nil _).symm

def bothAsk : List SystemEvent := bobBegins 0 5 ++ bobBegins 1 6

def bobTwice : List SystemEvent :=
  bobBegins 0 5 ++ bobBegins 1 6 ++ [bobServed, .read 0, .read 1]

def bobAsking (ptr : SocketPtr) : MainActivity where
  alive := true
  state := .attemptedLogin
  user := some "bob"
  mConnection := some {
    sock := some ptr
    sent := [.login { dateTime := 0, sender := "bob" }]
    received := [] }
  login := .returned

def bobAnswered (ptr : SocketPtr) (sent : List NetworkRequest) : MainActivity :=
  { bobAsking ptr with
    mConnection := some {
      sock := some ptr, sent, received := [Server.bobGranted.text Codecs.compact] } }

theorem clients_bothAsk :
    ((System.machine Platform.compact).run bothAsk).clients 0 = bobAsking 0 ∧
      ((System.machine Platform.compact).run bothAsk).clients 1 = bobAsking 1 := ⟨rfl, rfl⟩

theorem process_bothAsk :
    ((System.machine Platform.compact).run bothAsk).process.running = true ∧
      0 ∈ ((System.machine Platform.compact).run bothAsk).process.server.flexWaiter.sockets ∧
      ((System.machine Platform.compact).run bothAsk).process.server.socketList = [0, 1] ∧
      (∀ other ∈ ((System.machine Platform.compact).run bothAsk).process.server.socketList,
        (((System.machine Platform.compact).run bothAsk).process.server.heap
          other).isOpen = true) ∧
      ((System.machine Platform.compact).run bothAsk).process.server.clientNames = [] := by
  refine ⟨rfl, by decide +kernel, by decide +kernel, by decide +kernel, rfl⟩

theorem clients_served :
    ((System.machine Platform.compact).run (bothAsk ++ [bobServed])).clients 0 =
        bobAnswered 0 [] ∧
      ((System.machine Platform.compact).run (bothAsk ++ [bobServed])).clients 1 =
        bobAnswered 1 [.login { dateTime := 0, sender := "bob" }] := by
  obtain ⟨running, registered, listed, opened, free⟩ := process_bothAsk
  obtain ⟨first, second⟩ := clients_bothAsk
  rw [Machine.run_concat]
  generalize (System.machine Platform.compact).run bothAsk = system at *
  have own : 0 ∈ system.process.server.socketList := by
    rw [listed]
    exact List.mem_cons_self
  have visited : Server.visits Codecs.compact
      (.socket 0 (.data Server.bobChunk) 0 fun _ => .whole) system.process.server =
        some (0, Server.bobJson, .visitLogin Server.bobLogin) :=
    Server.visits_eq_some_iff.mpr
      ⟨Server.bobChunk, 0, _, rfl, Server.visit_bob registered (opened 0 own)⟩
  have asked : system.serverEvent Codecs.compact bobServed =
      some (Server.bobReads 0, system.update 0 MainActivity.takeRequest) := by
    have sock : (system.clients 0).sock = some 0 := by
      rw [first]
      rfl
    have next : System.visitsNext
        (some (0, Server.bobJson, .visitLogin Server.bobLogin)) (system.clients 0) = true := by
      rw [first]
      rfl
    simp only [bobServed, System.serverEvent, sock, visited, next, if_true]
    rfl
  have texts : ∀ ptr, ptr = 0 ∨ ptr = 1 →
      textsTo ((Server.machine Codecs.compact).emits system.process (Server.bobReads 0)) ptr =
        [Server.bobGranted.text Codecs.compact] := by
    intro ptr listening
    have emitted := Server.react_bob_granted registered own opened
      (by rw [free]; exact List.not_mem_nil)
    rw [Server.emits_of_running running, emitted, listed]
    rcases listening with rfl | rfl
    · rfl
    · rfl
  have stepped : (System.machine Platform.compact).step system bobServed =
      (system.update 0 MainActivity.takeRequest).react Codecs.compact (Server.bobReads 0) := by
    change system.serve Codecs.compact bobServed = _
    rw [System.serve, if_pos running, asked]
  rw [stepped]
  constructor
  · change ((system.update 0 MainActivity.takeRequest).clients 0).receive (textsTo
      ((Server.machine Codecs.compact).emits system.process (Server.bobReads 0))) = _
    rw [System.clients_update_self, first]
    simp only [MainActivity.receive, MainActivity.takeRequest, MainActivity.onConnection,
      bobAsking, Option.map_some, texts 0 (.inl rfl)]
    rfl
  · change ((system.update 0 MainActivity.takeRequest).clients 1).receive (textsTo
      ((Server.machine Codecs.compact).emits system.process (Server.bobReads 0))) = _
    rw [System.clients_update_of_ne (by decide), second]
    simp only [MainActivity.receive, MainActivity.onConnection, bobAsking, Option.map_some,
      texts 1 (.inr rfl)]
    rfl

theorem read_bobAnswered (ptr : SocketPtr) (sent : List NetworkRequest) :
    (bobAnswered ptr sent).read Platform.compact =
      { bobAsking ptr with
        state := .isLoggedIn
        mConnection := some { sock := some ptr, sent, received := [] } } := by
  have visited : visit Platform.compact (Server.bobGranted.text Codecs.compact) =
      .ok (.visitLogin (some {
        dateTime := some 0
        sender := some Instance.serverSender
        joiningUsername := some "bob" })) :=
    (visit_text_eq_ok_iff Platform.compact Server.bobGranted _).mpr
      ⟨0, by decide +kernel, rfl⟩
  exact MainActivity.read_of_handled rfl rfl visited rfl

theorem bob_logged_in_twice :
    (LoggedInAs ((System.machine Platform.compact).run bobTwice) 0 "bob" ∧
      LoggedInAs ((System.machine Platform.compact).run bobTwice) 1 "bob") ∧
      ¬ Agreement Codecs.compact ((System.machine Platform.compact).trace bobTwice)
        ((System.machine Platform.compact).run bobTwice) := by
  have both : LoggedInAs ((System.machine Platform.compact).run bobTwice) 0 "bob" ∧
      LoggedInAs ((System.machine Platform.compact).run bobTwice) 1 "bob" := by
    have split : bobTwice = bothAsk ++ [bobServed] ++ [.read 0] ++ [.read 1] := rfl
    obtain ⟨first, second⟩ := clients_served
    rw [split, Machine.run_concat, Machine.run_concat]
    generalize (System.machine Platform.compact).run (bothAsk ++ [bobServed]) = system at *
    change LoggedInAs ((system.act 0 _).act 1 _) 0 "bob" ∧
      LoggedInAs ((system.act 0 _).act 1 _) 1 "bob"
    have one : system.act 0 (MainActivity.read Platform.compact) =
        system.update 0 (MainActivity.read Platform.compact) := by
      rw [System.act, if_pos (by rw [first]; rfl)]
    have two : (system.update 0 (MainActivity.read Platform.compact)).act 1
        (MainActivity.read Platform.compact) =
          (system.update 0 (MainActivity.read Platform.compact)).update 1
            (MainActivity.read Platform.compact) := by
      rw [System.act, if_pos]
      rw [System.clients_update_of_ne (by decide), second]
      rfl
    unfold LoggedInAs
    rw [one, two, System.clients_update_of_ne (by decide), System.clients_update_self,
      System.clients_update_self, System.clients_update_of_ne (by decide), first, second,
      read_bobAnswered, read_bobAnswered]
    exact ⟨⟨rfl, rfl, rfl⟩, rfl, rfl, rfl⟩
  exact ⟨both, not_agreement (by decide) both⟩

end AndroidMessenger.Chat
