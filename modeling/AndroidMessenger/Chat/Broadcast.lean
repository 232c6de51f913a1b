import AndroidMessenger.Chat.Agreement
import AndroidMessenger.Chat.Channels
import AndroidMessenger.Library.Refinement
import AndroidMessenger.Server.Order

namespace AndroidMessenger.Chat.System

open Library Msg Networking Client

variable {codecs : Codecs} {platform : Platform codecs}

/-! The system as a run of the server, and what its clients get. -/

variable (codecs) in
def behind (system : System) (event : SystemEvent) : List Event :=
  if system.process.running then
    ((system.serverEvent codecs event).map Prod.fst).toList
  else []

theorem process_act (client : Nat) (change : MainActivity → MainActivity)
    (system : System) : (system.act client change).process = system.process := by
  unfold act
  split
  · rfl
  · rfl

theorem process_of_serverEvent {system prepared : System} {event : SystemEvent}
    {served : Event} (prepares : system.serverEvent codecs event = some (served, prepared)) :
    prepared.process = system.process := by
  rcases serverEvent_cases prepares with
    ⟨_, _, _, _, _, rfl⟩ | ⟨_, _, _, _, _, _, _, _, rfl | rfl⟩ | ⟨_, rfl⟩
  · rfl
  · rfl
  · rfl
  · rfl

theorem process_serve (system : System) (event : SystemEvent) :
    (system.serve codecs event).process =
      (Server.machine codecs).runFrom system.process (system.behind codecs event) := by
  unfold serve behind
  split
  · cases prepares : system.serverEvent codecs event with
    | none => rfl
    | some pair =>
        obtain ⟨served, prepared⟩ := pair
        change (Server.machine codecs).step prepared.process served = _
        rw [process_of_serverEvent prepares]
        rfl
  · rfl

theorem refines (platform : Platform codecs) :
    (machine platform).Refines (Server.machine codecs) (behind codecs)
      (fun system process => system.process = process) where
  initial := rfl
  step := by
    rintro system _ event rfl
    have rests : system.serverEvent codecs event = none →
        (Server.machine codecs).runFrom system.process (system.behind codecs event) =
          system.process := by
      intro own
      rw [behind, own]
      split
      · rfl
      · rfl
    cases event with
    | beginLogin client user construction =>
        exact (process_act ..).trans (rests rfl).symm
    | markConnected client => exact (process_act ..).trans (rests rfl).symm
    | sendLogin client now => exact (process_act ..).trans (rests rfl).symm
    | endLogin client => exact (process_act ..).trans (rests rfl).symm
    | onMsgSend client now msg => exact (process_act ..).trans (rests rfl).symm
    | read client => exact (process_act ..).trans (rests rfl).symm
    | finish client => exact (process_act ..).trans (rests rfl).symm
    | onSocketServer client accepted => exact process_serve system _
    | onSocket client recv now writes => exact process_serve system _
    | onSTDIN line => exact process_serve system _
  emits := by
    rintro system _ event rfl
    change system.emits codecs event = _
    unfold emits behind
    split
    · cases system.serverEvent codecs event with
      | none => rfl
      | some pair => exact (List.append_nil _).symm
    · rfl

variable (codecs) in
/-- Behind the step is an event in which nothing goes wrong. -/
def OrderlyStep (_ : List Action) (system : System) (event : SystemEvent) : Prop :=
  ∀ served ∈ system.behind codecs event, Server.Orderly codecs [] system.process served

theorem meets_orderly {events : List SystemEvent}
    (meets : (machine platform).Meets (OrderlyStep codecs) events) :
    (Server.machine codecs).Meets (Server.Orderly codecs)
      (((machine platform).observing (behind codecs)).trace events) := by
  induction events using List.reverseRecOn with
  | nil => exact Machine.Meets.nil
  | append_singleton events event ih =>
      apply Machine.Refines.meets_concat_of_one (ih meets.of_concat)
      · unfold behind
        split
        · exact Option.length_toList_le
        · exact Nat.zero_le 1
      · intro other inside
        have orderly := meets.last other inside
        rw [(refines platform).run events] at orderly
        exact orderly

/-! The texts on their way to a client. -/

theorem textsTo_append (first second : List Action) (ptr : SocketPtr) :
    textsTo (first ++ second) ptr = textsTo first ptr ++ textsTo second ptr :=
  List.filterMap_append

theorem textsTo_none {actions : List Action} (none : ∀ ptr, textsTo actions ptr = [])
    (sock : Option SocketPtr) : (sock.map (textsTo actions)).getD [] = [] := by
  cases sock with
  | none => rfl
  | some ptr => exact none ptr

theorem arrived_of_silent {system : System} {event : SystemEvent}
    (silent : system.emits codecs event = []) (client : Nat) :
    system.arrived codecs client event = [] := by
  rw [arrived, silent]
  exact textsTo_none (fun _ => rfl) _

theorem clients_update_keeps {Item : Type} {queue : MainActivity → Item} {client : Nat}
    {change : MainActivity → MainActivity} {system : System}
    (keeps : queue (change (system.clients client)) = queue (system.clients client))
    (other : Nat) :
    queue ((system.update client change).clients other) = queue (system.clients other) := by
  by_cases same : other = client
  · subst same
    rw [clients_update_self, keeps]
  · rw [clients_update_of_ne same]

theorem serve_texts (client : Nat) (system : System) (event : SystemEvent) :
    ((system.serve codecs event).clients client).incoming =
      (system.clients client).incoming ++ system.arrived codecs client event := by
  unfold serve
  split
  · rename_i running
    cases prepares : system.serverEvent codecs event with
    | none =>
        rw [arrived_of_silent (emits_of_serverEvent prepares)]
        exact (List.append_nil _).symm
    | some pair =>
        obtain ⟨served, prepared⟩ := pair
        have emits : system.emits codecs event =
            (Server.machine codecs).emits system.process served := by
          rw [System.emits, if_pos running, prepares]
        change ((prepared.clients client).receive (textsTo
          ((Server.machine codecs).emits prepared.process served))).incoming = _
        rw [MainActivity.incoming_receive, process_of_serverEvent prepares, arrived, emits]
        rcases serverEvent_cases prepares with
          ⟨joining, fd, rfl, _, _, rfl⟩ |
          ⟨reader, _, _, _, _, _, _, _, rfl | rfl⟩ | ⟨_, rfl⟩
        · have silent : ∀ ptr, textsTo ((Server.machine codecs).emits system.process
              (.socketServer (.connection fd))) ptr = [] := by
            rw [Server.emits_of_running running]
            exact fun _ => rfl
          rw [textsTo_none silent, textsTo_none silent]
          exact congrArg (· ++ []) (clients_update_keeps
            (MainActivity.incoming_accept _ _) client)
        · rfl
        · rw [@clients_update_keeps _ MainActivity.sock reader _ system
            (MainActivity.sock_takeRequest _) client]
          exact congrArg (· ++ _) (clients_update_keeps
            (MainActivity.incoming_takeRequest _) client)
        · rfl
  · rename_i stopped
    have silent : system.emits codecs event = [] := by
      rw [emits, if_neg stopped]
    rw [arrived_of_silent silent]
    exact (List.append_nil _).symm

theorem step_texts (events : List SystemEvent) (event : SystemEvent) (client : Nat) :
    ((machine platform).run events).readBy client event ++
        (((machine platform).step ((machine platform).run events) event).clients
          client).incoming =
      (((machine platform).run events).clients client).incoming ++
        ((machine platform).run events).arrived codecs client event := by
  have unopened := unopened_run platform events
  generalize (machine platform).run events = system at *
  have of_silent : system.serverEvent codecs event = none → system.readBy client event = [] →
      (((machine platform).step system event).clients client).incoming =
        (system.clients client).incoming →
      system.readBy client event ++
          (((machine platform).step system event).clients client).incoming =
        (system.clients client).incoming ++ system.arrived codecs client event := by
    intro own silent kept
    rw [arrived_of_silent (emits_of_serverEvent own), silent, kept, List.append_nil,
      List.nil_append]
  cases event with
  | beginLogin asker user construction =>
      apply of_silent rfl rfl
      exact act_keeps (MainActivity.queues_beginLogin (unopened asker) construction user).2.1
        client
  | markConnected asker =>
      apply of_silent rfl rfl
      exact act_keeps (MainActivity.incoming_markConnected _) client
  | sendLogin asker now =>
      apply of_silent rfl rfl
      exact act_keeps (MainActivity.incoming_sendLogin _ now) client
  | endLogin asker =>
      apply of_silent rfl rfl
      exact act_keeps (MainActivity.incoming_endLogin _) client
  | onMsgSend asker now msg =>
      apply of_silent rfl rfl
      exact act_keeps (MainActivity.incoming_onMsgSend _ now msg) client
  | read reader =>
      rw [arrived_of_silent (emits_of_serverEvent rfl), List.append_nil]
      change _ ++ ((system.act reader (MainActivity.read platform)).clients client).incoming = _
      rw [clients_act, readBy]
      by_cases same : reader = client ∧ (system.clients reader).alive = true
      · rw [if_pos same, if_pos same, (MainActivity.queues_read platform _).1, same.1]
        exact List.take_append_drop 1 _
      · rw [if_neg same, if_neg same]
        rfl
  | finish asker =>
      apply of_silent rfl rfl
      exact act_keeps rfl client
  | onSocketServer asker accepted => exact serve_texts client system _
  | onSocket asker recv now writes => exact serve_texts client system _
  | onSTDIN line => exact serve_texts client system _

/-! A client keeps its socket. -/

/-- The client gets the next socket, and nothing else happens. -/
structure Opens (system after : System) (emitted : List Action) (client : Nat) : Prop where
  closed : (system.clients client).sock = none
  opened : (after.clients client).sock = some system.process.server.nextPtr
  others : ∀ other ≠ client, (after.clients other).sock = (system.clients other).sock
  emitted : emitted = [.accepted system.process.server.nextPtr]

theorem sock_serve (system : System) (event : SystemEvent) :
    (∀ client, ((system.serve codecs event).clients client).sock =
      (system.clients client).sock) ∨
    ∃ client, Opens system (system.serve codecs event) (system.emits codecs event) client := by
  unfold serve
  split
  · rename_i running
    cases prepares : system.serverEvent codecs event with
    | none => exact Or.inl fun _ => rfl
    | some pair =>
        obtain ⟨served, prepared⟩ := pair
        have emits : system.emits codecs event =
            (Server.machine codecs).emits system.process served := by
          rw [System.emits, if_pos running, prepares]
        have received : ∀ client, ((prepared.react codecs served).clients client).sock =
            (prepared.clients client).sock := fun _ => MainActivity.sock_receive _ _
        rcases serverEvent_cases prepares with
          ⟨joining, fd, rfl, _, closed, rfl⟩ |
          ⟨reader, _, _, _, _, _, _, _, rfl | rfl⟩ | ⟨_, rfl⟩
        · have others : ∀ other ≠ joining, ((system.update joining
              (MainActivity.accept system.process.server.nextPtr)).clients other).sock =
                (system.clients other).sock := by
            intro other different
            rw [clients_update_of_ne different]
          cases opened : (MainActivity.accept system.process.server.nextPtr
              (system.clients joining)).sock with
          | none =>
              left
              intro client
              rw [received]
              by_cases same : client = joining
              · rw [same, clients_update_self, opened, closed]
              · exact others client same
          | some ptr =>
              obtain rfl := MainActivity.eq_of_sock_accept opened
              refine Or.inr ⟨joining, closed, ?_, ?_, ?_⟩
              · rw [received, clients_update_self]
                exact opened
              · intro other different
                rw [received]
                exact others other different
              · rw [emits, Server.emits_of_running running]
                rfl
        · exact Or.inl received
        · left
          intro client
          rw [received]
          exact @clients_update_keeps _ MainActivity.sock reader _ system
            (MainActivity.sock_takeRequest _) client
        · exact Or.inl received
  · exact Or.inl fun _ => rfl

theorem sock_step (events : List SystemEvent) (event : SystemEvent) :
    (∀ client, (((machine platform).step ((machine platform).run events) event).clients
      client).sock = (((machine platform).run events).clients client).sock) ∨
    ∃ client, Opens ((machine platform).run events)
      ((machine platform).step ((machine platform).run events) event)
      ((machine platform).emits ((machine platform).run events) event) client := by
  have unopened := unopened_run platform events
  generalize (machine platform).run events = system at *
  cases event with
  | beginLogin actor user construction =>
      left
      exact act_keeps
        (MainActivity.queues_beginLogin (unopened actor) construction user).2.2
  | markConnected actor => exact Or.inl (act_keeps (MainActivity.sock_markConnected _))
  | sendLogin actor now => exact Or.inl (act_keeps (MainActivity.sock_sendLogin now _))
  | endLogin actor => exact Or.inl (act_keeps (MainActivity.sock_endLogin _))
  | onMsgSend actor now msg => exact Or.inl (act_keeps (MainActivity.sock_onMsgSend now msg _))
  | read actor => exact Or.inl (act_keeps (MainActivity.sock_read platform _))
  | finish actor => exact Or.inl (act_keeps rfl)
  | onSocketServer actor accepted => exact sock_serve system _
  | onSocket actor recv now writes => exact sock_serve system _
  | onSTDIN line => exact sock_serve system _

theorem nextPtr_unaccepted (events : List SystemEvent) :
    .accepted ((machine platform).run events).process.server.nextPtr ∉
      (machine platform).trace events := by
  intro inside
  rw [(refines platform).trace events] at inside
  have old := (Server.registry codecs _).fresh _ inside
  rw [(refines platform).run events] at old
  exact Nat.lt_irrefl _ old

/-- What the server does about the socket of a client, step by step, is what it has done
about the socket that the client has now: about a new one it has done nothing before. -/
theorem picked_run {Item : Type} {pick : List Action → SocketPtr → List Item}
    (append : ∀ first second ptr, pick (first ++ second) ptr = pick first ptr ++ pick second ptr)
    (accepting : ∀ other ptr, pick [.accepted other] ptr = [])
    (fresh : ∀ events ptr, .accepted ptr ∉ (machine platform).trace events →
      pick ((machine platform).trace events) ptr = [])
    (events : List SystemEvent) (client : Nat) :
    ((machine platform).observing fun system event =>
        ((system.clients client).sock.map (pick (system.emits codecs event))).getD []).trace
          events =
      ((((machine platform).run events).clients client).sock.map
        (pick ((machine platform).trace events))).getD [] := by
  induction events using List.reverseRecOn with
  | nil => rfl
  | append_singleton events event ih =>
      rw [Machine.observing_concat, ih, Machine.run_concat, Machine.trace_concat]
      have kept : (((machine platform).step ((machine platform).run events) event).clients
          client).sock = (((machine platform).run events).clients client).sock →
          (((((machine platform).run events).clients client).sock.map
              (pick ((machine platform).trace events))).getD [] ++
            ((((machine platform).run events).clients client).sock.map
              (pick (((machine platform).run events).emits codecs event))).getD []) =
          ((((machine platform).step ((machine platform).run events) event).clients
            client).sock.map (pick ((machine platform).trace events ++
              (machine platform).emits ((machine platform).run events) event))).getD [] := by
        intro same
        rw [same]
        cases (((machine platform).run events).clients client).sock with
        | none => rfl
        | some ptr => exact (append _ _ ptr).symm
      rcases sock_step events event with same | ⟨joining, opens⟩
      · exact kept (same client)
      · by_cases own : client = joining
        · subst own
          rw [opens.closed, opens.opened, opens.emitted]
          change [] = pick _ _
          rw [append, fresh _ _ (nextPtr_unaccepted events), accepting]
          rfl
        · exact kept (opens.others client own)

theorem arrived_run (platform : Platform codecs) (events : List SystemEvent) (client : Nat) :
    ((machine platform).observing (arrived codecs client)).trace events =
      ((((machine platform).run events).clients client).sock.map
        (textsTo ((machine platform).trace events))).getD [] := by
  apply picked_run textsTo_append
  · intro other ptr
    rfl
  · intro events ptr unaccepted
    apply List.eq_nil_iff_forall_not_mem.mpr
    intro text inside
    rw [mem_textsTo_iff] at inside
    apply unaccepted
    rw [(refines platform).trace events] at inside ⊢
    exact Server.accepted_of_wrote codecs _ inside

theorem accepted_of_sock (events : List SystemEvent) {client : Nat} {ptr : SocketPtr}
    (listens : (((machine platform).run events).clients client).sock = some ptr) :
    .accepted ptr ∈ (machine platform).trace events := by
  induction events using List.reverseRecOn generalizing client ptr with
  | nil => cases listens
  | append_singleton events event ih =>
      rw [Machine.run_concat] at listens
      rw [Machine.trace_concat, List.mem_append]
      rcases sock_step events event with same | ⟨joining, opens⟩
      · exact Or.inl (ih ((same client).symm.trans listens))
      · by_cases own : client = joining
        · subst own
          obtain rfl := Option.some.inj (opens.opened.symm.trans listens)
          rw [opens.emitted]
          exact Or.inr List.mem_cons_self
        · exact Or.inl (ih ((opens.others client own).symm.trans listens))

theorem sock_inj (events : List SystemEvent) {first second : Nat} {ptr : SocketPtr}
    (left : (((machine platform).run events).clients first).sock = some ptr)
    (right : (((machine platform).run events).clients second).sock = some ptr) :
    first = second := by
  induction events using List.reverseRecOn generalizing first second ptr with
  | nil => cases left
  | append_singleton events event ih =>
      rw [Machine.run_concat] at left right
      rcases sock_step events event with same | ⟨joining, opens⟩
      · exact ih ((same first).symm.trans left) ((same second).symm.trans right)
      · have alone : ∀ other ≠ joining, (((machine platform).step
            ((machine platform).run events) event).clients other).sock ≠
              some ((machine platform).run events).process.server.nextPtr := by
          intro other different listens
          rw [opens.others other different] at listens
          exact nextPtr_unaccepted events (accepted_of_sock events listens)
        by_cases leftOwn : first = joining
        · subst leftOwn
          obtain rfl := Option.some.inj (opens.opened.symm.trans left)
          exact (not_not.mp fun different => alone second (Ne.symm different) right)
        · by_cases rightOwn : second = joining
          · subst rightOwn
            obtain rfl := Option.some.inj (opens.opened.symm.trans right)
            exact absurd left (alone first leftOwn)
          · rw [opens.others first leftOwn] at left
            rw [opens.others second rightOwn] at right
            exact ih left right

/-- What the reader thread of a client has visited and what waits for it is what the
server has written to its socket, in that order. -/
theorem texts_in_turn (platform : Platform codecs) (events : List SystemEvent)
    (client : Nat) :
    ((machine platform).observing (readBy client)).trace events ++
        (((machine platform).run events).clients client).incoming =
      ((((machine platform).run events).clients client).sock.map
        (textsTo ((machine platform).trace events))).getD [] := by
  rw [← arrived_run]
  exact @Machine.queue_run _ _ _ _ (machine platform) (arrived codecs client) (readBy client)
    (fun system => (system.clients client).incoming) rfl
    (fun before event => step_texts before event client) events

/-! What the clients of an orderly run get. -/

theorem encode_textsTo {trace : List Action} {ptr : SocketPtr}
    (whole : ∀ other text outcome, .wrote other text outcome ∈ trace → outcome = .whole) :
    (textsTo trace ptr).map Utf8.encode = Server.textsTo ptr trace := by
  induction trace with
  | nil => rfl
  | cons action trace ih =>
      have rest := ih fun other text outcome inside =>
        whole other text outcome (List.mem_cons_of_mem action inside)
      cases action with
      | wrote other text outcome =>
          obtain rfl := whole other text outcome List.mem_cons_self
          by_cases same : other = ptr
          · simp only [textsTo, Server.textsTo, List.filterMap_cons, if_pos same,
              List.map_cons] at rest ⊢
            rw [rest]
            rfl
          · simp only [textsTo, Server.textsTo, List.filterMap_cons, if_neg same] at rest ⊢
            exact rest
      | accepted other => exact rest
      | answered other json res => exact rest
      | removed other => exact rest
      | closed other => exact rest

variable (platform) in
/-- What the reader thread of a client has visited so far and what waits for it. -/
def got (events : List SystemEvent) (client : Nat) : List String :=
  ((machine platform).observing (readBy client)).trace events ++
    (((machine platform).run events).clients client).incoming

theorem got_suffix {events : List SystemEvent}
    (meets : (machine platform).Meets (OrderlyStep codecs) events) {client : Nat}
    {ptr : SocketPtr} (listens : (((machine platform).run events).clients client).sock = some ptr)
    (listed : ptr ∈ ((machine platform).run events).process.server.socketList) :
    got platform events client <:+
      (Server.responses ((machine platform).trace events)).map (Response.text codecs) := by
  have orderly := meets_orderly meets
  rw [(refines platform).run events] at listed
  have suffix := Server.textsTo_suffix orderly listed
  rw [← (refines platform).trace events] at suffix
  have whole : ∀ other text outcome,
      .wrote other text outcome ∈ (machine platform).trace events → outcome = .whole := by
    intro other text outcome wrote
    rw [(refines platform).trace events] at wrote
    exact Server.whole_of_orderly orderly wrote
  have wires : Server.wire codecs = Utf8.encode ∘ Response.text codecs := rfl
  rw [← encode_textsTo whole, wires, ← List.map_map,
    List.suffix_map_iff_of_injective Utf8.encode_injective] at suffix
  rw [got, texts_in_turn, listens]
  exact suffix

/-- As long as nothing goes wrong, what a listed client has read and what waits for it is
the last part of what the server has answered, whoever asked, so that of two of them one
has only missed the beginning of what the other has. -/
theorem clients_agree (platform : Platform codecs) {events : List SystemEvent}
    (meets : (machine platform).Meets (OrderlyStep codecs) events) :
    (∀ client, Connected ((machine platform).run events) client →
      got platform events client <:+
        (Server.responses ((machine platform).trace events)).map (Response.text codecs)) ∧
    ∀ first second, Connected ((machine platform).run events) first →
      Connected ((machine platform).run events) second →
      got platform events first <:+ got platform events second ∨
        got platform events second <:+ got platform events first := by
  have suffix : ∀ client, Connected ((machine platform).run events) client →
      got platform events client <:+
        (Server.responses ((machine platform).trace events)).map (Response.text codecs) := by
    intro client connected
    obtain ⟨_, ptr, listed, listens⟩ := connected
    exact got_suffix meets listens listed
  refine ⟨suffix, ?_⟩
  intro first second firstIn secondIn
  exact List.suffix_or_suffix_of_suffix (suffix first firstIn) (suffix second secondIn)

theorem serverEvent_of_behind {system : System} {event : SystemEvent} {served : Event}
    (inside : served ∈ system.behind codecs event) :
    ∃ prepared, system.serverEvent codecs event = some (served, prepared) := by
  unfold behind at inside
  split at inside
  · obtain ⟨pair, prepares, rfl⟩ := Option.map_eq_some_iff.mp (Option.mem_toList.mp inside)
    exact ⟨pair.2, prepares⟩
  · cases inside

/-! Bob logs in while another client waits to do so. -/

theorem orderly_bobBegins (client fd : Nat) (trace : List Action) (system : System) :
    ∀ event ∈ bobBegins client fd, OrderlyStep Codecs.compact trace system event := by
  intro event inside served behindIt
  obtain ⟨prepared, prepares⟩ := serverEvent_of_behind behindIt
  simp only [bobBegins, List.mem_cons, List.not_mem_nil, or_false] at inside
  rcases inside with rfl | rfl | rfl | rfl | rfl
  · cases prepares
  · simp only [serverEvent] at prepares
    split at prepares
    · cases prepares
      trivial
    · contradiction
  · cases prepares
  · cases prepares
  · cases prepares

theorem orderly_bobServed :
    (machine Platform.compact).Meets (OrderlyStep Codecs.compact) (bothAsk ++ [bobServed]) := by
  apply Machine.Meets.of_forall
  intro event inside trace system
  rcases List.mem_append.mp inside with begins | serves
  · rcases List.mem_append.mp begins with first | second
    · exact orderly_bobBegins 0 5 trace system event first
    · exact orderly_bobBegins 1 6 trace system event second
  · obtain rfl := List.mem_singleton.mp serves
    intro served behindIt
    obtain ⟨prepared, prepares⟩ := serverEvent_of_behind behindIt
    obtain ⟨ptr, _, rfl, _⟩ := serverEvent_onSocket prepares
    exact Server.orderly_bobReads ptr

theorem listed_bobServed : ((machine Platform.compact).run
    (bothAsk ++ [bobServed])).process.server.socketList = [0, 1] := by
  decide +kernel

theorem connected_bobServed :
    Connected ((machine Platform.compact).run (bothAsk ++ [bobServed])) 0 ∧
      Connected ((machine Platform.compact).run (bothAsk ++ [bobServed])) 1 := by
  obtain ⟨first, second⟩ := clients_served
  unfold Connected
  rw [first, second, listed_bobServed]
  exact ⟨⟨rfl, 0, by decide, rfl⟩, rfl, 1, by decide, rfl⟩

theorem clients_agree_bobServed :
    got Platform.compact (bothAsk ++ [bobServed]) 0 <:+
        got Platform.compact (bothAsk ++ [bobServed]) 1 ∨
      got Platform.compact (bothAsk ++ [bobServed]) 1 <:+
        got Platform.compact (bothAsk ++ [bobServed]) 0 :=
  (clients_agree Platform.compact orderly_bobServed).2 0 1 connected_bobServed.1
    connected_bobServed.2

end AndroidMessenger.Chat.System
