import AndroidMessenger.Chat.Coherence
import AndroidMessenger.Client.Channels
import AndroidMessenger.Library.Queue

namespace AndroidMessenger.Chat.System

open Library Msg Networking Client

variable {codecs : Codecs} {platform : Platform codecs}

/-! The two queues between a client and the server, in every interleaving. -/

/-- What the client hands to its connection in a step. -/
def asked (client : Nat) (system : System) : SystemEvent → List NetworkRequest
  | .sendLogin sender now =>
      if sender = client ∧ (system.clients sender).alive then
        (system.clients sender).loginAsked now
      else []
  | .onMsgSend sender now msg =>
      if sender = client ∧ (system.clients sender).alive then
        (system.clients sender).messageAsked now msg
      else []
  | _ => []

variable (codecs) in
/-- The request of the client that the server visits in a step, as the client has made it. -/
def taken (client : Nat) (system : System) (event : SystemEvent) : List NetworkRequest :=
  if system.process.running then
    match event, system.serverEvent codecs event with
    | .onSocket reader _ _ _, some (served, _) =>
        if reader = client ∧ visitsNext (Server.visits codecs served system.process.server)
            (system.clients client) then
          (system.clients client).outgoing.take 1
        else []
    | _, _ => []
  else []

/-- What the reader thread of the client visits in a step. -/
def readBy (client : Nat) (system : System) : SystemEvent → List String
  | .read reader =>
      if reader = client ∧ (system.clients reader).alive then
        (system.clients reader).incoming.take 1
      else []
  | _ => []

variable (codecs) in
/-- What is written to the client in a step. -/
def arrived (client : Nat) (system : System) (event : SystemEvent) : List String :=
  ((system.clients client).sock.map (textsTo (system.emits codecs event))).getD []

/-! Steps of the clients. -/

theorem clients_act (client other : Nat) (change : MainActivity → MainActivity)
    (system : System) :
    (system.act client change).clients other =
      if client = other ∧ (system.clients client).alive then
        change (system.clients client)
      else system.clients other := by
  unfold act
  split
  · rename_i alive
    by_cases same : client = other
    · subst same
      simp [alive]
    · rw [clients_update_of_ne fun equal => same equal.symm]
      simp [same]
  · rename_i dead
    simp [dead]

theorem act_keeps {Item : Type} {queue : MainActivity → Item} {client : Nat}
    {change : MainActivity → MainActivity} {system : System}
    (keeps : queue (change (system.clients client)) = queue (system.clients client))
    (other : Nat) :
    queue ((system.act client change).clients other) = queue (system.clients other) := by
  rw [clients_act]
  split
  · rename_i same
    rw [keeps, same.1]
  · rfl

/-! Steps of the server. -/

theorem visitsNext_iff {visited : Option (SocketPtr × Ptree × Call)}
    {activity : MainActivity} :
    visitsNext visited activity = true ↔
      ∃ visit request rest, visited = some visit ∧ activity.outgoing = request :: rest ∧
        isReadAs visit.2.2 request = true := by
  constructor
  · intro next
    unfold visitsNext at next
    split at next
    · rename_i ptr json call sock request rest received found
      exact ⟨_, request, rest, rfl, by simp [MainActivity.outgoing, found], next⟩
    · cases next
  · rintro ⟨⟨ptr, json, call⟩, request, rest, rfl, waiting, readAs⟩
    cases found : activity.mConnection with
    | none => simp [MainActivity.outgoing, found] at waiting
    | some connection =>
        obtain ⟨sock, sent, received⟩ := connection
        obtain rfl : sent = request :: rest := by
          simpa [MainActivity.outgoing, found] using waiting
        simpa only [visitsNext, found] using readAs

theorem serverEvent_onSocket {system prepared : System} {client : Nat} {recv : Recv}
    {now : TimePoint} {writes : Nat → WriteOutcome} {served : Event}
    (prepares : system.serverEvent codecs (.onSocket client recv now writes) =
      some (served, prepared)) :
    ∃ ptr, (system.clients client).sock = some ptr ∧ served = .socket ptr recv now writes ∧
      (visitsNext (Server.visits codecs served system.process.server)
          (system.clients client) = false ∧ prepared = system ∨
        visitsNext (Server.visits codecs served system.process.server)
            (system.clients client) = true ∧
          prepared = system.update client MainActivity.takeRequest) := by
  simp only [serverEvent] at prepares
  split at prepares
  · contradiction
  · rename_i ptr listens
    split at prepares
    · rename_i next
      cases prepares
      exact ⟨ptr, listens, rfl, Or.inr ⟨next, rfl⟩⟩
    · rename_i other
      cases prepares
      exact ⟨ptr, listens, rfl, Or.inl ⟨Bool.eq_false_iff.mpr other, rfl⟩⟩

theorem outgoing_react (event : Event) (system : System) (client : Nat) :
    ((system.react codecs event).clients client).outgoing =
      (system.clients client).outgoing :=
  MainActivity.outgoing_onConnection _ fun _ => rfl

theorem serve_requests (client : Nat) (system : System) (event : SystemEvent) :
    system.taken codecs client event ++ ((system.serve codecs event).clients client).outgoing =
      (system.clients client).outgoing := by
  unfold taken serve
  split
  · rename_i running
    cases prepares : system.serverEvent codecs event with
    | none =>
        simp only
        rfl
    | some pair =>
        obtain ⟨served, prepared⟩ := pair
        simp only [outgoing_react]
        cases event with
        | onSocket reader recv now writes =>
            simp only
            obtain ⟨ptr, listens, _, ⟨other, same⟩ | ⟨next, rfl⟩⟩ :=
              serverEvent_onSocket prepares
            · have unread : ¬ (reader = client ∧
                  visitsNext (Server.visits codecs served system.process.server)
                    (system.clients client) = true) := by
                rintro ⟨rfl, next⟩
                rw [other] at next
                cases next
              rw [if_neg unread, same]
              rfl
            · by_cases same : reader = client
              · subst same
                rw [if_pos ⟨rfl, next⟩, clients_update_self,
                  MainActivity.outgoing_takeRequest]
                exact List.take_append_drop 1 _
              · rw [if_neg fun own => same own.1,
                  clients_update_of_ne fun equal => same equal.symm]
                rfl
        | onSocketServer reader accepted =>
            rcases serverEvent_cases prepares with
              ⟨joining, fd, _, _, _, rfl⟩ | ⟨_, _, _, _, _, other, _⟩ | ⟨_, rfl⟩
            · by_cases same : client = joining
              · subst same
                rw [clients_update_self]
                exact MainActivity.outgoing_onConnection _ fun _ => rfl
              · rw [clients_update_of_ne same]
                rfl
            · cases other
            · rfl
        | onSTDIN line =>
            cases prepares
            rfl
        | beginLogin client user construction => cases prepares
        | markConnected client => cases prepares
        | sendLogin client now => cases prepares
        | endLogin client => cases prepares
        | onMsgSend client now msg => cases prepares
        | read client => cases prepares
        | finish client => cases prepares
  · rfl

theorem taken_of_none {system : System} {event : SystemEvent}
    (own : system.serverEvent codecs event = none) (client : Nat) :
    system.taken codecs client event = [] := by
  simp [taken, own]

theorem act_requests {asker : Nat} {change : MainActivity → MainActivity} {system : System}
    {requests : List NetworkRequest}
    (asks : (change (system.clients asker)).outgoing =
      (system.clients asker).outgoing ++ requests) (client : Nat) :
    ((system.act asker change).clients client).outgoing =
      (system.clients client).outgoing ++
        if asker = client ∧ (system.clients asker).alive then requests else [] := by
  rw [clients_act]
  split
  · rename_i same
    rw [asks, same.1]
  · exact (List.append_nil _).symm

section Kept

variable {property : MainActivity → Prop} (kept : MainActivity.Kept platform property)

include kept

theorem kept_react {system : System} (held : ∀ client, property (system.clients client))
    (event : Event) (client : Nat) :
    property ((system.react codecs event).clients client) :=
  kept.onConnection _ (held client)

theorem kept_update {system : System} (held : ∀ client, property (system.clients client))
    (actor : Nat) (change : NetworkingConnection → NetworkingConnection) (client : Nat) :
    property ((system.update actor (MainActivity.onConnection change)).clients client) := by
  by_cases same : client = actor
  · subst same
    rw [clients_update_self]
    exact kept.onConnection change (held client)
  · rw [clients_update_of_ne same]
    exact held client

theorem kept_serve {system : System} (held : ∀ client, property (system.clients client))
    (event : SystemEvent) (client : Nat) :
    property ((system.serve codecs event).clients client) := by
  unfold serve
  split
  · cases prepares : system.serverEvent codecs event with
    | none => exact held client
    | some pair =>
        obtain ⟨served, prepared⟩ := pair
        apply kept_react kept
        rcases serverEvent_cases prepares with
          ⟨joining, fd, _, _, _, rfl⟩ | ⟨reader, _, _, _, _, _, _, _, rfl | rfl⟩ | ⟨_, rfl⟩
        · exact kept_update kept held joining _
        · exact held
        · exact kept_update kept held reader _
        · exact held
  · exact held client

omit kept in
theorem kept_act {system : System} (held : ∀ client, property (system.clients client))
    {actor : Nat} {change : MainActivity → MainActivity}
    (keeps : property (system.clients actor) → property (change (system.clients actor)))
    (client : Nat) : property ((system.act actor change).clients client) := by
  rw [clients_act]
  split
  · exact keeps (held actor)
  · exact held client

/-- What every step keeps holds of every activity, whatever the others do. -/
theorem kept_run (events : List SystemEvent) :
    ∀ client, property (((machine platform).run events).clients client) := by
  refine @Machine.induction _ _ _ (machine platform)
    (fun _ system => ∀ client, property (system.clients client)) ?_ ?_ events
  · exact fun _ => kept.onCreate
  · intro _ system event held
    cases event with
    | beginLogin client user construction =>
        exact kept_act held (kept.beginLogin construction user)
    | markConnected client => exact kept_act held kept.markConnected
    | sendLogin client now => exact kept_act held (kept.sendLogin now)
    | endLogin client => exact kept_act held kept.endLogin
    | onMsgSend client now msg => exact kept_act held (kept.onMsgSend now msg)
    | read client => exact kept_act held kept.read
    | finish client => exact kept_act held kept.finish
    | onSocketServer client accepted => exact kept_serve kept held _
    | onSocket client recv now writes => exact kept_serve kept held _
    | onSTDIN line => exact kept_serve kept held _

end Kept

theorem unopened_run (platform : Platform codecs) (events : List SystemEvent) :
    ∀ client, (((machine platform).run events).clients client).Unopened :=
  kept_run (MainActivity.Unopened.kept platform) events

theorem step_requests (events : List SystemEvent) (event : SystemEvent) (client : Nat) :
    ((machine platform).run events).taken codecs client event ++
        (((machine platform).step ((machine platform).run events) event).clients
          client).outgoing =
      (((machine platform).run events).clients client).outgoing ++
        ((machine platform).run events).asked client event := by
  have unopened := unopened_run platform events
  generalize (machine platform).run events = system at *
  have of_silent : system.serverEvent codecs event = none → system.asked client event = [] →
      (((machine platform).step system event).clients client).outgoing =
        (system.clients client).outgoing →
      system.taken codecs client event ++
          (((machine platform).step system event).clients client).outgoing =
        (system.clients client).outgoing ++ system.asked client event := by
    intro own silent kept
    rw [taken_of_none own, silent, kept, List.append_nil, List.nil_append]
  cases event with
  | beginLogin asker user construction =>
      apply of_silent rfl rfl
      exact act_keeps (MainActivity.queues_beginLogin (unopened asker) construction user).1
        client
  | markConnected asker =>
      apply of_silent rfl rfl
      exact act_keeps (MainActivity.outgoing_markConnected _) client
  | sendLogin asker now =>
      rw [taken_of_none rfl]
      exact act_requests (MainActivity.outgoing_sendLogin _ now) client
  | endLogin asker =>
      apply of_silent rfl rfl
      exact act_keeps (MainActivity.outgoing_endLogin _) client
  | onMsgSend asker now msg =>
      rw [taken_of_none rfl]
      exact act_requests (MainActivity.outgoing_onMsgSend _ now msg) client
  | read asker =>
      apply of_silent rfl rfl
      exact act_keeps (MainActivity.queues_read platform _).2 client
  | finish asker =>
      apply of_silent rfl rfl
      exact act_keeps rfl client
  | onSocketServer asker accepted =>
      change _ = _ ++ []
      rw [List.append_nil]
      exact serve_requests client system _
  | onSocket asker recv now writes =>
      change _ = _ ++ []
      rw [List.append_nil]
      exact serve_requests client system _
  | onSTDIN line =>
      change _ = _ ++ []
      rw [List.append_nil]
      exact serve_requests client system _

/-- What the server has taken from a client, and what is still on its way, is what the
client has asked for. -/
theorem taken_run (platform : Platform codecs) (events : List SystemEvent) (client : Nat) :
    ((machine platform).observing (taken codecs client)).trace events ++
        (((machine platform).run events).clients client).outgoing =
      ((machine platform).observing (asked client)).trace events :=
  @Machine.queue_run _ _ _ _ (machine platform) (asked client) (taken codecs client)
    (fun system => (system.clients client).outgoing) rfl
    (fun before event => step_requests before event client) events

theorem asked_of_outgoing {events : List SystemEvent} {client : Nat}
    {request : NetworkRequest}
    (waits : request ∈ (((machine platform).run events).clients client).outgoing) :
    ∃ before event after, events = before ++ event :: after ∧
      request ∈ ((machine platform).run before).asked client event := by
  apply Machine.exists_of_mem_observing
  rw [← taken_run]
  exact List.mem_append_right _ waits

theorem asked_message {system : System} {client : Nat} {event : SystemEvent}
    {req : MessageRequest} (asks : .message req ∈ system.asked client event) :
    ∃ now, event = .onMsgSend client now req.content ∧
      (system.clients client).alive = true ∧ (system.clients client).state = .isLoggedIn ∧
      req.sender = (system.clients client).user := by
  cases event with
  | onMsgSend sender now msg =>
      simp only [asked, MainActivity.messageAsked] at asks
      split at asks
      · rename_i own
        obtain ⟨rfl, alive⟩ := own
        split at asks
        · rename_i ready
          obtain rfl : req = _ := NetworkRequest.message.inj (List.mem_singleton.mp asks)
          exact ⟨now, rfl, alive, ready.2.1, rfl⟩
        · cases asks
      · cases asks
  | sendLogin sender now =>
      simp only [asked, MainActivity.loginAsked] at asks
      split at asks
      · split at asks
        · cases List.mem_singleton.mp asks
        · cases asks
      · cases asks
  | beginLogin client user construction => cases asks
  | markConnected client => cases asks
  | endLogin client => cases asks
  | read client => cases asks
  | finish client => cases asks
  | onSocketServer client accepted => cases asks
  | onSocket client recv now writes => cases asks
  | onSTDIN line => cases asks

theorem asked_login {system : System} {client : Nat} {event : SystemEvent}
    {req : LoginRequest} (asks : .login req ∈ system.asked client event) :
    ∃ now, event = .sendLogin client now ∧ (system.clients client).alive = true ∧
      (system.clients client).login = .sending req.sender := by
  cases event with
  | sendLogin sender now =>
      simp only [asked, MainActivity.loginAsked] at asks
      split at asks
      · rename_i own
        obtain ⟨rfl, alive⟩ := own
        split at asks
        · rename_i user connection sending found
          obtain rfl : req = _ := NetworkRequest.login.inj (List.mem_singleton.mp asks)
          exact ⟨now, rfl, alive, sending⟩
        · cases asks
      · cases asks
  | onMsgSend sender now msg =>
      simp only [asked, MainActivity.messageAsked] at asks
      split at asks
      · split at asks
        · cases List.mem_singleton.mp asks
        · cases asks
      · cases asks
  | beginLogin client user construction => cases asks
  | markConnected client => cases asks
  | endLogin client => cases asks
  | read client => cases asks
  | finish client => cases asks
  | onSocketServer client accepted => cases asks
  | onSocket client recv now writes => cases asks
  | onSTDIN line => cases asks

/-- A message of an activity that has no user would not name its sender. -/
def Named : NetworkRequest → Prop
  | .login _ => True
  | .message req => req.sender.isSome = true

theorem named_of_outgoing {events : List SystemEvent} {client : Nat}
    {request : NetworkRequest}
    (waits : request ∈ (((machine platform).run events).clients client).outgoing) :
    Named request := by
  obtain ⟨before, event, _, _, asks⟩ := asked_of_outgoing waits
  cases request with
  | login req => trivial
  | message req =>
      obtain ⟨_, _, _, loggedIn, sender⟩ := asked_message asks
      rw [Named, sender]
      exact kept_run (MainActivity.Known.kept platform) before client loggedIn

end AndroidMessenger.Chat.System
