import AndroidMessenger.Library.Group
import AndroidMessenger.Server.Names

namespace AndroidMessenger.Server

open Library Msg Networking

variable {codecs : Codecs}

/-! The server as group communication: accepting a socket is a join, removing it
a leave, and answering a request publishes the response. -/

def groupStep : Action → Option (GroupStep SocketPtr Response)
  | .accepted ptr => some (.join ptr)
  | .removed ptr => some (.leave ptr)
  | .answered _ _ res => some (.publish res)
  | .wrote .. => none
  | .closed _ => none

def history (trace : List Action) : List (GroupStep SocketPtr Response) :=
  trace.filterMap groupStep

/-- The responses of the server, in the order in which they were produced. -/
def responses (trace : List Action) : List Response :=
  Group.published (history trace)

/-- The texts that reach the peer of a socket, one for each write. -/
def textsTo (ptr : SocketPtr) (trace : List Action) : List Bytes :=
  trace.filterMap fun
    | .wrote other text outcome =>
        if other = ptr then some (outcome.delivered (Utf8.encode text)) else none
    | _ => none

@[simp] theorem history_append (first second : List Action) :
    history (first ++ second) = history first ++ history second :=
  List.filterMap_append

@[simp] theorem textsTo_append (ptr : SocketPtr) (first second : List Action) :
    textsTo ptr (first ++ second) = textsTo ptr first ++ textsTo ptr second :=
  List.filterMap_append

theorem textsTo_eq_nil {ptr : SocketPtr} {trace : List Action}
    (silent : ∀ text outcome, .wrote ptr text outcome ∉ trace) : textsTo ptr trace = [] := by
  apply List.filterMap_eq_nil_iff.mpr
  intro action inside
  cases action with
  | wrote other text outcome =>
      have different : other ≠ ptr := by
        intro same
        subst same
        exact silent text outcome inside
      simp [different]
  | accepted other => rfl
  | answered other json res => rfl
  | removed other => rfl
  | closed other => rfl

def wroteTo (text : String) (list : List SocketPtr) : List Action :=
  list.map fun ptr => .wrote ptr text .whole

theorem history_wroteTo (text : String) (list : List SocketPtr) :
    history (wroteTo text list) = [] := by
  simp [history, wroteTo, groupStep]

theorem textsTo_wroteTo {ptr : SocketPtr} (text : String) {list : List SocketPtr}
    (nodup : list.Nodup) :
    textsTo ptr (wroteTo text list) = if ptr ∈ list then [Utf8.encode text] else [] := by
  induction list with
  | nil => rfl
  | cons head tail ih =>
      obtain ⟨fresh, rest⟩ := List.nodup_cons.mp nodup
      have step : textsTo ptr (wroteTo text (head :: tail)) =
          textsTo ptr [.wrote head text .whole] ++ textsTo ptr (wroteTo text tail) := by
        rw [← textsTo_append]
        rfl
      rw [step, ih rest]
      by_cases same : head = ptr
      · subst same
        simp [textsTo, WriteOutcome.delivered, fresh]
      · have other : ptr ≠ head := fun equality => same equality.symm
        simp [textsTo, same, other]

/-! Runs in which nothing goes wrong. -/

/-- The line is not an exit line, `recv` does not fail, every `::write` writes the
whole text, and what was read is a request. -/
def Orderly (codecs : Codecs) (_ : List Action) (process : Process) : Event → Prop
  | .socketServer _ => True
  | .stdin line => line ≠ "exit"
  | .socket ptr recv _ writes =>
      ptr ∈ process.server.flexWaiter.sockets →
        recv ≠ .failed ∧ (∀ i, writes i = .whole) ∧
          ∀ chunk, recv = .data chunk → IsRequest codecs chunk

inductive OrderlyEffect (codecs : Codecs) (server : Server) : Reaction → Prop where
  | accepts (fd : Nat) :
      OrderlyEffect codecs server
        { server := (server.makeSocket fd).2.addSocketConnection server.nextPtr
          actions := [.accepted server.nextPtr]
          thrown := none }
  | answers {now : TimePoint} {call : Call} {granted : Server} (ptr : SocketPtr)
      (json : Ptree) (res : Response)
      (dispatched : call.dispatch (visitor now) server = (res, granted)) :
      OrderlyEffect codecs server
        { server := granted
          actions := .answered ptr json res ::
            wroteTo (res.text codecs) server.socketList
          thrown := none }
  | leaves {ptr : SocketPtr} (listed : ptr ∈ server.socketList) (sock : Socket) :
      OrderlyEffect codecs server
        { server := ((server.setSocket ptr sock).removeSocketConnection ptr).server
          actions := [.removed ptr]
          thrown := none }
  | rests (thrown : Option Exn) :
      OrderlyEffect codecs server { server, actions := [], thrown }

theorem orderlyEffect_react {trace : List Action} {process : Process} {event : Event}
    (waiter : ∀ ptr, ptr ∈ process.server.flexWaiter.sockets ↔
      ptr ∈ process.server.socketList)
    (opened : ∀ ptr ∈ process.server.socketList,
      (process.server.heap ptr).isOpen = true)
    (orderly : Orderly codecs trace process event) :
    OrderlyEffect codecs process.server (process.server.react codecs event) := by
  cases event with
  | socketServer accepted =>
      cases accepted with
      | failed errno => exact OrderlyEffect.rests _
      | connection fd => exact OrderlyEffect.accepts fd
  | stdin line =>
      rw [react, onSTDIN, if_neg orderly]
      exact OrderlyEffect.rests none
  | socket ptr recv now writes =>
      by_cases registered : ptr ∈ process.server.flexWaiter.sockets
      · obtain ⟨received, whole, request⟩ := orderly registered
        have isOpen := opened ptr ((waiter ptr).mp registered)
        cases recv with
        | failed => exact absurd rfl received
        | shutdown =>
            rw [react, if_pos registered, onSocket_of_shutdown isOpen]
            have closed : (process.server.setSocket ptr
                { process.server.heap ptr with isOpen := false }).removeSocketConnection
                  ptr = { server := ((process.server.setSocket ptr
                    { process.server.heap ptr with
                      isOpen := false }).removeSocketConnection ptr).server
                          actions := [.removed ptr]
                          thrown := none } := by
              simp [removeSocketConnection, Socket.destroy]
            rw [closed]
            exact OrderlyEffect.leaves ((waiter ptr).mp registered) _
        | data chunk =>
            obtain ⟨str, json, call, stored, parsed, representable, decoded, _⟩ :=
              request chunk rfl
            have visit : Visit codecs process.server ptr chunk json call :=
              ⟨registered, isOpen, ⟨str, stored, parsed⟩, representable, decoded⟩
            rcases dispatched : call.dispatch (visitor now) process.server with
              ⟨res, granted⟩
            rw [react_of_open visit now whole dispatched opened]
            exact OrderlyEffect.answers ptr json res dispatched
      · rw [react, if_neg registered]
        exact OrderlyEffect.rests none

theorem opened_of_orderly {events : List Event}
    (meets : (machine codecs).Meets (Orderly codecs) events) :
    ∀ ptr ∈ ((machine codecs).run events).server.socketList,
      (((machine codecs).run events).server.heap ptr).isOpen = true := by
  refine @Machine.Meets.run_induction _ _ _ (machine codecs) (Orderly codecs)
    (fun events => ∀ ptr ∈ ((machine codecs).run events).server.socketList,
      (((machine codecs).run events).server.heap ptr).isOpen = true) ?_ ?_ events meets
  · intro ptr inside
    exact absurd inside List.not_mem_nil
  · intro events event orderly opened
    rw [Machine.run_concat]
    cases running : ((machine codecs).run events).running with
    | false =>
        rw [step_of_stopped running]
        exact opened
    | true =>
        rw [step_of_running running]
        have effect := orderlyEffect_react (registry codecs events).waiter opened orderly
        generalize ((machine codecs).run events).server = server at effect opened ⊢
        generalize server.react codecs event = reaction at effect ⊢
        cases effect with
        | rests thrown => exact opened
        | answers ptr json res dispatched =>
            rw [dispatch_frame dispatched]
            exact opened
        | leaves listed sock =>
            intro other inside
            obtain ⟨kept, hne⟩ := List.mem_filter.mp inside
            have hne : other ≠ _ := of_decide_eq_true hne
            rw [heap_removeSocketConnection_of_ne _ _ hne, heap_setSocket_of_ne _ _ hne]
            exact opened other kept
        | accepts fd =>
            intro other inside
            change (Function.update server.heap server.nextPtr _ other).isOpen = true
            by_cases fresh : other = server.nextPtr
            · rw [fresh, Function.update_self]
            · rw [Function.update_of_ne fresh]
              rcases List.mem_append.mp inside with kept | last
              · exact opened other kept
              · exact absurd (List.mem_singleton.mp last) fresh

/-! The server hands a socket what the group hands the member. -/

def wire (codecs : Codecs) (res : Response) : Bytes :=
  Utf8.encode (res.text codecs)

theorem delivers_effect {server : Server} {reaction : Reaction}
    (nodup : server.socketList.Nodup) (effect : OrderlyEffect codecs server reaction)
    (ptr : SocketPtr) :
    textsTo ptr reaction.actions =
        (Group.deliveries ptr (decide (ptr ∈ server.socketList))
          (history reaction.actions)).map (wire codecs) ∧
      Group.presentAfter ptr (decide (ptr ∈ server.socketList))
          (history reaction.actions) =
        decide (ptr ∈ reaction.server.socketList) := by
  cases effect with
  | rests thrown => exact ⟨rfl, rfl⟩
  | accepts fd =>
      refine ⟨rfl, ?_⟩
      change ((decide (ptr ∈ server.socketList) || decide (server.nextPtr = ptr)) && true) =
        decide (ptr ∈ server.socketList ++ [server.nextPtr])
      rw [Bool.and_true, ← Bool.decide_or, decide_eq_decide, List.mem_append,
        List.mem_singleton, eq_comm (a := server.nextPtr)]
  | @leaves gone listed sock =>
      refine ⟨rfl, ?_⟩
      change ((decide (ptr ∈ server.socketList) || false) && !decide (gone = ptr)) =
        decide (ptr ∈ server.socketList.filter fun other => other ≠ gone)
      by_cases same : ptr = gone
      · simp [same]
      · have other : gone ≠ ptr := fun equality => same equality.symm
        simp [same, other]
  | answers asker json res dispatched =>
      have steps : history (.answered asker json res ::
          wroteTo (res.text codecs) server.socketList) = [.publish res] := by
        rw [← List.singleton_append, history_append, history_wroteTo]
        rfl
      have texts : textsTo ptr (.answered asker json res ::
          wroteTo (res.text codecs) server.socketList) =
            if ptr ∈ server.socketList then [wire codecs res] else [] := by
        rw [← List.singleton_append, textsTo_append, textsTo_wroteTo _ nodup]
        rfl
      rw [steps, texts, dispatch_frame dispatched]
      constructor
      · by_cases listed : ptr ∈ server.socketList
        · simp [listed, Group.deliveries]
        · simp [listed, Group.deliveries]
      · simp [Group.presentAfter, Group.joins, Group.leaves]

theorem delivers_step {events : List Event} {event : Event}
    (meets : (machine codecs).Meets (Orderly codecs) (events ++ [event]))
    (ptr : SocketPtr) :
    textsTo ptr ((machine codecs).emits ((machine codecs).run events) event) =
        (Group.deliveries ptr
          (decide (ptr ∈ ((machine codecs).run events).server.socketList))
          (history ((machine codecs).emits ((machine codecs).run events) event))).map
            (wire codecs) ∧
      Group.presentAfter ptr
          (decide (ptr ∈ ((machine codecs).run events).server.socketList))
          (history ((machine codecs).emits ((machine codecs).run events) event)) =
        decide (ptr ∈ ((machine codecs).run (events ++ [event])).server.socketList) := by
  rw [Machine.run_concat]
  cases running : ((machine codecs).run events).running with
  | false =>
      rw [step_of_stopped running, emits_of_stopped running]
      exact ⟨rfl, rfl⟩
  | true =>
      rw [step_of_running running, emits_of_running running]
      have tables := registry codecs events
      exact delivers_effect tables.nodup
        (orderlyEffect_react tables.waiter (opened_of_orderly meets.of_concat) meets.last) ptr

theorem delivers_from (first : List Event) {second : List Event}
    (meets : (machine codecs).Meets (Orderly codecs) (first ++ second))
    (ptr : SocketPtr) :
    textsTo ptr ((machine codecs).traceFrom ((machine codecs).run first) second) =
        (Group.deliveries ptr
          (decide (ptr ∈ ((machine codecs).run first).server.socketList))
          (history ((machine codecs).traceFrom ((machine codecs).run first) second))).map
            (wire codecs) ∧
      Group.presentAfter ptr
          (decide (ptr ∈ ((machine codecs).run first).server.socketList))
          (history ((machine codecs).traceFrom ((machine codecs).run first) second)) =
        decide (ptr ∈ ((machine codecs).run (first ++ second)).server.socketList) := by
  induction second using List.reverseRecOn with
  | nil => simp [history, textsTo, Group.deliveries, Group.presentAfter]
  | append_singleton second event ih =>
      rw [← List.append_assoc] at meets
      obtain ⟨texts, present⟩ := ih meets.of_concat
      obtain ⟨stepTexts, stepPresent⟩ := delivers_step meets ptr
      rw [Machine.traceFrom_run_concat, history_append, textsTo_append, Group.deliveries_append,
        Group.presentAfter_append, List.map_append, texts, present, stepTexts, stepPresent,
        List.append_assoc]
      exact ⟨rfl, rfl⟩

theorem joins_history (ptr : SocketPtr) (trace : List Action) :
    ((history trace).filter (Group.joins ptr)).length = trace.count (.accepted ptr) := by
  induction trace with
  | nil => rfl
  | cons action trace ih =>
      rw [List.count_cons, ← ih, ← List.singleton_append, history_append]
      cases action with
      | accepted other =>
          by_cases same : other = ptr
          · simp [history, groupStep, Group.joins, same]
          · simp [history, groupStep, Group.joins, same]
      | answered other json res => simp [history, groupStep, Group.joins]
      | wrote other text outcome => simp [history, groupStep]
      | removed other => simp [history, groupStep, Group.joins]
      | closed other => simp [history, groupStep]

theorem leaves_history {ptr : SocketPtr} {trace : List Action}
    (kept : .removed ptr ∉ trace) :
    ∀ step ∈ history trace, Group.leaves ptr step = false := by
  intro step inside
  obtain ⟨action, member, equality⟩ := List.mem_filterMap.mp inside
  cases action with
  | accepted other => cases equality; rfl
  | answered other json res => cases equality; rfl
  | removed other =>
      cases equality
      simp only [Group.leaves, decide_eq_false_iff_not]
      intro same
      subst same
      exact kept member
  | wrote other text outcome => cases equality
  | closed other => cases equality

theorem textsTo_of_listed (first : List Event) {second : List Event}
    (meets : (machine codecs).Meets (Orderly codecs) (first ++ second)) {ptr : SocketPtr}
    (before : ptr ∈ ((machine codecs).run first).server.socketList)
    (after : ptr ∈ ((machine codecs).run (first ++ second)).server.socketList) :
    textsTo ptr ((machine codecs).traceFrom ((machine codecs).run first) second) =
      (responses ((machine codecs).traceFrom ((machine codecs).run first) second)).map
        (wire codecs) := by
  have kept : .removed ptr ∉
      (machine codecs).traceFrom ((machine codecs).run first) second := by
    intro inside
    apply (((registry codecs (first ++ second)).listed ptr).mp after).2
    rw [Machine.trace_append]
    exact List.mem_append_right _ inside
  rw [(delivers_from first meets ptr).1, decide_eq_true before,
    Group.deliveries_eq_published_of_stays ptr (leaves_history kept)]
  rfl

/-- In every orderly run each socket gets exactly the responses between its
acceptance and its removal, so that two sockets get the same ones while both are
listed, and the requester gets its own. -/
theorem texts_are_responses_of_lifetime (codecs : Codecs) (events : List Event)
    (meets : (machine codecs).Meets (Orderly codecs) events) :
    (∀ ptr,
      textsTo ptr ((machine codecs).trace events) =
          (Group.published (Group.lifetime ptr
            (history ((machine codecs).trace events)))).map (wire codecs) ∧
        Group.published (Group.lifetime ptr (history ((machine codecs).trace events))) <:+:
          responses ((machine codecs).trace events)) ∧
    (∀ before during, events = before ++ during → ∀ first second,
      first ∈ ((machine codecs).run before).server.socketList →
      second ∈ ((machine codecs).run before).server.socketList →
      first ∈ ((machine codecs).run events).server.socketList →
      second ∈ ((machine codecs).run events).server.socketList →
      textsTo first ((machine codecs).traceFrom ((machine codecs).run before) during) =
        textsTo second ((machine codecs).traceFrom ((machine codecs).run before) during)) ∧
    ∀ before event after, events = before ++ event :: after →
      ∀ asker json res,
        .answered asker json res ∈
          (machine codecs).emits ((machine codecs).run before) event →
        textsTo asker ((machine codecs).emits ((machine codecs).run before) event) =
          [wire codecs res] := by
  refine ⟨?_, ?_, ?_⟩
  · intro ptr
    constructor
    · have once := (registry codecs events).once ptr
      rw [← joins_history] at once
      rw [← Group.deliveries_eq_published_lifetime ptr once]
      exact (delivers_from [] meets ptr).1
    · exact Group.published_infix (Group.lifetime_infix ptr _)
  · intro before during same first second firstBefore secondBefore firstAfter secondAfter
    subst same
    rw [textsTo_of_listed before meets firstBefore firstAfter,
      textsTo_of_listed before meets secondBefore secondAfter]
  · intro before event after same asker json res answered
    subst same
    obtain ⟨running, inside⟩ := mem_emits answered
    obtain ⟨chunk, now, writes, call, granted, rfl, visit, dispatched⟩ :=
      visit_of_answered inside
    obtain ⟨_, whole, _⟩ := meets before _ after rfl visit.registered
    have tables := registry codecs before
    have opened := opened_of_orderly meets.of_append
    have listed := (tables.waiter asker).mp visit.registered
    rw [emits_of_running running, react_of_open visit now whole dispatched opened]
    change [] ++ textsTo asker (wroteTo (res.text codecs) _) = _
    rw [textsTo_wroteTo _ tables.nodup, if_pos listed]
    rfl

/-! Two clients: the second one joins after the first one has logged in, and the
first one leaves before the second one is answered again. -/

def twoClients : List Event :=
  [.socketServer (.connection 5), bobReads 0, .socketServer (.connection 6), bobReads 1,
    .socket 0 .shutdown 0 fun _ => .whole, bobReads 1]

theorem orderly_bobReads {trace : List Action} {process : Process} (ptr : SocketPtr) :
    Orderly Codecs.compact trace process (bobReads ptr) := by
  intro _
  refine ⟨by simp, fun _ => rfl, ?_⟩
  intro chunk equality
  obtain rfl : bobChunk = chunk := Recv.data.inj equality
  obtain ⟨str, stored, parsed⟩ := parsed_bob
  exact ⟨str, bobJson, .visitLogin bobLogin, stored, parsed, representable_bob, decoded_bob,
    by simp⟩

theorem orderly_twoClients :
    (machine Codecs.compact).Meets (Orderly Codecs.compact) twoClients := by
  apply Machine.Meets.of_forall
  intro event inside trace process
  simp only [twoClients, List.mem_cons, List.not_mem_nil, or_false] at inside
  rcases inside with rfl | rfl | rfl | rfl | rfl | rfl
  · trivial
  · exact orderly_bobReads 0
  · trivial
  · exact orderly_bobReads 1
  · exact fun _ => ⟨by simp, fun _ => rfl, by simp⟩
  · exact orderly_bobReads 1

def bobGone : Server :=
  ((twoIn.setSocket 0 { twoIn.heap 0 with isOpen := false }).removeSocketConnection 0).server

theorem react_twoIn_shutdown :
    twoIn.react Codecs.compact (.socket 0 .shutdown 0 fun _ => .whole) =
      { server := bobGone, actions := [.removed 0], thrown := none } := by
  rw [react, if_pos (by decide), onSocket_of_shutdown (by decide)]
  rfl

theorem trace_twoClients :
    (machine Codecs.compact).trace twoClients =
      [.accepted 0, .answered 0 bobJson bobGranted,
        .wrote 0 (bobGranted.text Codecs.compact) .whole, .accepted 1,
        .answered 1 bobJson bobRefused, .wrote 0 (bobRefused.text Codecs.compact) .whole,
        .wrote 1 (bobRefused.text Codecs.compact) .whole, .removed 0,
        .answered 1 bobJson bobRefused,
        .wrote 1 (bobRefused.text Codecs.compact) .whole] := by
  have refused := @react_bob_refused twoIn 1 (by decide) (by decide) (by decide) (by decide)
  have again := @react_bob_refused bobGone 1 (by decide) (by decide) (by decide) (by decide)
  have trace := (machine Codecs.compact).trace_append
    [.socketServer (.connection 5), bobReads 0]
    [.socketServer (.connection 6), bobReads 1, .socket 0 .shutdown 0 fun _ => .whole,
      bobReads 1]
  have joined : bobIn.react Codecs.compact (.socketServer (.connection 6)) =
      { server := twoIn, actions := [.accepted 1], thrown := none } := rfl
  rw [trace_bobIn, run_bobIn, traceFrom_of_react rfl joined, traceFrom_of_react rfl refused,
    traceFrom_of_react rfl react_twoIn_shutdown, traceFrom_of_react rfl again] at trace
  exact trace

theorem texts_twoClients :
    textsTo 1 ((machine Codecs.compact).trace twoClients) =
      [wire Codecs.compact bobRefused, wire Codecs.compact bobRefused] := by
  have texts :=
    ((texts_are_responses_of_lifetime Codecs.compact twoClients orderly_twoClients).1 1).1
  rw [texts, trace_twoClients]
  decide +kernel

end AndroidMessenger.Server
