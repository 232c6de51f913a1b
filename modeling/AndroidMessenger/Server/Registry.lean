import AndroidMessenger.Server.Run

namespace AndroidMessenger.Server

open Library Msg Networking

variable {codecs : Codecs}

/-! What one reaction can do, stated once for all invariants of runs. -/

inductive Effect (codecs : Codecs) (server : Server) : Event → Reaction → Prop where
  | accepts (fd : Nat) :
      Effect codecs server (.socketServer (.connection fd))
        { server := (server.makeSocket fd).2.addSocketConnection server.nextPtr
          actions := [.accepted server.nextPtr]
          thrown := none }
  | answers {ptr : SocketPtr} {chunk : Chunk} {now : TimePoint}
      {writes : Nat → WriteOutcome} {json : Ptree} {call : Call} {res : Response}
      {granted after : Server} {sent : List Action} (thrown : Option Exn)
      (visit : Visit codecs server ptr chunk json call)
      (dispatched : call.dispatch (visitor now) server = (res, granted))
      (same : SameTables granted after)
      (wrote : ∀ action ∈ sent, ∃ other text outcome,
        action = .wrote other text outcome ∧ other ∈ server.socketList) :
      Effect codecs server (.socket ptr (.data chunk) now writes)
        { server := after, actions := .answered ptr json res :: sent, thrown }
  | removes {ptr : SocketPtr} {now : TimePoint} {writes : Nat → WriteOutcome}
      {before : Server} (registered : ptr ∈ server.flexWaiter.sockets)
      (same : SameTables server before) :
      Effect codecs server (.socket ptr .shutdown now writes)
        (before.removeSocketConnection ptr)
  | exits : Effect codecs server (.stdin "exit") (server.onSTDIN "exit")
  | rests (event : Event) {after : Server} (thrown : Option Exn)
      (same : SameTables server after) :
      Effect codecs server event { server := after, actions := [], thrown }

theorem effect_onSocket (server : Server) {ptr : SocketPtr}
    (registered : ptr ∈ server.flexWaiter.sockets) (recv : Recv) (now : TimePoint)
    (writes : Nat → WriteOutcome) :
    Effect codecs server (.socket ptr recv now writes)
      (server.onSocket codecs ptr recv now writes) := by
  rcases onSocket_cases codecs ptr recv now writes server with
    ⟨chunk, str, json, res, granted, rfl, opened, stored, hrespond, hreaction⟩ |
    ⟨rfl, _, hreaction⟩ | ⟨sock, thrown, _, hreaction⟩
  · obtain ⟨parsed, representable, call, decoded, dispatched⟩ :=
      respond_eq_ok_iff.mp hrespond
    rw [hreaction]
    refine Effect.answers _ ⟨registered, opened, ⟨str, stored, parsed⟩, representable,
      decoded⟩ dispatched ?_ ?_
    · exact broadcast_sameTables codecs writes res granted
    · intro action inside
      rw [broadcast_eq_writeLoop] at inside
      obtain ⟨other, text, outcome, equality, listed, _⟩ :=
        wrote_of_mem_writeLoop _ _ _ _ _ _ inside
      rw [dispatch_frame dispatched] at listed
      exact ⟨other, text, outcome, equality, listed⟩
  · rw [hreaction]
    exact Effect.removes registered (sameTables_setSocket ..)
  · rw [hreaction]
    exact Effect.rests _ thrown (sameTables_setSocket ..)

theorem effect_react (server : Server) (event : Event) :
    Effect codecs server event (server.react codecs event) := by
  cases event with
  | socketServer accepted =>
      cases accepted with
      | failed errno => exact Effect.rests _ _ (SameTables.refl server)
      | connection fd => exact Effect.accepts fd
  | socket ptr recv now writes =>
      rw [react]
      split
      · rename_i registered
        exact effect_onSocket server registered recv now writes
      · exact Effect.rests _ none (SameTables.refl server)
  | stdin line =>
      by_cases exit : line = "exit"
      · rw [react, exit]
        exact Effect.exits
      · rw [react, onSTDIN, if_neg exit]
        exact Effect.rests _ none (SameTables.refl server)

/-- What every removal of a listed socket keeps, the loop of `onSTDIN` keeps. -/
theorem removeLoop_induction {invariant : List Action → Server → Prop}
    (remove : ∀ trace server ptr, ptr ∈ server.socketList → invariant trace server →
      invariant (trace ++ (server.removeSocketConnection ptr).actions)
        (server.removeSocketConnection ptr).server)
    (fuel i : Nat) {trace : List Action} {server : Server}
    (held : invariant trace server) :
    invariant (trace ++ (removeLoop fuel i server).actions)
      (removeLoop fuel i server).server := by
  induction fuel generalizing i trace server with
  | zero => simpa [removeLoop] using held
  | succ fuel ih =>
      rw [removeLoop]
      cases found : server.socketList[i]? with
      | none => simpa using held
      | some ptr =>
          have listed : ptr ∈ server.socketList := List.mem_of_getElem? found
          have next := ih (i + 1) (remove trace server ptr listed held)
          rw [List.append_assoc] at next
          exact next

theorem tables_induction {invariant : List Action → Server → Prop}
    (initial : invariant [] start)
    (frame : ∀ trace server after, SameTables server after →
      invariant trace server → invariant trace after)
    (halt : ∀ trace server, invariant trace server →
      invariant trace { server with inActivity := false })
    (accept : ∀ trace server fd, invariant trace server →
      invariant (trace ++ [.accepted server.nextPtr])
        ((server.makeSocket fd).2.addSocketConnection server.nextPtr))
    (answer : ∀ trace server ptr now json call res granted writes,
      ptr ∈ server.flexWaiter.sockets → Call.ofJson codecs json = .ok call →
      call.dispatch (visitor now) server = (res, granted) →
      (∀ action ∈ writes, ∃ other text outcome,
        action = .wrote other text outcome ∧ other ∈ server.socketList) →
      invariant trace server →
      invariant (trace ++ .answered ptr json res :: writes) granted)
    (remove : ∀ trace server ptr,
      ptr ∈ server.flexWaiter.sockets ∨ ptr ∈ server.socketList →
      invariant trace server →
      invariant (trace ++ (server.removeSocketConnection ptr).actions)
        (server.removeSocketConnection ptr).server)
    (events : List Event) :
    invariant ((machine codecs).trace events) ((machine codecs).run events).server := by
  refine Server.induction initial ?_ events
  intro trace server event _ held
  have effect := @effect_react codecs server event
  generalize server.react codecs event = reaction at effect ⊢
  cases effect with
  | accepts fd => exact accept trace server fd held
  | answers thrown visit dispatched same wrote =>
      apply frame _ _ _ same
      exact answer _ _ _ _ _ _ _ _ _ visit.registered visit.decoded dispatched wrote held
  | removes registered same =>
      apply remove _ _ _ (Or.inl (same.flexWaiter ▸ registered))
      exact frame _ _ _ same held
  | exits =>
      apply halt
      apply removeLoop_induction _ _ _ held
      intro trace server ptr listed
      exact remove trace server ptr (Or.inr listed)
  | rests _ thrown same =>
      rw [List.append_nil]
      exact frame _ _ _ same held

/-! Removals. -/

section Removal

variable (server : Server) (ptr : SocketPtr)

@[simp] theorem socketList_removeSocketConnection :
    (server.removeSocketConnection ptr).server.socketList =
      server.socketList.filter fun other => other ≠ ptr := rfl

@[simp] theorem sockets_removeSocketConnection :
    (server.removeSocketConnection ptr).server.flexWaiter.sockets =
      server.flexWaiter.sockets.erase ptr :=
  FlexWaiter.sockets_removeSocket ..

@[simp] theorem clientNames_removeSocketConnection :
    (server.removeSocketConnection ptr).server.clientNames = server.clientNames := rfl

@[simp] theorem nextPtr_removeSocketConnection :
    (server.removeSocketConnection ptr).server.nextPtr = server.nextPtr := rfl

theorem heap_removeSocketConnection_of_ne {other : SocketPtr} (hne : other ≠ ptr) :
    (server.removeSocketConnection ptr).server.heap other = server.heap other :=
  heap_setSocket_of_ne server _ hne

theorem mem_actions_removeSocketConnection {action : Action}
    (inside : action ∈ (server.removeSocketConnection ptr).actions) :
    action = .removed ptr ∨ action = .closed ptr := by
  simp only [removeSocketConnection, List.mem_cons] at inside
  rcases inside with rfl | inside
  · exact Or.inl rfl
  · split at inside
    · exact Or.inr (List.mem_singleton.mp inside)
    · exact absurd inside List.not_mem_nil

theorem removed_mem_actions :
    .removed ptr ∈ (server.removeSocketConnection ptr).actions :=
  List.mem_cons_self

end Removal

theorem mem_actions_exit {server : Server} {action : Action}
    (inside : action ∈ (server.onSTDIN "exit").actions) :
    ∃ ptr, action = .removed ptr ∨ action = .closed ptr := by
  have removals := @removeLoop_induction (fun trace _ =>
    ∀ action ∈ trace, ∃ ptr, action = .removed ptr ∨ action = .closed ptr) ?_
    server.socketList.length 0 [] server (by simp)
  · exact removals action inside
  · intro trace server ptr _ held action inside
    rcases List.mem_append.mp inside with inside | inside
    · exact held action inside
    · exact ⟨ptr, mem_actions_removeSocketConnection server ptr inside⟩

theorem nextPtr_react (server : Server) {event : Event}
    (unaccepted : ∀ fd, event ≠ .socketServer (.connection fd)) :
    (server.react codecs event).server.nextPtr = server.nextPtr := by
  have effect := @effect_react codecs server event
  generalize server.react codecs event = reaction at effect ⊢
  cases effect with
  | accepts fd => exact absurd rfl (unaccepted fd)
  | answers thrown visit dispatched same wrote =>
      rw [same.nextPtr, dispatch_frame dispatched]
  | removes registered same => exact same.nextPtr
  | exits =>
      exact @removeLoop_induction (fun _ after => after.nextPtr = server.nextPtr)
        (fun _ _ _ _ held => held) server.socketList.length 0 [] server rfl
  | rests _ thrown same => exact same.nextPtr

theorem mem_actions_react {server : Server} {event : Event} {action : Action}
    (inside : action ∈ (server.react codecs event).actions) :
    (∃ ptr, action = .accepted ptr ∨ action = .removed ptr ∨ action = .closed ptr) ∨
    ∃ ptr chunk now writes json call res granted,
      event = .socket ptr (.data chunk) now writes ∧
      Visit codecs server ptr chunk json call ∧
      call.dispatch (visitor now) server = (res, granted) ∧
      SameTables granted (server.react codecs event).server ∧
      .answered ptr json res ∈ (server.react codecs event).actions ∧
      (action = .answered ptr json res ∨ ∃ other text outcome,
        action = .wrote other text outcome ∧ other ∈ server.socketList) := by
  have effect := @effect_react codecs server event
  generalize server.react codecs event = reaction at effect inside ⊢
  cases effect with
  | accepts fd => exact Or.inl ⟨_, Or.inl (List.mem_singleton.mp inside)⟩
  | rests _ thrown same => exact absurd inside List.not_mem_nil
  | removes registered same =>
      exact Or.inl ⟨_, Or.inr (mem_actions_removeSocketConnection _ _ inside)⟩
  | exits =>
      obtain ⟨ptr, removal⟩ := mem_actions_exit inside
      exact Or.inl ⟨ptr, Or.inr removal⟩
  | answers thrown visit dispatched same wrote =>
      right
      refine ⟨_, _, _, _, _, _, _, _, rfl, visit, dispatched, same, List.mem_cons_self, ?_⟩
      rcases List.mem_cons.mp inside with equality | inside
      · exact Or.inl equality
      · exact Or.inr (wrote action inside)

theorem visit_of_answered {server : Server} {event : Event} {ptr : SocketPtr}
    {json : Ptree} {res : Response}
    (inside : .answered ptr json res ∈ (server.react codecs event).actions) :
    ∃ chunk now writes call granted, event = .socket ptr (.data chunk) now writes ∧
      Visit codecs server ptr chunk json call ∧
        call.dispatch (visitor now) server = (res, granted) := by
  rcases mem_actions_react inside with ⟨other, done⟩ |
    ⟨asker, chunk, now, writes, tree, call, answer, granted, socket, visit, dispatched, _, _,
      answered | ⟨_, _, _, wrote, _⟩⟩
  · simp at done
  · cases answered
    exact ⟨chunk, now, writes, call, granted, socket, visit, dispatched⟩
  · cases wrote

theorem answered_of_wrote {server : Server} {event : Event} {target : SocketPtr}
    {text : String} {outcome : WriteOutcome}
    (inside : .wrote target text outcome ∈ (server.react codecs event).actions) :
    target ∈ server.socketList ∧
      (server.react codecs event).server.socketList = server.socketList ∧
      ∃ ptr json res, .answered ptr json res ∈ (server.react codecs event).actions := by
  rcases mem_actions_react inside with ⟨other, done⟩ |
    ⟨asker, chunk, now, writes, tree, call, answer, granted, _, _, dispatched, same, answered,
      equality | ⟨other, _, _, wrote, listed⟩⟩
  · simp at done
  · cases equality
  · cases wrote
    refine ⟨listed, ?_, asker, tree, answer, answered⟩
    rw [same.socketList, dispatch_frame dispatched]

/-! The two containers hold the sockets that were accepted and not removed. -/

structure Registry (trace : List Action) (server : Server) : Prop where
  nodup : server.socketList.Nodup
  waiter : ∀ ptr, ptr ∈ server.flexWaiter.sockets ↔ ptr ∈ server.socketList
  listed : ∀ ptr, ptr ∈ server.socketList ↔
    .accepted ptr ∈ trace ∧ .removed ptr ∉ trace
  fresh : ∀ ptr, .accepted ptr ∈ trace → ptr < server.nextPtr
  once : ∀ ptr, trace.count (.accepted ptr) ≤ 1
  removed : ∀ ptr, .removed ptr ∈ trace → .accepted ptr ∈ trace
  answered : ∀ ptr json res, .answered ptr json res ∈ trace → .accepted ptr ∈ trace

namespace Registry

theorem initial : Registry [] start where
  nodup := List.nodup_nil
  waiter := by simp [start]
  listed := by simp [start]
  fresh := by simp
  once := by simp
  removed := by simp
  answered := by simp

variable {trace : List Action} {server : Server}

theorem frame (held : Registry trace server) {after : Server}
    (socketList : after.socketList = server.socketList)
    (flexWaiter : after.flexWaiter = server.flexWaiter)
    (nextPtr : after.nextPtr = server.nextPtr) : Registry trace after where
  nodup := socketList ▸ held.nodup
  waiter := by simpa [socketList, flexWaiter] using held.waiter
  listed := by simpa [socketList] using held.listed
  fresh := by simpa [nextPtr] using held.fresh
  once := held.once
  removed := held.removed
  answered := held.answered

theorem accept (held : Registry trace server) (fd : Nat) :
    Registry (trace ++ [.accepted server.nextPtr])
      ((server.makeSocket fd).2.addSocketConnection server.nextPtr) := by
  have unused : .accepted server.nextPtr ∉ trace := fun inside =>
    Nat.lt_irrefl _ (held.fresh _ inside)
  have kept : .removed server.nextPtr ∉ trace := fun inside =>
    unused (held.removed _ inside)
  have unlisted : server.nextPtr ∉ server.socketList := fun inside =>
    unused ((held.listed _).mp inside).1
  refine ⟨?_, ?_, ?_, ?_, ?_, ?_, ?_⟩
  · exact List.nodup_append.mpr ⟨held.nodup, by simp, by
      intro ptr inside other last
      rw [List.mem_singleton.mp last]
      intro same
      subst same
      exact unlisted inside⟩
  · intro ptr
    have before := held.waiter ptr
    simp [addSocketConnection, makeSocket, setSocket, before, or_comm]
  · intro ptr
    have before := held.listed ptr
    simp only [addSocketConnection, makeSocket, setSocket, List.mem_append,
      List.mem_singleton, Action.accepted.injEq, reduceCtorEq, or_false, before]
    constructor
    · intro given
      rcases given with ⟨inside, absent⟩ | rfl
      · exact ⟨Or.inl inside, absent⟩
      · exact ⟨Or.inr rfl, kept⟩
    · intro given
      rcases given with ⟨inside | rfl, absent⟩
      · exact Or.inl ⟨inside, absent⟩
      · exact Or.inr rfl
  · intro ptr inside
    simp only [List.mem_append, List.mem_singleton, Action.accepted.injEq] at inside
    simp only [addSocketConnection, makeSocket]
    rcases inside with inside | rfl
    · exact Nat.lt_succ_of_lt (held.fresh ptr inside)
    · exact Nat.lt_succ_self _
  · intro ptr
    have before := held.once ptr
    rw [List.count_append, List.count_singleton]
    split
    · rename_i same
      have same : server.nextPtr = ptr := by simpa using same
      rw [← same, List.count_eq_zero.mpr unused]
    · omega
  · intro ptr inside
    simp only [List.mem_append, List.mem_singleton, reduceCtorEq, or_false] at inside
    exact List.mem_append_left _ (held.removed ptr inside)
  · intro ptr json res inside
    simp only [List.mem_append, List.mem_singleton, reduceCtorEq, or_false] at inside
    exact List.mem_append_left _ (held.answered ptr json res inside)

theorem answer (held : Registry trace server) {ptr : SocketPtr} {json : Ptree}
    {res : Response} {after : Server} {writes : List Action}
    (registered : ptr ∈ server.flexWaiter.sockets)
    (socketList : after.socketList = server.socketList)
    (flexWaiter : after.flexWaiter = server.flexWaiter)
    (nextPtr : after.nextPtr = server.nextPtr)
    (wrote : ∀ action ∈ writes, ∃ other text outcome,
      action = .wrote other text outcome ∧ other ∈ server.socketList) :
    Registry (trace ++ .answered ptr json res :: writes) after := by
  have kept : ∀ action, (∀ other tree answer, action ≠ .answered other tree answer) →
      (∀ other text outcome, action ≠ .wrote other text outcome) →
      (action ∈ trace ++ .answered ptr json res :: writes ↔ action ∈ trace) := by
    intro action notAnswered notWrote
    simp only [List.mem_append, List.mem_cons]
    constructor
    · intro given
      rcases given with inside | rfl | inside
      · exact inside
      · exact absurd rfl (notAnswered ptr json res)
      · obtain ⟨other, text, outcome, equality, _⟩ := wrote action inside
        exact absurd equality (notWrote other text outcome)
    · exact Or.inl
  have accepted := fun other => kept (.accepted other) (by simp) (by simp)
  have removed := fun other => kept (.removed other) (by simp) (by simp)
  have moved := held.frame socketList flexWaiter nextPtr
  refine ⟨moved.nodup, moved.waiter, ?_, ?_, ?_, ?_, ?_⟩
  · intro other
    rw [accepted, removed]
    exact moved.listed other
  · intro other inside
    exact moved.fresh other ((accepted other).mp inside)
  · intro other
    have absent : .accepted other ∉ .answered ptr json res :: writes := by
      intro inside
      rcases List.mem_cons.mp inside with equality | inside
      · cases equality
      · obtain ⟨_, _, _, equality, _⟩ := wrote _ inside
        cases equality
    rw [List.count_append, List.count_eq_zero.mpr absent]
    exact held.once other
  · intro other inside
    exact (accepted other).mpr (held.removed other ((removed other).mp inside))
  · intro other tree answer inside
    apply (accepted other).mpr
    simp only [List.mem_append, List.mem_cons] at inside
    rcases inside with inside | same | inside
    · exact held.answered other tree answer inside
    · have listed := (held.waiter ptr).mp registered
      cases same
      exact ((held.listed ptr).mp listed).1
    · obtain ⟨target, text, outcome, equality, _⟩ := wrote _ inside
      cases equality

theorem remove (held : Registry trace server) {ptr : SocketPtr}
    (listed : ptr ∈ server.socketList) :
    Registry (trace ++ (server.removeSocketConnection ptr).actions)
      (server.removeSocketConnection ptr).server := by
  have other_actions : ∀ action, action ≠ .removed ptr → action ≠ .closed ptr →
      (action ∈ trace ++ (server.removeSocketConnection ptr).actions ↔
        action ∈ trace) := by
    intro action notRemoved notClosed
    rw [List.mem_append, or_iff_left]
    intro inside
    rcases mem_actions_removeSocketConnection server ptr inside with rfl | rfl
    · exact notRemoved rfl
    · exact notClosed rfl
  have accepted := fun other => other_actions (.accepted other) (by simp) (by simp)
  refine ⟨held.nodup.filter _, ?_, ?_, ?_, ?_, ?_, ?_⟩
  · intro other
    simp [held.waiter, and_comm]
  · intro other
    rw [socketList_removeSocketConnection, List.mem_filter, accepted, held.listed]
    by_cases same : other = ptr
    · subst same
      simp [removed_mem_actions]
    · rw [other_actions (.removed other) (by simpa using same) (by simp)]
      simp [same]
  · intro other inside
    exact held.fresh other ((accepted other).mp inside)
  · intro other
    have absent : .accepted other ∉ (server.removeSocketConnection ptr).actions := by
      intro inside
      rcases mem_actions_removeSocketConnection server ptr inside with equality | equality
      · cases equality
      · cases equality
    rw [List.count_append, List.count_eq_zero.mpr absent]
    exact held.once other
  · intro other inside
    apply (accepted other).mpr
    by_cases same : other = ptr
    · subst same
      exact ((held.listed other).mp listed).1
    · exact held.removed other
        ((other_actions (.removed other) (by simpa using same) (by simp)).mp inside)
  · intro other json res inside
    apply (accepted other).mpr
    exact held.answered other json res ((other_actions _ (by simp) (by simp)).mp inside)

end Registry

theorem registry (codecs : Codecs) (events : List Event) :
    Registry ((machine codecs).trace events) ((machine codecs).run events).server := by
  refine @tables_induction codecs Registry Registry.initial ?_ ?_ ?_ ?_ ?_ events
  · intro trace server after same held
    exact held.frame same.socketList same.flexWaiter same.nextPtr
  · intro trace server held
    exact held.frame rfl rfl rfl
  · intro trace server fd held
    exact held.accept fd
  · intro trace server ptr now json call res granted writes registered _ dispatched
      wrote held
    have frame := dispatch_frame dispatched
    exact held.answer registered (by rw [frame]) (by rw [frame]) (by rw [frame]) wrote
  · intro trace server ptr present held
    apply held.remove
    rcases present with registered | listed
    · exact (held.waiter ptr).mp registered
    · exact listed

end AndroidMessenger.Server
