import AndroidMessenger.Library.LowestFree
import AndroidMessenger.Networking.FdSets
import AndroidMessenger.Server.Containers

namespace AndroidMessenger.Server

open Library Msg Networking

variable {codecs : Codecs}

/-! How many connections the sets of `select` have room for. -/

/-- The master is made first, and the event in the first call of `wait`.  The kernel
gives both the lowest number that the process does not have yet. -/
structure Startup (inherited : Finset Nat) (master killEvent : Nat) : Prop where
  first : IsLeast { fd | fd ∉ inherited } master
  second : IsLeast { fd | fd ∉ insert master inherited } killEvent

/-- The descriptors of the process: those of the start and those of the accepted sockets,
up to the ones that a destructor has closed. -/
def held (inherited : Finset Nat) (master killEvent : Nat) (trace : List Action)
    (server : Server) : Finset Nat :=
  insert killEvent (insert master inherited) ∪
    (((acceptedSockets trace).filter fun ptr => .closed ptr ∉ trace).map
      fun ptr => (server.heap ptr).fd).toFinset

/-- `accept` returns the lowest number that the process does not have. -/
def AcceptsLowest (inherited : Finset Nat) (master killEvent : Nat) (trace : List Action)
    (process : Process) : Event → Prop
  | .socketServer (.connection fd) => process.running = true →
      IsLeast { fd | fd ∉ held inherited master killEvent trace process.server } fd
  | _ => True

/-- The call looks at the sockets that the server has registered. -/
structure WaitsOn (server : Server) (wait : Wait) : Prop where
  waiter : wait.waiter = server.flexWaiter
  heap : ∀ ptr ∈ wait.order, wait.heap ptr = server.heap ptr

/-- In whichever order the sockets are iterated and whatever is ready. -/
def WaitsInRange (master killEvent : Nat) (server : Server) : Prop :=
  ∀ wait, WaitsOn server wait → wait.master = some master → wait.Counts →
    wait.InRange killEvent

def StaysInRange (codecs : Codecs) (master killEvent : Nat) (events : List Event) : Prop :=
  ∀ before after, events = before ++ after → ((machine codecs).run before).running = true →
    WaitsInRange master killEvent ((machine codecs).run before).server

/-- Where a registered socket is open, the one that was accepted last is. -/
def NewestOpen (server : Server) : Prop :=
  ∀ ptr ∈ server.flexWaiter.sockets, (server.heap ptr).isOpen = true →
    ∃ newest ∈ server.flexWaiter.sockets, (server.heap newest).isOpen = true ∧
      ∀ other ∈ server.flexWaiter.sockets, other ≤ newest

/-- All connections of the run, the ended ones too, have numbers below the size of the
set. -/
def FitsInSet (inherited : Finset Nat) (trace : List Action) : Prop :=
  (inherited.filter (· < fdSetSize)).card + 2 + (acceptedSockets trace).length ≤ fdSetSize

/-! A socket keeps its number. -/

theorem fd_setSocket {server : Server} {target : SocketPtr} {sock : Socket}
    (kept : sock.fd = (server.heap target).fd) (ptr : SocketPtr) :
    ((server.setSocket target sock).heap ptr).fd = (server.heap ptr).fd := by
  by_cases same : ptr = target
  · rw [same, heap_setSocket_self, kept]
  · rw [heap_setSocket_of_ne server sock same]

theorem fd_writeLoop (json : Ptree) (writes : Nat → WriteOutcome) (i : Nat)
    (list : List SocketPtr) (server : Server) (ptr : SocketPtr) :
    ((writeLoop codecs json writes i list server).server.heap ptr).fd =
      (server.heap ptr).fd := by
  induction list generalizing i server with
  | nil => rfl
  | cons target rest ih =>
      unfold writeLoop
      cases Json.toText codecs json false with
      | error exn => rfl
      | ok text =>
          simp only
          cases wrote : (server.heap target).write (Utf8.encode text) (writes i) with
          | error exn => rfl
          | ok result =>
              obtain ⟨ret, sock⟩ := result
              have kept : sock.fd = (server.heap target).fd := by
                obtain ⟨_, ⟨_, rfl⟩ | ⟨_, rfl⟩⟩ := Socket.write_cases wrote
                · rfl
                · rfl
              rw [ih]
              exact fd_setSocket kept ptr

theorem fd_removeSocketConnection (server : Server) (gone ptr : SocketPtr) :
    ((server.removeSocketConnection gone).server.heap ptr).fd = (server.heap ptr).fd := by
  have kept : (server.heap gone).destroy.2.fd = (server.heap gone).fd := by
    cases opened : (server.heap gone).isOpen with
    | false => simp [Socket.destroy, opened]
    | true => simp [Socket.destroy, Socket.close, opened]
  exact fd_setSocket kept ptr

theorem fd_onSocket (target : SocketPtr) (recv : Recv) (now : TimePoint)
    (writes : Nat → WriteOutcome) (server : Server) (ptr : SocketPtr) :
    ((server.onSocket codecs target recv now writes).server.heap ptr).fd =
      (server.heap ptr).fd := by
  rcases onSocket_cases codecs target recv now writes server with
    ⟨chunk, str, json, res, granted, _, _, _, responded, reaction⟩ |
    ⟨_, _, reaction⟩ | ⟨sock, thrown, kept, reaction⟩
  · obtain ⟨_, _, call, _, dispatched⟩ := respond_eq_ok_iff.mp responded
    rw [reaction, broadcast_eq_writeLoop]
    change ((writeLoop codecs _ writes 0 _ granted).server.heap ptr).fd = _
    rw [fd_writeLoop, dispatch_frame dispatched]
  · rw [reaction, fd_removeSocketConnection]
    apply fd_setSocket
    rfl
  · rw [reaction]
    exact fd_setSocket kept ptr

theorem fd_react (server : Server) (event : Event) {ptr : SocketPtr}
    (old : ptr < server.nextPtr) :
    ((server.react codecs event).server.heap ptr).fd = (server.heap ptr).fd := by
  cases event with
  | socketServer accepted =>
      cases accepted with
      | connection fd =>
          change ((server.setSocket server.nextPtr { fd, isOpen := true }).heap ptr).fd = _
          rw [heap_setSocket_of_ne server _ (Nat.ne_of_lt old)]
      | failed errno => rfl
  | stdin line =>
      rw [react, onSTDIN]
      split
      · exact @removeLoop_induction
          (fun _ after => (after.heap ptr).fd = (server.heap ptr).fd)
          (fun _ after gone _ kept => (fd_removeSocketConnection after gone ptr).trans kept)
          server.socketList.length 0 [] server rfl
      · rfl
  | socket target recv now writes =>
      rw [react]
      split
      · exact fd_onSocket ..
      · rfl

namespace Startup

variable {inherited : Finset Nat} {master killEvent : Nat}

theorem master_eq (startup : Startup inherited master killEvent) :
    master = handedOut inherited 0 := by
  refine (@isLeast_free_iff inherited inherited 0 ?_ master).mp startup.first
  intro number
  simp

theorem killEvent_eq (startup : Startup inherited master killEvent) :
    killEvent = handedOut inherited 1 := by
  refine (@isLeast_free_iff inherited (insert master inherited) 1 ?_ killEvent).mp
    startup.second
  intro number
  rw [Finset.mem_insert, or_comm, startup.master_eq]
  simp [eq_comm]

end Startup

/-- While the server runs nothing has been given back, so that the sockets have the
numbers after those of the master and of the event, in accept order. -/
structure Numbered (inherited : Finset Nat) (trace : List Action) (server : Server) :
    Prop where
  accepted : acceptedSockets trace = List.range server.nextPtr
  unclosed : ∀ ptr, .closed ptr ∉ trace
  numbers : ∀ ptr < server.nextPtr,
    (server.heap ptr).fd = handedOut inherited (ptr + 2)

namespace Numbered

variable {inherited : Finset Nat} {trace : List Action} {server : Server}

theorem initial : Numbered inherited [] start where
  accepted := rfl
  unclosed _ := List.not_mem_nil
  numbers ptr below := absurd below (Nat.not_lt_zero ptr)

theorem mem_held (numbered : Numbered inherited trace server) {master killEvent : Nat}
    (startup : Startup inherited master killEvent) (number : Nat) :
    number ∈ held inherited master killEvent trace server ↔
      number ∈ inherited ∨
        ∃ earlier < server.nextPtr + 2, handedOut inherited earlier = number := by
  have sockets : (acceptedSockets trace).filter (fun ptr => .closed ptr ∉ trace) =
      List.range server.nextPtr := by
    rw [List.filter_eq_self.mpr, numbered.accepted]
    intro ptr _
    exact decide_eq_true (numbered.unclosed ptr)
  rw [held, sockets, startup.killEvent_eq, startup.master_eq]
  simp only [Finset.mem_union, Finset.mem_insert, List.mem_toFinset, List.mem_map,
    List.mem_range]
  constructor
  · intro given
    rcases given with (rfl | rfl | taken) | ⟨ptr, below, rfl⟩
    · exact Or.inr ⟨1, Nat.succ_lt_succ (Nat.succ_pos _), rfl⟩
    · exact Or.inr ⟨0, Nat.succ_pos _, rfl⟩
    · exact Or.inl taken
    · exact Or.inr ⟨ptr + 2, Nat.add_lt_add_right below 2, (numbered.numbers ptr below).symm⟩
  · intro given
    rcases given with taken | ⟨earlier, below, rfl⟩
    · exact Or.inl (Or.inr (Or.inr taken))
    · match earlier with
      | 0 => exact Or.inl (Or.inr (Or.inl rfl))
      | 1 => exact Or.inl (Or.inl rfl)
      | ptr + 2 =>
          have old := Nat.lt_of_add_lt_add_right below
          exact Or.inr ⟨ptr, old, numbered.numbers ptr old⟩

theorem accept (numbered : Numbered inherited trace server) {fd : Nat}
    (next : fd = handedOut inherited (server.nextPtr + 2)) :
    Numbered inherited (trace ++ [.accepted server.nextPtr])
      ((server.makeSocket fd).2.addSocketConnection server.nextPtr) where
  accepted := by
    change _ = List.range (server.nextPtr + 1)
    rw [List.range_succ, ← numbered.accepted, acceptedSockets_append]
    rfl
  unclosed ptr := by
    simpa using numbered.unclosed ptr
  numbers ptr below := by
    have split : ptr < server.nextPtr + 1 := below
    change ((server.setSocket server.nextPtr { fd, isOpen := true }).heap ptr).fd = _
    by_cases last : ptr = server.nextPtr
    · rw [last, heap_setSocket_self]
      exact next
    · rw [heap_setSocket_of_ne server _ last]
      exact numbered.numbers ptr (Nat.lt_of_le_of_ne (Nat.le_of_lt_succ split) last)

theorem frame (numbered : Numbered inherited trace server) {after : Server}
    {actions : List Action} (nextPtr : after.nextPtr = server.nextPtr)
    (none : acceptedSockets actions = []) (unclosed : ∀ ptr, .closed ptr ∉ actions)
    (numbers : ∀ ptr < server.nextPtr, (after.heap ptr).fd = (server.heap ptr).fd) :
    Numbered inherited (trace ++ actions) after where
  accepted := by
    rw [nextPtr, ← numbered.accepted, acceptedSockets_append, none, List.append_nil]
  unclosed ptr inside := by
    rcases List.mem_append.mp inside with before | last
    · exact numbered.unclosed ptr before
    · exact unclosed ptr last
  numbers ptr below := by
    rw [nextPtr] at below
    rw [numbers ptr below]
    exact numbered.numbers ptr below

end Numbered

theorem numbered_run {inherited : Finset Nat} {master killEvent : Nat}
    (startup : Startup inherited master killEvent) {events : List Event}
    (lowest : (machine codecs).Meets (AcceptsLowest inherited master killEvent) events)
    (running : ((machine codecs).run events).running = true) :
    Numbered inherited ((machine codecs).trace events)
      ((machine codecs).run events).server := by
  refine @Machine.Meets.induction _ _ _ (machine codecs)
    (AcceptsLowest inherited master killEvent)
    (fun trace process => process.running = true → Numbered inherited trace process.server)
    (fun _ => Numbered.initial) ?_ events lowest running
  intro trace process event guarded ih active
  cases before : process.running with
  | false =>
      rw [step_of_stopped before, before] at active
      cases active
  | true =>
      have numbered := ih before
      rw [step_of_running before, emits_of_running before] at *
      rcases moves_cases codecs before event with ⟨fd, rfl⟩ | rfl |
        ⟨ptr, now, writes, rfl, registered, _, _, removal⟩ | ⟨_, quiet⟩
      · apply numbered.accept
        exact (isLeast_free_iff (numbered.mem_held startup) fd).mp (guarded before)
      · rw [Process.running_iff] at active
        exact absurd active.1 Bool.false_ne_true
      · refine numbered.frame ?_ ?_ ?_ fun other => fd_react _ _
        · rw [removal]
          rfl
        · rw [removal]
          exact acceptedSockets_removal ..
        · intro other closed
          rw [removal] at closed
          simp [removeSocketConnection, Socket.destroy] at closed
      · exact numbered.frame quiet.nextPtr (acceptedSockets_of_speaks quiet.talk)
          (fun ptr closed => Bool.false_ne_true (quiet.talk _ closed)) fun other => fd_react _ _

/-! A call of `wait` that finds one number ready. -/

def asking (server : Server) (master fd : Nat) (order : List SocketPtr)
    (nodup : order.Nodup) (enumerates : ∀ ptr, ptr ∈ order ↔ ptr ∈ server.flexWaiter.sockets) :
    Wait where
  waiter := server.flexWaiter
  order := order
  nodup := nodup
  enumerates := enumerates
  heap := server.heap
  master := some master
  eventfd := none
  select := Wait.selectOnly fd
  within := Wait.selectOnly_within fd
  killRead := 8
  stdinRead := .failed

theorem counts_asking {server : Server} {master fd : Nat} {order : List SocketPtr}
    (nodup : order.Nodup) (enumerates : ∀ ptr, ptr ∈ order ↔ ptr ∈ server.flexWaiter.sockets) :
    (asking server master fd order nodup enumerates).Counts := by
  intro watch theSet selected
  change Wait.selectOnly fd watch = .ready theSet at selected
  unfold Wait.selectOnly at selected
  split at selected
  · obtain rfl := Selected.ready.inj selected
    exact Finset.singleton_nonempty fd
  · cases selected

theorem waitsOn_asking {server : Server} {master fd : Nat} {order : List SocketPtr}
    (nodup : order.Nodup) (enumerates : ∀ ptr, ptr ∈ order ↔ ptr ∈ server.flexWaiter.sockets) :
    WaitsOn server (asking server master fd order nodup enumerates) where
  waiter := rfl
  heap _ _ := rfl

theorem select_asking {server : Server} {master fd killEvent : Nat} {order : List SocketPtr}
    (nodup : order.Nodup) (enumerates : ∀ ptr, ptr ∈ order ↔ ptr ∈ server.flexWaiter.sockets)
    (watched : fd ∈ ((asking server master fd order nodup enumerates).watch killEvent).theSet) :
    (asking server master fd order nodup enumerates).select
        ((asking server master fd order nodup enumerates).watch killEvent) = .ready {fd} :=
  if_pos ⟨watched, Nat.lt_succ_of_le (Wait.watch_le_maxFD _ fd watched)⟩

section Bounds

variable {inherited : Finset Nat} {master killEvent : Nat} {trace : List Action}
  {server : Server} (startup : Startup inherited master killEvent)
  (numbered : Numbered inherited trace server)
  (fresh : ∀ ptr ∈ server.flexWaiter.sockets, ptr < server.nextPtr)

include startup numbered in
theorem below_fd {ptr : SocketPtr} (old : ptr < server.nextPtr) :
    stdinFileno < (server.heap ptr).fd ∧ master < (server.heap ptr).fd ∧
      killEvent < (server.heap ptr).fd := by
  have increasing := handedOut_strictMono inherited
  rw [numbered.numbers ptr old, startup.master_eq, startup.killEvent_eq]
  refine ⟨?_, increasing (Nat.succ_pos _), increasing (Nat.succ_lt_succ (Nat.succ_pos _))⟩
  exact Nat.lt_of_lt_of_le (Nat.succ_pos _) (increasing.le_apply)

include numbered in
theorem fd_le_iff {ptr other : SocketPtr} (old : ptr < server.nextPtr)
    (oldOther : other < server.nextPtr) :
    (server.heap ptr).fd ≤ (server.heap other).fd ↔ ptr ≤ other := by
  rw [numbered.numbers ptr old, numbered.numbers other oldOther,
    (handedOut_strictMono inherited).le_iff_le]
  exact Nat.add_le_add_iff_right

include startup numbered fresh in
theorem le_open_of_lt_nfds {wait : Wait} (waits : WaitsOn server wait)
    (isMaster : wait.master = some master) {ptr : SocketPtr} (old : ptr < server.nextPtr)
    (below : (server.heap ptr).fd < wait.nfds killEvent) :
    ∃ other ∈ server.flexWaiter.sockets,
      (server.heap other).isOpen = true ∧ ptr ≤ other := by
  have reached := Nat.le_of_lt_succ below
  obtain ⟨overStdin, overMaster, overKill⟩ := below_fd startup numbered old
  rcases wait.mem_watch.mp (wait.maxFD_mem_watch killEvent) with
    same | same | same | ⟨other, listed, opened, same⟩
  · rw [same] at reached
    exact absurd overKill (Nat.not_lt.mpr reached)
  · rw [same] at reached
    exact absurd overStdin (Nat.not_lt.mpr reached)
  · rw [isMaster] at same
    rw [← Option.some.inj same] at reached
    exact absurd overMaster (Nat.not_lt.mpr reached)
  · have registered := (wait.enumerates other).mp listed
    rw [waits.waiter] at registered
    rw [waits.heap other listed] at opened same
    rw [← same] at reached
    exact ⟨other, registered, opened,
      (fd_le_iff numbered old (fresh other registered)).mp reached⟩

include startup numbered fresh in
theorem le_open_of_waitsInRange (inRange : WaitsInRange master killEvent server)
    {ptr : SocketPtr} (registered : ptr ∈ server.flexWaiter.sockets)
    (opened : (server.heap ptr).isOpen = true) {child : SocketPtr}
    (inside : child ∈ server.flexWaiter.sockets) :
    ∃ other ∈ server.flexWaiter.sockets,
      (server.heap other).isOpen = true ∧ child ≤ other := by
  have nodup : (child :: (server.flexWaiter.sockets.erase child).toList).Nodup := by
    rw [List.nodup_cons]
    exact ⟨by simp, Finset.nodup_toList _⟩
  have enumerates : ∀ other, other ∈ child :: (server.flexWaiter.sockets.erase child).toList ↔
      other ∈ server.flexWaiter.sockets := by
    intro other
    rw [List.mem_cons, Finset.mem_toList, ← Finset.mem_insert, Finset.insert_erase inside]
  let wait := asking server master (server.heap ptr).fd _ nodup enumerates
  have watched : (server.heap ptr).fd ∈ (wait.watch killEvent).theSet :=
    wait.mem_watch.mpr (Or.inr (Or.inr (Or.inr
      ⟨ptr, (enumerates ptr).mpr registered, opened, rfl⟩)))
  obtain ⟨noStdin, noMaster, notKilled⟩ := below_fd startup numbered (fresh ptr registered)
  have asked : (server.heap child).fd ∈ wait.fdIsSet killEvent := by
    refine wait.head_mem_fdIsSet rfl (select_asking nodup enumerates watched) ?_ ?_ ?_
    · exact fun same => Nat.ne_of_lt notKilled (Finset.mem_singleton.mp same)
    · exact fun same => Nat.ne_of_lt noStdin (Finset.mem_singleton.mp same)
    · intro fd same inside
      obtain rfl := Option.some.inj same
      exact Nat.ne_of_lt noMaster (Finset.mem_singleton.mp inside)
  have waits : WaitsOn server wait := waitsOn_asking nodup enumerates
  have below := (inRange wait waits rfl (counts_asking nodup enumerates) _
    (List.mem_append_right _ asked)).2
  exact le_open_of_lt_nfds startup numbered fresh waits rfl (fresh child inside) below

include startup numbered fresh in
theorem newestOpen_of_waitsInRange (inRange : WaitsInRange master killEvent server) :
    NewestOpen server := by
  intro ptr registered opened
  have some : server.flexWaiter.sockets.Nonempty := ⟨ptr, registered⟩
  obtain ⟨other, inside, isOpen, above⟩ := le_open_of_waitsInRange startup numbered fresh
    inRange registered opened (server.flexWaiter.sockets.max'_mem some)
  refine ⟨other, inside, isOpen, ?_⟩
  intro older olderInside
  exact Nat.le_trans (server.flexWaiter.sockets.le_max' older olderInside) above

theorem fd_lt_of_waitsInRange (inRange : WaitsInRange master killEvent server) :
    killEvent < fdSetSize ∧ ∀ ptr ∈ server.flexWaiter.sockets,
      (server.heap ptr).isOpen = true → (server.heap ptr).fd < fdSetSize := by
  have nodup := server.flexWaiter.sockets.nodup_toList
  have enumerates : ∀ ptr, ptr ∈ server.flexWaiter.sockets.toList ↔
      ptr ∈ server.flexWaiter.sockets := fun ptr => Finset.mem_toList
  let wait := asking server master 0 _ nodup enumerates
  have bounds := inRange wait (waitsOn_asking nodup enumerates) rfl
    (counts_asking nodup enumerates)
  have watched : ∀ fd ∈ (wait.watch killEvent).theSet, fd < fdSetSize := fun fd inside =>
    (bounds fd (List.mem_append_left _ ((wait.mem_fdSet).mpr inside))).1
  constructor
  · exact watched _ (wait.mem_watch.mpr (Or.inl rfl))
  · intro ptr registered opened
    exact watched _ (wait.mem_watch.mpr (Or.inr (Or.inr (Or.inr
      ⟨ptr, (enumerates ptr).mpr registered, opened, rfl⟩))))

theorem handedOut_lt_of_fits {total count : Nat}
    (fits : (inherited.filter (· < fdSetSize)).card + 2 + total ≤ fdSetSize)
    (below : count < total + 2) : handedOut inherited count < fdSetSize := by
  rw [handedOut_lt_iff]
  omega

include startup numbered fresh in
theorem waitsInRange_of_newestOpen
    (fits : (inherited.filter (· < fdSetSize)).card + 2 + server.nextPtr ≤ fdSetSize)
    (newestOpen : NewestOpen server) : WaitsInRange master killEvent server := by
  have small : ∀ ptr ∈ server.flexWaiter.sockets, (server.heap ptr).fd < fdSetSize := by
    intro ptr registered
    have old := fresh ptr registered
    rw [numbered.numbers ptr old]
    exact handedOut_lt_of_fits fits (Nat.add_lt_add_right old 2)
  intro wait waits isMaster counts
  have member : ∀ ptr ∈ wait.order, ptr ∈ server.flexWaiter.sockets := by
    intro ptr inside
    rw [← waits.waiter]
    exact (wait.enumerates ptr).mp inside
  have watched : ∀ fd ∈ (wait.watch killEvent).theSet,
      fd < fdSetSize ∧ fd < wait.nfds killEvent := by
    intro fd inside
    refine ⟨?_, wait.lt_nfds inside⟩
    rcases wait.mem_watch.mp inside with rfl | rfl | same | ⟨ptr, listed, _, rfl⟩
    · rw [startup.killEvent_eq]
      exact handedOut_lt_of_fits fits (Nat.succ_lt_succ (Nat.succ_pos _))
    · decide
    · rw [isMaster] at same
      rw [← Option.some.inj same, startup.master_eq]
      exact handedOut_lt_of_fits fits (Nat.succ_pos _)
    · rw [waits.heap ptr listed]
      exact small ptr (member ptr listed)
  intro fd inside
  rcases List.mem_append.mp inside with isSet | asked
  · exact watched fd (wait.mem_fdSet.mp isSet)
  · rcases wait.fdIsSet_cases asked with isSet |
      ⟨theSet, selected, notKilled, noStdin, noMaster, ptr, listed, rfl⟩
    · exact watched fd isSet
    · -- A child is only asked for when an open one is ready, and the newest is above it.
      obtain ⟨ready, found⟩ := counts _ _ selected
      obtain ⟨readyFd, _⟩ := wait.within _ _ selected ready found
      rcases wait.mem_watch.mp readyFd with rfl | rfl | same | ⟨other, listedOther, opened, _⟩
      · exact absurd found notKilled
      · exact absurd found noStdin
      · exact absurd found (noMaster ready same)
      · have registered := member ptr listed
        rw [waits.heap other listedOther] at opened
        obtain ⟨newest, registeredNewest, openNewest, largest⟩ :=
          newestOpen other (member other listedOther) opened
        rw [waits.heap ptr listed]
        refine ⟨small ptr registered, ?_⟩
        have listedNewest : newest ∈ wait.order := by
          rw [wait.enumerates, waits.waiter]
          exact registeredNewest
        have below := (fd_le_iff numbered (fresh ptr registered)
          (fresh newest registeredNewest)).mpr (largest ptr registered)
        apply Nat.lt_of_le_of_lt below
        apply wait.lt_nfds
        rw [← waits.heap newest listedNewest]
        apply wait.mem_watch.mpr
        exact Or.inr (Or.inr (Or.inr ⟨newest, listedNewest,
          by rw [waits.heap newest listedNewest]; exact openNewest, rfl⟩))

end Bounds

/-! Runs. -/

theorem fresh_run (codecs : Codecs) (events : List Event) :
    ∀ ptr ∈ ((machine codecs).run events).server.flexWaiter.sockets,
      ptr < ((machine codecs).run events).server.nextPtr := by
  have tables := registry codecs events
  intro ptr registered
  exact tables.fresh ptr ((tables.listed ptr).mp ((tables.waiter ptr).mp registered)).1

theorem accepts_of_acceptedSockets {process : Process} {event : Event}
    (accepts : acceptedSockets ((machine codecs).emits process event) ≠ []) :
    process.running = true ∧ ∃ fd, event = .socketServer (.connection fd) := by
  obtain ⟨ptr, inside⟩ := List.exists_mem_of_ne_nil _ accepts
  obtain ⟨action, emitted, same⟩ := List.mem_filterMap.mp inside
  obtain ⟨running, reacts⟩ := mem_emits emitted
  refine ⟨running, ?_⟩
  rcases moves_cases codecs running event with given | rfl |
    ⟨gone, now, writes, rfl, _, _, _, removal⟩ | ⟨_, quiet⟩
  · exact given
  · obtain ⟨other, rfl | rfl⟩ := mem_actions_exit reacts
    · cases same
    · cases same
  · rw [removal] at reacts
    rcases mem_actions_removeSocketConnection _ _ reacts with rfl | rfl
    · cases same
    · cases same
  · have talk := quiet.talk _ reacts
    cases action with
    | accepted other => cases talk
    | answered => cases same
    | wrote => cases same
    | removed => cases same
    | closed => cases same

theorem fitsInSet_of_staysInRange {inherited : Finset Nat} {master killEvent : Nat}
    (startup : Startup inherited master killEvent) {events : List Event}
    (lowest : (machine codecs).Meets (AcceptsLowest inherited master killEvent) events)
    (stays : StaysInRange codecs master killEvent events) :
    FitsInSet inherited ((machine codecs).trace events) := by
  induction events using List.reverseRecOn with
  | nil =>
      have below := (fd_lt_of_waitsInRange (stays [] [] rfl rfl)).1
      rw [startup.killEvent_eq, handedOut_lt_iff] at below
      exact below
  | append_singleton events event ih =>
      have earlier := ih lowest.of_concat fun before after split =>
        stays before (after ++ [event]) (by rw [split, List.append_assoc])
      rw [FitsInSet, Machine.trace_concat, acceptedSockets_append]
      by_cases accepts : acceptedSockets
          ((machine codecs).emits ((machine codecs).run events) event) = []
      · rw [accepts, List.append_nil]
        exact earlier
      · obtain ⟨running, fd, rfl⟩ := accepts_of_acceptedSockets accepts
        have numbered := numbered_run startup lowest.of_concat running
        have next := (isLeast_free_iff (numbered.mem_held startup) fd).mp (lowest.last running)
        have after : (machine codecs).run (events ++ [.socketServer (.connection fd)]) = {
            server := (((machine codecs).run events).server.makeSocket fd).2.addSocketConnection
              ((machine codecs).run events).server.nextPtr
            thrown := none } := by
          rw [Machine.run_concat, step_of_running running]
          rfl
        have active := ((Process.running_iff _).mp running).1
        have inRange := stays _ [] (List.append_nil _).symm (by
          rw [after]
          exact (Process.running_iff _).mpr ⟨active, rfl⟩)
        rw [after] at inRange
        -- The new socket is waited for under its number.
        have below := (fd_lt_of_waitsInRange inRange).2 _ (Finset.mem_insert_self ..)
          (congrArg Socket.isOpen (heap_setSocket_self ..))
        rw [show (Server.heap _ _).fd = fd from
          congrArg Socket.fd (heap_setSocket_self ..), next, handedOut_lt_iff] at below
        have count : acceptedSockets ((machine codecs).emits ((machine codecs).run events)
            (.socketServer (.connection fd))) =
            [((machine codecs).run events).server.nextPtr] := by
          rw [emits_of_running running]
          rfl
        rw [numbered.accepted, count, List.length_append, List.length_range,
          List.length_singleton]
        omega

/-- The sets of `select` are used within their bounds exactly in the runs in which all
connections fit into them and the newest of the registered sockets is open at every
wait that has an open one. -/
theorem staysInRange_iff {inherited : Finset Nat} {master killEvent : Nat}
    (startup : Startup inherited master killEvent) {events : List Event}
    (lowest : (machine codecs).Meets (AcceptsLowest inherited master killEvent) events) :
    StaysInRange codecs master killEvent events ↔
      FitsInSet inherited ((machine codecs).trace events) ∧
        ∀ before after, events = before ++ after →
          ((machine codecs).run before).running = true →
            NewestOpen ((machine codecs).run before).server := by
  constructor
  · intro stays
    refine ⟨fitsInSet_of_staysInRange startup lowest stays, ?_⟩
    intro before after split running
    subst split
    exact newestOpen_of_waitsInRange startup (numbered_run startup lowest.of_append running)
      (fresh_run codecs before) (stays before after rfl running)
  · intro given before after split running
    rcases given with ⟨fits, newestOpen⟩
    subst split
    have numbered := numbered_run startup lowest.of_append running
    refine waitsInRange_of_newestOpen startup numbered (fresh_run codecs before) ?_
      (newestOpen before after rfl running)
    have count : (acceptedSockets ((machine codecs).trace before)).length =
        ((machine codecs).run before).server.nextPtr := by
      rw [numbered.accepted, List.length_range]
    rw [FitsInSet, Machine.trace_append, acceptedSockets_append, List.length_append] at fits
    rw [← count]
    omega

/-! A process that starts with the three standard streams. -/

theorem startup_streams : Startup (Finset.range 3) 3 4 where
  first := (@isLeast_free_iff _ (Finset.range 3) 0 (by simp) 3).mpr
    (handedOut_range 3 0).symm
  second := by
    refine (@isLeast_free_iff (Finset.range 3) _ 1 ?_ 4).mpr (handedOut_range 3 1).symm
    intro number
    rw [Finset.mem_insert, or_comm]
    simp [handedOut_range, eq_comm]

def connections (count : Nat) : List Event :=
  (List.range count).map fun earlier => .socketServer (.connection (5 + earlier))

theorem connections_succ (count : Nat) :
    connections (count + 1) = connections count ++ [.socketServer (.connection (5 + count))] := by
  simp [connections, List.range_succ]

theorem running_connections (codecs : Codecs) (count : Nat) :
    ((machine codecs).run (connections count)).running = true ∧
      ((machine codecs).run (connections count)).server.nextPtr = count := by
  induction count with
  | zero => exact ⟨rfl, rfl⟩
  | succ count ih =>
      obtain ⟨running, next⟩ := ih
      rw [connections_succ, Machine.run_concat, step_of_running running]
      constructor
      · exact (Process.running_iff _).mpr ⟨((Process.running_iff _).mp running).1, rfl⟩
      · exact congrArg Nat.succ next

theorem lowest_connections (codecs : Codecs) (count : Nat) :
    (machine codecs).Meets (AcceptsLowest (Finset.range 3) 3 4) (connections count) := by
  induction count with
  | zero => exact Machine.Meets.nil
  | succ count ih =>
      rw [connections_succ]
      apply ih.concat
      obtain ⟨running, next⟩ := running_connections codecs count
      have numbered := numbered_run startup_streams ih running
      intro _
      rw [isLeast_free_iff (numbered.mem_held startup_streams), handedOut_range, next,
        Nat.add_comm count 2, ← Nat.add_assoc]

/-- The set has room for 1019 connections besides what is there before them. -/
theorem not_staysInRange_connections (codecs : Codecs) {count : Nat} (many : 1019 < count) :
    ¬ StaysInRange codecs 3 4 (connections count) := by
  intro stays
  have lowest := lowest_connections codecs count
  obtain ⟨running, next⟩ := running_connections codecs count
  have fits := fitsInSet_of_staysInRange startup_streams lowest stays
  rw [FitsInSet, (numbered_run startup_streams lowest running).accepted, List.length_range,
    next] at fits
  have below := handedOut_lt_of_fits fits (Nat.lt_succ_self (count + 1))
  rw [handedOut_range, fdSetSize] at below
  omega

theorem staysInRange_connections :
    StaysInRange Codecs.compact 3 4 (connections 1) ↔
      FitsInSet (Finset.range 3) ((machine Codecs.compact).trace (connections 1)) ∧
        ∀ before after, connections 1 = before ++ after →
          ((machine Codecs.compact).run before).running = true →
            NewestOpen ((machine Codecs.compact).run before).server :=
  staysInRange_iff startup_streams (lowest_connections Codecs.compact 1)

def newestFails : List Event :=
  connections 2 ++ [.socket 1 .failed 0 fun _ => .whole]

/-- The connection that gets the number 1024 is set outside the set, and a failed one is
asked for above the numbers that `select` was told of. -/
theorem sets_left :
    ((machine Codecs.compact).Meets (AcceptsLowest (Finset.range 3) 3 4) (connections 1020) ∧
      ¬ StaysInRange Codecs.compact 3 4 (connections 1020)) ∧
    (machine Codecs.compact).Meets (AcceptsLowest (Finset.range 3) 3 4) newestFails ∧
      ¬ StaysInRange Codecs.compact 3 4 newestFails := by
  have lowest : (machine Codecs.compact).Meets (AcceptsLowest (Finset.range 3) 3 4)
      newestFails := (lowest_connections Codecs.compact 2).concat trivial
  refine ⟨⟨lowest_connections _ 1020, ?_⟩, lowest, ?_⟩
  · exact not_staysInRange_connections _ (Nat.lt_succ_self 1019)
  · intro stays
    have numbered := numbered_run startup_streams lowest (by decide)
    obtain ⟨newest, inside, opened, largest⟩ := newestOpen_of_waitsInRange startup_streams numbered
      (fresh_run _ _) (stays newestFails [] rfl (by decide)) 0 (by decide) (by decide)
    have below : newest < 2 := fresh_run _ _ newest inside
    obtain rfl : newest = 1 :=
      Nat.le_antisymm (Nat.le_of_lt_succ below) (largest 1 (by decide))
    exact absurd opened (by decide)

end AndroidMessenger.Server
