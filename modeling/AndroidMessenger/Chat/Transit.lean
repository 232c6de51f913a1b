import AndroidMessenger.Chat.Network

namespace AndroidMessenger.Chat.Network

open Library Msg Networking Client

variable {codecs : Codecs} {platform : Platform codecs} {writer : GsonWriter platform}

/-! The activity that the system has for one of the network. -/

/-- The socket that the server has for the activity. -/
def accepted (loop : Server.Loop) (activity : MainActivity) : Option SocketPtr :=
  activity.sock.filter fun connection => connection < loop.process.server.nextPtr

/-- What waits in the kernel on the connection of the activity. -/
def queued (loop : Server.Loop) (activity : MainActivity) : List Recv :=
  (activity.sock.map loop.kernel.received).getD []

/-- The activity as the system has it.  It lives until the server knows its socket. -/
def seenBy (loop : Server.Loop) (onWay : List NetworkRequest) (activity : MainActivity) :
    MainActivity :=
  { activity.onConnection (seen (accepted loop activity) onWay) with
    alive := activity.alive || waits loop activity }

def Mirrors (writer : GsonWriter platform) (loop : Server.Loop)
    (own other : MainActivity) : Prop :=
  ∃ onWay, OnWay writer (queued loop own) onWay ∧ other = seenBy loop onWay own

theorem OnWay.eq_nil {onWay : List NetworkRequest} (way : OnWay writer [] onWay) :
    onWay = [] := by
  cases way
  rfl

theorem seenBy_of_alive {loop : Server.Loop} {activity : MainActivity}
    (alive : waits loop activity = true → activity.alive = true)
    (onWay : List NetworkRequest) :
    seenBy loop onWay activity =
      activity.onConnection (seen (accepted loop activity) onWay) := by
  have same : (activity.alive || waits loop activity) = activity.alive := by
    cases waiting : waits loop activity with
    | false => exact Bool.or_false _
    | true => rw [alive waiting]; rfl
  rw [seenBy, same]
  rfl

theorem seenBy_congr {loop after : Server.Loop} {activity : MainActivity}
    (known : ∀ connection, activity.sock = some connection →
      (connection < after.process.server.nextPtr ↔ connection < loop.process.server.nextPtr))
    (onWay : List NetworkRequest) : seenBy after onWay activity = seenBy loop onWay activity := by
  rw [seenBy, seenBy, accepted, accepted, waits, waits]
  cases opened : activity.sock with
  | none => rfl
  | some connection =>
      have beyond : after.process.server.nextPtr ≤ connection ↔
          loop.process.server.nextPtr ≤ connection := by
        rw [← Nat.not_lt, ← Nat.not_lt, known connection opened]
      simp [Option.filter, known connection opened, beyond]

section Unsocketed

variable {activity : MainActivity} (unsocketed : activity.sock = none) (loop : Server.Loop)

include unsocketed

theorem accepted_of_none : accepted loop activity = none := by
  rw [accepted, unsocketed]
  rfl

theorem queued_of_none : queued loop activity = [] := by
  rw [queued, unsocketed]
  rfl

end Unsocketed

theorem waits_iff {loop : Server.Loop} {activity : MainActivity} :
    waits loop activity = true ↔ ∃ connection, activity.sock = some connection ∧
      loop.process.server.nextPtr ≤ connection := by
  simp [waits, Option.any_eq_true]

theorem accepted_of_waits {loop : Server.Loop} {activity : MainActivity}
    (waiting : waits loop activity = true) : accepted loop activity = none := by
  obtain ⟨connection, opened, beyond⟩ := waits_iff.mp waiting
  rw [accepted, opened]
  exact Option.filter_some_neg (by simpa using beyond)

theorem accepted_eq_some {loop : Server.Loop} {activity : MainActivity} {connection : Nat}
    (opened : activity.sock = some connection)
    (old : connection < loop.process.server.nextPtr) :
    accepted loop activity = some connection ∧ waits loop activity = false := by
  rw [accepted, waits, opened]
  exact ⟨Option.filter_some_pos (by simpa using old), by simpa using old⟩

theorem queued_of_received {loop after : Server.Loop}
    (received : after.kernel.received = loop.kernel.received) (activity : MainActivity) :
    queued after activity = queued loop activity := by
  rw [queued, queued, received]

theorem queued_turn {loop after : Server.Loop} {turn : Server.Turn} {events : List Event}
    (turns : Server.Loop.Turns codecs loop turn after events) (activity : MainActivity) :
    queued loop activity =
      (activity.sock.map fun connection => Server.Loop.readOn connection events).getD [] ++
        queued after activity := by
  rw [queued, queued]
  cases activity.sock with
  | none => rfl
  | some connection => exact (turns.received connection).symm

theorem receive_nothing (activity : MainActivity) : activity.receive (textsTo []) = activity := by
  obtain ⟨alive, state, user, mConnection, login⟩ := activity
  cases mConnection with
  | none => rfl
  | some connection =>
      obtain ⟨sock, sent, received⟩ := connection
      cases sock with
      | none => simp [MainActivity.receive, MainActivity.onConnection]
      | some ptr => simp [MainActivity.receive, MainActivity.onConnection, textsTo]

theorem getElem?_concat_eq_some {Item : Type} {list : List Item} {last item : Item} {i : Nat} :
    (list ++ [last])[i]? = some item ↔
      list[i]? = some item ∨ i = list.length ∧ last = item := by
  rw [List.getElem?_append]
  split
  · rename_i inside
    simp [Nat.ne_of_lt inside]
  · rename_i outside
    have beyond := Nat.le_of_not_lt outside
    rw [List.getElem?_eq_none beyond, List.getElem?_singleton]
    by_cases last : i = list.length
    · simp [last]
    · have more : i - list.length ≠ 0 := by omega
      simp [last, more]

/-! A call of a thread, which does not see the difference. -/

section Calls

variable {activity : MainActivity} (unopened : activity.Unopened) (platform)
  (call : ThreadCall)

include unopened

theorem sock_change : (call.change platform activity).sock = activity.sock := by
  cases call with
  | beginLogin user construction =>
      exact (MainActivity.queues_beginLogin unopened construction user).2.2
  | markConnected => exact activity.sock_markConnected
  | sendLogin now => exact activity.sock_sendLogin now
  | endLogin => exact activity.sock_endLogin
  | onMsgSend now msg => exact activity.sock_onMsgSend now msg
  | read => exact activity.sock_read platform

theorem alive_change {connection : Nat} (opened : activity.sock = some connection)
    (nothing : activity.incoming = []) :
    (call.change platform activity).alive = activity.alive := by
  obtain ⟨present, found, _⟩ := Option.bind_eq_some_iff.mp opened
  cases call with
  | beginLogin user construction =>
      simp only [ThreadCall.change, MainActivity.beginLogin]
      split
      · rfl
      · rename_i idle
        split
        · rfl
        · rename_i begun
          have absent := unopened (not_not.mp begun) (not_not.mp idle)
          rw [absent] at found
          cases found
  | markConnected =>
      simp only [ThreadCall.change, MainActivity.markConnected]
      split
      · rfl
      · rfl
  | sendLogin now =>
      simp only [ThreadCall.change, MainActivity.sendLogin, found]
      split
      · rfl
      · rfl
  | endLogin =>
      simp only [ThreadCall.change, MainActivity.endLogin]
      split
      · rfl
      · rfl
  | onMsgSend now msg =>
      simp only [ThreadCall.change, MainActivity.onMsgSend, found]
      split
      · rfl
      · split
        · rfl
        · split
          · rfl
          · rfl
  | read =>
      have empty : present.received = [] := by
        simpa [MainActivity.incoming, found] using nothing
      simp only [ThreadCall.change, MainActivity.read, found, empty]

end Calls

namespace Mirrors

variable {loop after : Server.Loop} {own other : MainActivity}

theorem frame (mirrors : Mirrors writer loop own other)
    (next : after.process.server.nextPtr = loop.process.server.nextPtr)
    (queue : queued after own = queued loop own) : Mirrors writer after own other := by
  obtain ⟨onWay, way, rfl⟩ := mirrors
  refine ⟨onWay, queue ▸ way, ?_⟩
  exact (seenBy_congr (fun _ _ => by rw [next]) onWay).symm

theorem sock_eq (mirrors : Mirrors writer loop own other) :
    other.sock = accepted loop own := by
  obtain ⟨onWay, _, rfl⟩ := mirrors
  change ((own.mConnection.map _).bind _) = _
  cases found : own.mConnection with
  | none =>
      symm
      apply accepted_of_none
      rw [MainActivity.sock, found]
      rfl
  | some connection => rfl

theorem incoming_eq (mirrors : Mirrors writer loop own other) :
    other.incoming = own.incoming := by
  obtain ⟨onWay, _, rfl⟩ := mirrors
  exact MainActivity.incoming_onConnection _ fun _ => rfl

theorem alive_eq (mirrors : Mirrors writer loop own other) :
    other.alive = (own.alive || waits loop own) := by
  obtain ⟨onWay, _, rfl⟩ := mirrors
  rfl

theorem unopened (mirrors : Mirrors writer loop own other) (unopened : other.Unopened) :
    own.Unopened := by
  obtain ⟨onWay, _, rfl⟩ := mirrors
  intro begun idle
  exact Option.map_eq_none_iff.mp (unopened begun idle)

theorem call (mirrors : Mirrors writer loop own other) (alive : own.alive = true)
    (unopened : other.Unopened) (nothing : other.sock = none → other.incoming = [])
    (call : ThreadCall) :
    Mirrors writer loop (call.change platform own) (call.change platform other) := by
  have ownUnopened := mirrors.unopened unopened
  have same := sock_change platform ownUnopened call
  have waitsSame : waits loop (call.change platform own) = waits loop own := by
    rw [waits, same]
    rfl
  have lives : waits loop (call.change platform own) = true →
      (call.change platform own).alive = true := by
    intro waiting
    rw [waitsSame] at waiting
    have unheard := nothing (mirrors.sock_eq.trans (accepted_of_waits waiting))
    rw [mirrors.incoming_eq] at unheard
    obtain ⟨connection, opened, _⟩ := waits_iff.mp waiting
    rw [alive_change platform ownUnopened call opened unheard, alive]
  obtain ⟨onWay, way, rfl⟩ := mirrors
  have fresh : own.mConnection = none → accepted loop own = none ∧ onWay = [] := by
    intro absent
    have unsocketed : own.sock = none := by
      rw [MainActivity.sock, absent]
      rfl
    rw [queued_of_none unsocketed] at way
    exact ⟨accepted_of_none unsocketed loop, way.eq_nil⟩
  refine ⟨onWay, ?_, ?_⟩
  · rw [queued, same]
    exact way
  · have acceptedSame : accepted loop (call.change platform own) = accepted loop own := by
      rw [accepted, same]
      rfl
    rw [seenBy_of_alive (fun _ => alive), seenBy_of_alive lives, acceptedSame]
    exact change_onConnection ownUnopened fresh platform call

theorem finish (mirrors : Mirrors writer loop own other)
    (known : waits loop own = false) : Mirrors writer loop own.finish other.finish := by
  obtain ⟨onWay, way, rfl⟩ := mirrors
  refine ⟨onWay, way, ?_⟩
  have still : waits loop own.finish = false := known
  rw [seenBy, seenBy, still]
  rfl

theorem finish_of_waits (mirrors : Mirrors writer loop own other)
    (waiting : waits loop own = true) : Mirrors writer loop own.finish other := by
  obtain ⟨onWay, way, rfl⟩ := mirrors
  refine ⟨onWay, way, ?_⟩
  have still : waits loop own.finish = true := waiting
  rw [seenBy, seenBy, waiting, still, Bool.or_true, Bool.or_true]
  rfl

theorem connects (mirrors : Mirrors writer loop own other) (alive : own.alive = true)
    (present : own.mConnection.isSome = true) (unsocketed : own.sock = none)
    {connection : Nat} (next : after.process.server.nextPtr = loop.process.server.nextPtr)
    (beyond : loop.process.server.nextPtr ≤ connection)
    (unsent : after.kernel.received connection = []) :
    Mirrors writer after (own.accept connection) other := by
  obtain ⟨onWay, way, rfl⟩ := mirrors
  rw [queued_of_none unsocketed] at way
  have opened : (own.accept connection).sock = some connection := by
    obtain ⟨made, found⟩ := Option.isSome_iff_exists.mp present
    simp [MainActivity.sock, MainActivity.accept, MainActivity.onConnection, found]
  have waiting : waits after (own.accept connection) = true :=
    waits_iff.mpr ⟨connection, opened, next ▸ beyond⟩
  refine ⟨[], ?_, ?_⟩
  · rw [queued, opened]
    change OnWay writer (after.kernel.received connection) []
    rw [unsent]
    exact OnWay.none
  · have still : (own.accept connection).alive = true := alive
    rw [way.eq_nil, seenBy_of_alive (fun _ => alive), seenBy_of_alive (fun _ => still),
      accepted_of_none unsocketed, accepted_of_waits waiting]
    obtain ⟨_, _, _, mConnection, _⟩ := own
    cases mConnection with
    | none => rfl
    | some made => rfl

theorem transmits (mirrors : Mirrors writer loop own other)
    (next : after.process.server.nextPtr = loop.process.server.nextPtr)
    {request : NetworkRequest} {rest : List NetworkRequest}
    (waiting : own.outgoing = request :: rest) {chunk : Chunk}
    (stored : chunk.stored = some (Utf8.encode (request.line writer)))
    (queue : queued after own = queued loop own ++ [.data chunk]) :
    Mirrors writer after own.takeRequest other := by
  obtain ⟨onWay, way, rfl⟩ := mirrors
  have same := own.sock_takeRequest
  refine ⟨onWay ++ [request], ?_, ?_⟩
  · rw [queued, same]
    change OnWay writer (queued after own) _
    rw [queue]
    exact way.append (OnWay.line stored OnWay.none)
  · obtain ⟨alive, state, user, mConnection, login⟩ := own
    cases mConnection with
    | none => cases waiting
    | some made =>
        obtain ⟨sock, sent, received⟩ := made
        obtain rfl : sent = request :: rest := waiting
        simp [seenBy, seen, accepted, waits, next, MainActivity.takeRequest,
          MainActivity.onConnection, MainActivity.sock]

theorem hangsUp (mirrors : Mirrors writer loop own other)
    (next : after.process.server.nextPtr = loop.process.server.nextPtr) {recv : Recv}
    (empty : ∀ chunk, recv ≠ .data chunk)
    (queue : queued after own = queued loop own ++ [recv]) :
    Mirrors writer after own other := by
  obtain ⟨onWay, way, rfl⟩ := mirrors
  refine ⟨onWay, ?_, ?_⟩
  · rw [queue, ← List.append_nil onWay]
    exact way.append (OnWay.ended empty OnWay.none)
  · exact (seenBy_congr (fun _ _ => by rw [next]) onWay).symm

theorem receive (mirrors : Mirrors writer loop own other)
    {texts : SocketPtr → List String}
    (silent : ∀ ptr, loop.process.server.nextPtr ≤ ptr → texts ptr = []) :
    Mirrors writer loop (own.receive texts) (other.receive texts) := by
  obtain ⟨onWay, way, rfl⟩ := mirrors
  have same := own.sock_receive texts
  refine ⟨onWay, ?_, ?_⟩
  · rw [queued, same]
    exact way
  · obtain ⟨alive, state, user, mConnection, login⟩ := own
    cases mConnection with
    | none => rfl
    | some made =>
        obtain ⟨sock, sent, received⟩ := made
        cases sock with
        | none => rfl
        | some connection =>
            by_cases old : connection < loop.process.server.nextPtr
            · simp [seenBy, seen, accepted, waits, MainActivity.receive,
                MainActivity.onConnection, MainActivity.sock, Option.filter, old]
            · have unheard := silent connection (Nat.le_of_not_lt old)
              simp [seenBy, seen, accepted, waits, MainActivity.receive,
                MainActivity.onConnection, MainActivity.sock, Option.filter, old, unheard]

theorem reads (mirrors : Mirrors writer loop own other)
    (next : after.process.server.nextPtr = loop.process.server.nextPtr) {recv : Recv}
    (queue : queued loop own = recv :: queued after own) :
    (∃ chunk request rest, recv = .data chunk ∧
      chunk.stored = some (Utf8.encode (request.line writer)) ∧
      other.outgoing = request :: rest ∧ Mirrors writer after own other.takeRequest) ∨
    ((∀ chunk, recv ≠ .data chunk) ∧ Mirrors writer after own other) := by
  obtain ⟨onWay, way, rfl⟩ := mirrors
  rw [queue] at way
  cases way with
  | @line chunk request _ requests stored rest =>
      left
      obtain ⟨alive, state, user, mConnection, login⟩ := own
      cases mConnection with
      | none => cases queue
      | some made =>
          refine ⟨chunk, request, requests ++ made.sent, rfl, stored, rfl, requests, rest, ?_⟩
          simp [seenBy, seen, accepted, waits, next, MainActivity.takeRequest,
            MainActivity.onConnection, MainActivity.sock]
  | ended empty rest =>
      refine Or.inr ⟨empty, onWay, rest, ?_⟩
      exact (seenBy_congr (fun _ _ => by rw [next]) onWay).symm

theorem accepts (mirrors : Mirrors writer loop own other)
    (opened : own.sock = some loop.process.server.nextPtr)
    (next : after.process.server.nextPtr = loop.process.server.nextPtr + 1)
    (queue : queued after own = queued loop own) :
    Mirrors writer after own
      (if own.alive then other.accept loop.process.server.nextPtr
        else (other.accept loop.process.server.nextPtr).finish) := by
  obtain ⟨onWay, way, rfl⟩ := mirrors
  refine ⟨onWay, queue ▸ way, ?_⟩
  have old : loop.process.server.nextPtr < after.process.server.nextPtr :=
    next ▸ Nat.lt_succ_self _
  obtain ⟨known, unheld⟩ := accepted_eq_some opened old
  rw [seenBy, seenBy, known, unheld, waits_iff.mpr ⟨_, opened, Nat.le_refl _⟩]
  obtain ⟨alive, state, user, mConnection, login⟩ := own
  cases mConnection with
  | none => cases opened
  | some made =>
      cases alive with
      | false => rfl
      | true => rfl

theorem passed (mirrors : Mirrors writer loop own other)
    (different : own.sock ≠ some loop.process.server.nextPtr)
    (next : after.process.server.nextPtr = loop.process.server.nextPtr + 1)
    (queue : queued after own = queued loop own) : Mirrors writer after own other := by
  obtain ⟨onWay, way, rfl⟩ := mirrors
  refine ⟨onWay, queue ▸ way, (seenBy_congr ?_ onWay).symm⟩
  intro connection opened
  have other : connection ≠ loop.process.server.nextPtr := by
    rintro rfl
    exact different opened
  rw [next]
  exact ⟨fun old => Nat.lt_of_le_of_ne (Nat.le_of_lt_succ old) other, Nat.lt_succ_of_lt⟩

end Mirrors

end AndroidMessenger.Chat.Network
