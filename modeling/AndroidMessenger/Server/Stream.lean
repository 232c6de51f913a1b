import AndroidMessenger.Server.Names

namespace AndroidMessenger.Server

open Library Msg Networking

variable {codecs : Codecs}

/-! What the server visits of the byte stream of one client.  The stream reaches
it cut into chunks, and between two of them anything may happen. -/

def visitedOn (codecs : Codecs) (ptr : SocketPtr) (trace : List Action) : List Call :=
  trace.filterMap fun
    | .answered other json _ =>
        if other = ptr then (Call.ofJson codecs json).toOption else none
    | _ => none

def Ready (process : Process) (ptr : SocketPtr) : Prop :=
  process.running = true ∧ ptr ∈ process.server.flexWaiter.sockets ∧
    (process.server.heap ptr).isOpen = true

/-- The chunk, with what the buffer holds behind it, is cleaned into a text of the
call. -/
def Reads (codecs : Codecs) (chunk : Chunk) (call : Call) : Prop :=
  ∃ str json, chunk.stored = some str ∧ codecs.readJson (Json.clean str) = some json ∧
    json.Representable ∧ Call.ofJson codecs json = .ok call

/-- The chunks for one socket, each with the process that it reaches. -/
def readsOn (codecs : Codecs) (ptr : SocketPtr) :
    Process → List Event → List (Process × Chunk)
  | _, [] => []
  | process, .socket other (.data chunk) now writes :: events =>
      let rest := readsOn codecs ptr
        ((machine codecs).step process (.socket other (.data chunk) now writes)) events
      if other = ptr then (process, chunk) :: rest else rest
  | process, event :: events =>
      readsOn codecs ptr ((machine codecs).step process event) events

/-- One chunk for each request.  Any other chunk comes when the socket cannot be
read, or holds nothing that can be visited. -/
inductive Framed (codecs : Codecs) (ptr : SocketPtr) :
    List (Process × Chunk) → List Call → Prop where
  | done : Framed codecs ptr [] []
  | request {process : Process} {chunk : Chunk} {call : Call}
      {reads : List (Process × Chunk)} {calls : List Call}
      (ready : Ready process ptr) (text : Reads codecs chunk call)
      (next : Framed codecs ptr reads calls) :
      Framed codecs ptr ((process, chunk) :: reads) (call :: calls)
  | nothing {process : Process} {chunk : Chunk} {reads : List (Process × Chunk)}
      {calls : List Call}
      (unread : ¬ (Ready process ptr ∧ ∃ call, Reads codecs chunk call))
      (next : Framed codecs ptr reads calls) :
      Framed codecs ptr ((process, chunk) :: reads) calls

theorem Reads.unique {chunk : Chunk} {first second : Call}
    (left : Reads codecs chunk first) (right : Reads codecs chunk second) :
    first = second := by
  obtain ⟨str, json, stored, parsed, _, decoded⟩ := left
  obtain ⟨str', json', stored', parsed', _, decoded'⟩ := right
  obtain rfl : str = str' := Option.some.inj (stored.symm.trans stored')
  obtain rfl : json = json' := Option.some.inj (parsed.symm.trans parsed')
  exact Except.ok.inj (decoded.symm.trans decoded')

@[simp] theorem visitedOn_append (ptr : SocketPtr) (first second : List Action) :
    visitedOn codecs ptr (first ++ second) =
      visitedOn codecs ptr first ++ visitedOn codecs ptr second :=
  List.filterMap_append

theorem visitedOn_eq_nil {ptr : SocketPtr} {trace : List Action}
    (silent : ∀ json res, .answered ptr json res ∉ trace) :
    visitedOn codecs ptr trace = [] := by
  apply List.filterMap_eq_nil_iff.mpr
  intro action inside
  cases action with
  | answered other json res =>
      have different : other ≠ ptr := by
        intro same
        subst same
        exact silent json res inside
      simp [different]
  | accepted other => rfl
  | wrote other text outcome => rfl
  | removed other => rfl
  | closed other => rfl

theorem visitedOn_other (process : Process) {event : Event} {ptr : SocketPtr}
    (other : ∀ chunk now writes, event ≠ .socket ptr (.data chunk) now writes) :
    visitedOn codecs ptr ((machine codecs).emits process event) = [] := by
  apply visitedOn_eq_nil
  intro json res inside
  obtain ⟨chunk, now, writes, _, _, equality, _⟩ := visit_of_answered (mem_emits inside).2
  exact other chunk now writes equality

theorem visit_of_reads {process : Process} {ptr : SocketPtr} {chunk : Chunk} {call : Call}
    (ready : Ready process ptr) (text : Reads codecs chunk call) :
    ∃ json, Visit codecs process.server ptr chunk json call := by
  obtain ⟨str, json, stored, parsed, representable, decoded⟩ := text
  refine ⟨json, ready.2.1, ready.2.2, ⟨str, stored, ?_⟩, representable, decoded⟩
  simp [Json.fromText, parsed]

theorem reads_of_visit {server : Server} {ptr : SocketPtr} {chunk : Chunk} {json : Ptree}
    {call : Call} (visit : Visit codecs server ptr chunk json call) :
    Reads codecs chunk call := by
  obtain ⟨str, stored, parsed⟩ := visit.parsed
  refine ⟨str, json, stored, ?_, visit.representable, visit.decoded⟩
  unfold Json.fromText at parsed
  split at parsed
  · rename_i tree found
    rw [found, Except.ok.inj parsed]
  · contradiction

theorem visitedOn_reads {process : Process} {ptr : SocketPtr} {chunk : Chunk} {call : Call}
    (ready : Ready process ptr) (text : Reads codecs chunk call) (now : TimePoint)
    (writes : Nat → WriteOutcome) :
    visitedOn codecs ptr
      ((machine codecs).emits process (.socket ptr (.data chunk) now writes)) = [call] := by
  obtain ⟨json, visit⟩ := visit_of_reads ready text
  rcases dispatched : call.dispatch (visitor now) process.server with ⟨res, granted⟩
  rw [emits_of_running ready.1, react_of_visit visit now writes dispatched,
    ← List.singleton_append, visitedOn_append]
  have silent : visitedOn codecs ptr (granted.broadcast codecs writes res).actions = [] := by
    apply visitedOn_eq_nil
    intro tree answer inside
    rw [broadcast_eq_writeLoop] at inside
    obtain ⟨_, _, _, equality, _⟩ := wrote_of_mem_writeLoop _ _ _ _ _ _ inside
    cases equality
  rw [silent]
  simp [visitedOn, visit.decoded, Except.toOption]

theorem visitedOn_unread {process : Process} {ptr : SocketPtr} {chunk : Chunk}
    (unread : ¬ (Ready process ptr ∧ ∃ call, Reads codecs chunk call)) (now : TimePoint)
    (writes : Nat → WriteOutcome) :
    visitedOn codecs ptr
      ((machine codecs).emits process (.socket ptr (.data chunk) now writes)) = [] := by
  apply visitedOn_eq_nil
  intro json res inside
  obtain ⟨running, answered⟩ := mem_emits inside
  obtain ⟨other, _, _, call, _, equality, visit, _⟩ := visit_of_answered answered
  cases equality
  exact unread ⟨⟨running, visit.registered, visit.opened⟩, call, reads_of_visit visit⟩

theorem readsOn_self (process : Process) (ptr : SocketPtr) (chunk : Chunk)
    (now : TimePoint) (writes : Nat → WriteOutcome) (events : List Event) :
    readsOn codecs ptr process (.socket ptr (.data chunk) now writes :: events) =
      (process, chunk) :: readsOn codecs ptr
        ((machine codecs).step process (.socket ptr (.data chunk) now writes)) events := by
  simp [readsOn]

theorem readsOn_other (process : Process) {event : Event} {ptr : SocketPtr}
    (other : ∀ chunk now writes, event ≠ .socket ptr (.data chunk) now writes)
    (events : List Event) :
    readsOn codecs ptr process (event :: events) =
      readsOn codecs ptr ((machine codecs).step process event) events := by
  cases event with
  | socketServer accepted => rfl
  | stdin line => rfl
  | socket target recv now writes =>
      cases recv with
      | shutdown => rfl
      | failed => rfl
      | data chunk =>
          have different : target ≠ ptr := by
            intro same
            subst same
            exact other chunk now writes rfl
          simp [readsOn, different]

/-- The requests that are visited on a socket are the ones it was sent exactly
when each of them came in a chunk of its own. -/
theorem visitedOn_eq_iff (codecs : Codecs) (ptr : SocketPtr) (calls : List Call)
    (process : Process) (events : List Event) :
    visitedOn codecs ptr ((machine codecs).traceFrom process events) = calls ↔
      Framed codecs ptr (readsOn codecs ptr process events) calls := by
  induction events generalizing process calls with
  | nil =>
      constructor
      · intro same
        subst same
        exact Framed.done
      · intro framed
        cases framed
        rfl
  | cons event events ih =>
      rw [Machine.traceFrom_cons, visitedOn_append]
      by_cases other : ∀ chunk now writes, event ≠ .socket ptr (.data chunk) now writes
      · rw [visitedOn_other process other, readsOn_other process other, List.nil_append]
        exact ih calls _
      · simp only [not_forall, not_not] at other
        obtain ⟨chunk, now, writes, rfl⟩ := other
        rw [readsOn_self]
        by_cases visited : Ready process ptr ∧ ∃ call, Reads codecs chunk call
        · obtain ⟨ready, call, text⟩ := visited
          rw [visitedOn_reads ready text]
          constructor
          · intro same
            subst same
            exact Framed.request ready text ((ih _ _).mp rfl)
          · intro framed
            cases framed with
            | request ready' text' next =>
                rw [text.unique text', (ih _ _).mpr next]
                rfl
            | nothing unread next => exact absurd ⟨ready, call, text⟩ unread
        · rw [visitedOn_unread visited, List.nil_append]
          constructor
          · intro tail
            exact Framed.nothing visited ((ih _ _).mp tail)
          · intro framed
            cases framed with
            | request ready text next => exact absurd ⟨ready, _, text⟩ visited
            | nothing unread next => exact (ih _ _).mpr next

/-- The server visits the requests and nothing else on the socket, each once and in order,
and it takes every chunk for one of them. -/
structure VisitedInTurn (codecs : Codecs) (ptr : SocketPtr) (process : Process)
    (events : List Event) (calls : List Call) : Prop where
  visits : visitedOn codecs ptr ((machine codecs).traceFrom process events) = calls
  unrefused : ∀ read ∈ readsOn codecs ptr process events,
    Ready read.1 ptr ∧ ∃ call, Reads codecs read.2 call

theorem framed_of_forall₂ {ptr : SocketPtr} {reads : List (Process × Chunk)}
    {calls : List Call}
    (each : List.Forall₂ (fun read call => Ready read.1 ptr ∧ Reads codecs read.2 call)
      reads calls) : Framed codecs ptr reads calls := by
  induction each with
  | nil => exact Framed.done
  | cons first _ ih => exact Framed.request first.1 first.2 ih

theorem forall₂_of_framed {ptr : SocketPtr} {reads : List (Process × Chunk)}
    {calls : List Call} (framed : Framed codecs ptr reads calls)
    (unrefused : ∀ read ∈ reads, Ready read.1 ptr ∧ ∃ call, Reads codecs read.2 call) :
    List.Forall₂ (fun read call => Ready read.1 ptr ∧ Reads codecs read.2 call)
      reads calls := by
  induction framed with
  | done => exact List.Forall₂.nil
  | request ready text next ih =>
      exact List.Forall₂.cons ⟨ready, text⟩
        (ih fun read inside => unrefused read (List.mem_cons_of_mem _ inside))
  | nothing unread next ih => exact absurd (unrefused _ List.mem_cons_self) unread

theorem unrefused_of_forall₂ {ptr : SocketPtr} {reads : List (Process × Chunk)}
    {calls : List Call}
    (each : List.Forall₂ (fun read call => Ready read.1 ptr ∧ Reads codecs read.2 call)
      reads calls) : ∀ read ∈ reads, Ready read.1 ptr ∧ ∃ call, Reads codecs read.2 call := by
  induction each with
  | nil => exact fun _ inside => absurd inside List.not_mem_nil
  | cons first _ ih => exact List.forall_mem_cons.mpr ⟨⟨first.1, _, first.2⟩, ih⟩

theorem visitedInTurn_iff_forall₂ (ptr : SocketPtr) (process : Process) (events : List Event)
    (calls : List Call) :
    VisitedInTurn codecs ptr process events calls ↔
      List.Forall₂ (fun read call => Ready read.1 ptr ∧ Reads codecs read.2 call)
        (readsOn codecs ptr process events) calls := by
  constructor
  · intro given
    exact forall₂_of_framed ((visitedOn_eq_iff codecs ptr calls process events).mp given.visits)
      given.unrefused
  · intro each
    exact ⟨(visitedOn_eq_iff codecs ptr calls process events).mpr (framed_of_forall₂ each),
      unrefused_of_forall₂ each⟩

end AndroidMessenger.Server
