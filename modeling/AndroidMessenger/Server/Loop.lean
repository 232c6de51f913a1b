import AndroidMessenger.Networking.Kernel
import AndroidMessenger.Server.Run

namespace AndroidMessenger.Server

open Library Msg Networking

/-! `server::start`: the socket server, and the loop that waits and calls the handlers. -/

/-- How a set of sockets is iterated. -/
structure Iteration where
  list : Finset SocketPtr → List SocketPtr
  nodup : ∀ sockets, (list sockets).Nodup
  enumerates : ∀ sockets ptr, ptr ∈ list sockets ↔ ptr ∈ sockets

def Iteration.ascending : Iteration where
  list sockets := (List.range (sockets.sup id + 1)).filter fun ptr => ptr ∈ sockets
  nodup _ := List.nodup_range.filter _
  enumerates sockets ptr := by
    rw [List.mem_filter, List.mem_range, decide_eq_true_eq]
    refine ⟨And.right, fun inside => ⟨?_, inside⟩⟩
    exact Nat.lt_succ_of_le (Finset.le_sup (f := id) inside)

/-- What one round of the loop finds besides the queues of the kernel: `select` can fail
for a signal, and `accept` for a connection that is gone. -/
structure Turn where
  order : Iteration
  now : TimePoint
  writes : Nat → WriteOutcome
  interrupted : Bool
  aborted : Option Nat

/-- No call fails. -/
def Turn.plain : Turn where
  order := .ascending
  now := 0
  writes _ := .whole
  interrupted := false
  aborted := none

inductive LoopEvent where
  | arrival (arrival : Arrival)
  | turn (turn : Turn)

/-- `waits` is set by an `accept`, a `recv` or a read of stdin that has nothing to return.
Every `write` returns. -/
structure Loop where
  process : Process
  master : Nat
  killEventFD : Option Nat
  kernel : Kernel
  waits : Bool

namespace Loop

/-- The process before it calls anything, with the descriptors that it has inherited. -/
def fresh (inherited : Finset Nat) (limit : Limit) : Kernel where
  held := inherited
  limit := limit
  listening := none
  backlog := []
  connections := 0
  received _ := []
  endpoint _ := none
  stdin := []
  ended := false

def start (inherited : Finset Nat) (limit : Limit) (bindError : Option Nat) : Loop :=
  match (fresh inherited limit).socketServer bindError with
  | (.error exn, kernel) =>
      { process := { server := Server.start, thrown := some exn }
        master := 0
        killEventFD := none
        kernel
        waits := false }
  | (.ok fd, kernel) =>
      { process := { server := Server.start, thrown := none }
        master := fd
        killEventFD := none
        kernel
        waits := false }

variable (loop : Loop)

def wait (turn : Turn) : Wait where
  waiter := loop.process.server.flexWaiter
  order := turn.order.list loop.process.server.flexWaiter.sockets
  nodup := turn.order.nodup _
  enumerates := turn.order.enumerates _
  heap := loop.process.server.heap
  master := some loop.master
  eventfd := loop.kernel.openNext.map Prod.fst
  select watch := if turn.interrupted then .failed else loop.kernel.select watch
  within watch theSet selected := by
    split at selected
    · cases selected
    · exact loop.kernel.select_within watch theSet selected
  killRead := 8
  stdinRead := loop.kernel.stdinRead

def withEvent : Kernel :=
  match loop.killEventFD, loop.kernel.openNext with
  | none, some (_, kernel) => kernel
  | _, _ => loop.kernel

def waited (turn : Turn) : Loop × Except Exn (List Activity) :=
  let wait := loop.wait turn
  let readsStdin := (wait.stdinOf loop.killEventFD).isSome
  ({ loop with
      killEventFD := (wait.run loop.killEventFD).1
      kernel := if readsStdin then { loop.withEvent with stdin := loop.kernel.stdin.drop 1 }
        else loop.withEvent
      waits := loop.waits || (readsStdin && !loop.kernel.readable stdinFileno) },
    (wait.run loop.killEventFD).2)

def outcome : Except Nat Nat → AcceptOutcome
  | .ok fd => .connection fd
  | .error errno => .failed errno

/-- A call of the handler, with what its first system call returns.  `none` is a call that
waits.  A closed socket is not read. -/
def event (turn : Turn) : Activity → Option (Event × Kernel)
  | .onSocketServer =>
      (loop.kernel.accept turn.aborted).map fun (result, kernel) =>
        (.socketServer (outcome result), kernel)
  | .onSocket child =>
      if (loop.process.server.heap child).isOpen then
        (loop.kernel.recv (loop.process.server.heap child).fd).map fun (recv, kernel) =>
          (.socket child recv turn.now turn.writes, kernel)
      else some (.socket child .failed turn.now turn.writes, loop.kernel)
  | .onSTDIN line => some (.stdin (Utf8.decode line), loop.kernel)

/-- The descriptors that the destructors close are free again. -/
def release (server : Server) (actions : List Action) (kernel : Kernel) : Kernel :=
  actions.foldl
    (fun kernel action =>
      match action with
      | .closed ptr => kernel.close (server.heap ptr).fd
      | _ => kernel)
    kernel

variable (codecs : Codecs)

def handle (event : Event) (kernel : Kernel) : Loop :=
  { loop with
    process := (machine codecs).step loop.process event
    kernel := release loop.process.server ((machine codecs).emits loop.process event) kernel }

def call (turn : Turn) (loop : Loop) (activity : Activity) : Loop :=
  match loop.event turn activity with
  | none => { loop with waits := true }
  | some (event, kernel) => loop.handle codecs event kernel

def turn (turn : Turn) : Loop :=
  match loop.waited turn with
  | (loop, .error exn) => { loop with process := { loop.process with thrown := some exn } }
  | (loop, .ok activities) => activities.foldl (call codecs turn) loop

/-- The loop goes on, and nothing that it reads holds it up. -/
def goesOn : Bool :=
  loop.process.running && !loop.waits

def step : LoopEvent → Loop
  | .arrival arrival => { loop with kernel := loop.kernel.arrive arrival }
  | .turn turn => if loop.goesOn then loop.turn codecs turn else loop

def behind : LoopEvent → List Event
  | .arrival _ => []
  | .turn turn =>
      if loop.goesOn then
        match loop.waited turn with
        | (_, .error _) => []
        | (loop, .ok activities) =>
            activities.filterMap fun activity => (loop.event turn activity).map Prod.fst
      else []

def emits (event : LoopEvent) : List Action :=
  (Server.machine codecs).traceFrom loop.process (loop.behind event)

def machine (inherited : Finset Nat) (limit : Limit) (bindError : Option Nat) :
    Machine Loop LoopEvent Action where
  initial := start inherited limit bindError
  step loop := loop.step codecs
  emits loop := loop.emits codecs

end Loop

end AndroidMessenger.Server
