import AndroidMessenger.Networking.FlexWaiter

namespace AndroidMessenger.Networking

open Library Msg

def stdinFileno : Nat := 0

/-- `flex_waiter::BUFFER_SIZE`. -/
def bufferSize : Nat := 1024

/-- Bytes that `read` stored at the head of `buff`, and the memory behind the buffer. -/
structure StdinChunk where
  bytes : Bytes
  bounded : bytes.length ≤ bufferSize
  beyond : Bytes

inductive StdinRead where
  | failed
  | data (chunk : StdinChunk)

inductive Activity where
  | onSocketServer
  | onSocket (child : SocketPtr)
  | onSTDIN (line : Bytes)
  deriving DecidableEq

/-- The set handed to `select`, with the largest number in it. -/
structure Watch where
  theSet : Finset Nat
  maxFD : Nat

def Watch.add (fd : Nat) (watch : Watch) : Watch where
  theSet := insert fd watch.theSet
  maxFD := max watch.maxFD fd

/-- What `select` returns, with the set as it leaves it. -/
inductive Selected where
  | failed
  | timeout
  | ready (theSet : Finset Nat)

/-- What one call of `wait` finds: the registered sockets in the order in which the set
is iterated, the objects behind them, and everything its system calls return. -/
structure Wait where
  waiter : FlexWaiter
  order : List SocketPtr
  nodup : order.Nodup
  enumerates : ∀ ptr, ptr ∈ order ↔ ptr ∈ waiter.sockets
  heap : SocketPtr → Socket
  master : Option Nat
  eventfd : Option Nat
  select : Watch → Selected
  within : ∀ watch theSet, select watch = .ready theSet →
    ∀ fd ∈ theSet, fd ∈ watch.theSet ∧ fd < watch.maxFD + 1
  killRead : Int
  stdinRead : StdinRead

def StdinChunk.buff (chunk : StdinChunk) : Bytes :=
  chunk.bytes ++ List.replicate (bufferSize - chunk.bytes.length) 0

def stripNewline (input : Bytes) : Bytes :=
  if input.getLast? = some 10 then input.dropLast else input

/-- The text that is taken for the line.  A full buffer has no NUL of its own. -/
def StdinChunk.input (chunk : StdinChunk) : Option Bytes :=
  (cString (chunk.buff ++ chunk.beyond)).map stripNewline

def watchMaster (master : Option Nat) (watch : Watch) : Watch :=
  match master with
  | none => watch
  | some masterFD => { theSet := insert masterFD watch.theSet, maxFD := masterFD }

def watchSockets (heap : SocketPtr → Socket) : List SocketPtr → Watch → Watch
  | [], watch => watch
  | sock :: rest, watch =>
      watchSockets heap rest
        (if (heap sock).isOpen then watch.add (heap sock).fd else watch)

/-- The loop that ends with the first child whose number is in the set. -/
def dispatchSockets (heap : SocketPtr → Socket) (theSet : Finset Nat) :
    List SocketPtr → List Activity
  | [] => []
  | child :: rest =>
      if (heap child).fd ∈ theSet then [.onSocket child]
      else dispatchSockets heap theSet rest

namespace Wait

variable (wait : Wait)

def watch (killEventFD : Nat) : Watch :=
  (watchSockets wait.heap wait.order
    (watchMaster wait.master { theSet := {stdinFileno}, maxFD := stdinFileno })).add
      killEventFD

def dispatch (killEventFD : Nat) (theSet : Finset Nat) : Except Exn (List Activity) :=
  if killEventFD ∈ theSet then
    -- A failed read is a large `size_t` here.
    if wait.killRead ≠ 0 ∧ wait.killRead ≠ 8 then
      .error (.runtimeError
        "Invalid signal read from kill, probably implementation problem.")
    else .ok []
  else if stdinFileno ∈ theSet then
    match wait.stdinRead with
    | .failed => .error (.runtimeError
        "Failed to read from stdin after being notified of being active.")
    | .data chunk =>
        match chunk.input with
        | none => .error .unterminatedBuffer
        | some input => .ok [.onSTDIN input]
  else
    match wait.master with
    | none => .ok (dispatchSockets wait.heap theSet wait.order)
    | some masterFD =>
        if masterFD ∈ theSet then .ok [.onSocketServer]
        else .ok (dispatchSockets wait.heap theSet wait.order)

def killEvent (killEventFD : Option Nat) : Option Nat :=
  match killEventFD with
  | some fd => some fd
  | none => wait.eventfd

/-- `flex_waiter::wait`, from one value of `_killEventFD` to the next. -/
def run (killEventFD : Option Nat) : Option Nat × Except Exn (List Activity) :=
  match wait.killEvent killEventFD with
  | none => (none, .error (.runtimeError "Could not create unlock event."))
  | some fd =>
      (some fd,
        match wait.select (wait.watch fd) with
        | .failed =>
            .error (.runtimeError "Unexpected error in synchronization object")
        | .timeout => .ok []
        | .ready theSet => wait.dispatch fd theSet)

/-- What the call reads from stdin, if it does. -/
def stdinOf (killEventFD : Option Nat) : Option StdinChunk :=
  match wait.killEvent killEventFD with
  | none => none
  | some fd =>
      match wait.select (wait.watch fd) with
      | .ready theSet =>
          if fd ∉ theSet ∧ stdinFileno ∈ theSet then
            match wait.stdinRead with
            | .failed => none
            | .data chunk => some chunk
          else none
      | _ => none

end Wait

/-! The set that is built. -/

theorem mem_watchSockets {heap : SocketPtr → Socket} {order : List SocketPtr}
    {watch : Watch} {fd : Nat} :
    fd ∈ (watchSockets heap order watch).theSet ↔
      fd ∈ watch.theSet ∨
        ∃ ptr ∈ order, (heap ptr).isOpen = true ∧ (heap ptr).fd = fd := by
  induction order generalizing watch with
  | nil => simp [watchSockets]
  | cons sock rest ih =>
      rw [watchSockets, ih]
      simp only [List.mem_cons, exists_eq_or_imp]
      cases opened : (heap sock).isOpen with
      | false => simp
      | true =>
          simp only [if_true, Watch.add, Finset.mem_insert, true_and]
          rw [or_comm (a := fd = _), or_assoc, eq_comm (a := fd)]

theorem watchSockets_le_maxFD {heap : SocketPtr → Socket} {order : List SocketPtr}
    {watch : Watch} (bounded : ∀ fd ∈ watch.theSet, fd ≤ watch.maxFD) :
    ∀ fd ∈ (watchSockets heap order watch).theSet,
      fd ≤ (watchSockets heap order watch).maxFD := by
  induction order generalizing watch with
  | nil => exact bounded
  | cons sock rest ih =>
      rw [watchSockets]
      apply ih
      cases (heap sock).isOpen with
      | false => exact bounded
      | true =>
          intro fd inside
          simp only [if_true, Watch.add, Finset.mem_insert] at inside ⊢
          rcases inside with rfl | inside
          · omega
          · have below := bounded fd inside
            omega

namespace Wait

variable (wait : Wait)

theorem mem_watch {killEventFD fd : Nat} :
    fd ∈ (wait.watch killEventFD).theSet ↔
      fd = killEventFD ∨ fd = stdinFileno ∨ wait.master = some fd ∨
        ∃ ptr ∈ wait.order, (wait.heap ptr).isOpen = true ∧ (wait.heap ptr).fd = fd := by
  rw [watch, Watch.add, Finset.mem_insert, mem_watchSockets]
  cases wait.master with
  | none => simp [watchMaster]
  | some masterFD =>
      simp only [watchMaster, Finset.mem_insert, Finset.mem_singleton, Option.some.injEq]
      rw [eq_comm (a := masterFD), or_comm (a := fd = masterFD), or_assoc]

theorem watch_le_maxFD {killEventFD : Nat} :
    ∀ fd ∈ (wait.watch killEventFD).theSet, fd ≤ (wait.watch killEventFD).maxFD := by
  have start : ∀ fd ∈ (watchMaster wait.master
      { theSet := {stdinFileno}, maxFD := stdinFileno }).theSet,
      fd ≤ (watchMaster wait.master
        { theSet := {stdinFileno}, maxFD := stdinFileno }).maxFD := by
    intro fd inside
    cases master : wait.master with
    | none =>
        rw [master] at inside
        exact Nat.le_of_eq (Finset.mem_singleton.mp inside)
    | some masterFD =>
        rw [master] at inside
        rcases Finset.mem_insert.mp inside with rfl | stdin
        · exact Nat.le_refl _
        · rw [Finset.mem_singleton.mp stdin]
          exact Nat.zero_le _
  intro fd inside
  rcases Finset.mem_insert.mp inside with rfl | inside
  · exact Nat.le_max_right _ _
  · exact Nat.le_trans (watchSockets_le_maxFD start fd inside) (Nat.le_max_left _ _)

end Wait

/-! The loop that dispatches, which does not ask whether a child is open. -/

theorem dispatchSockets_eq_singleton_iff {heap : SocketPtr → Socket} {theSet : Finset Nat}
    {order : List SocketPtr} {child : SocketPtr} :
    dispatchSockets heap theSet order = [.onSocket child] ↔
      ∃ before after, order = before ++ child :: after ∧ (heap child).fd ∈ theSet ∧
        ∀ other ∈ before, (heap other).fd ∉ theSet := by
  induction order with
  | nil => simp [dispatchSockets]
  | cons head rest ih =>
      rw [dispatchSockets]
      by_cases hit : (heap head).fd ∈ theSet
      · rw [if_pos hit]
        constructor
        · intro same
          obtain rfl : head = child := by simpa using same
          exact ⟨[], rest, rfl, hit, by simp⟩
        · intro given
          rcases given with ⟨before, after, split, _, missed⟩
          cases before with
          | nil => rw [(List.cons.inj split).1]
          | cons first others =>
              obtain ⟨rfl, _⟩ := List.cons.inj split
              exact absurd hit (missed head List.mem_cons_self)
      · rw [if_neg hit, ih]
        constructor
        · intro given
          rcases given with ⟨before, after, rfl, ready, missed⟩
          refine ⟨head :: before, after, rfl, ready, ?_⟩
          intro other inside
          rcases List.mem_cons.mp inside with rfl | inside
          · exact hit
          · exact missed other inside
        · intro given
          rcases given with ⟨before, after, split, ready, missed⟩
          cases before with
          | nil =>
              obtain ⟨rfl, _⟩ := List.cons.inj split
              exact absurd ready hit
          | cons first others =>
              obtain ⟨rfl, rfl⟩ := List.cons.inj split
              exact ⟨others, after, rfl, ready,
                fun other inside => missed other (List.mem_cons_of_mem _ inside)⟩

theorem mem_dispatchSockets {heap : SocketPtr → Socket} {theSet : Finset Nat}
    {order : List SocketPtr} {activity : Activity}
    (called : activity ∈ dispatchSockets heap theSet order) :
    ∃ child ∈ order, (heap child).fd ∈ theSet ∧ activity = .onSocket child := by
  induction order with
  | nil => simp [dispatchSockets] at called
  | cons head rest ih =>
      rw [dispatchSockets] at called
      split at called
      · rename_i hit
        exact ⟨head, List.mem_cons_self, hit, List.mem_singleton.mp called⟩
      · obtain ⟨child, inside, ready, same⟩ := ih called
        exact ⟨child, List.mem_cons_of_mem _ inside, ready, same⟩

theorem exists_first_ready {heap : SocketPtr → Socket} {theSet : Finset Nat}
    {order : List SocketPtr} (some : ∃ ptr ∈ order, (heap ptr).fd ∈ theSet) :
    ∃ before child after, order = before ++ child :: after ∧ (heap child).fd ∈ theSet ∧
      ∀ other ∈ before, (heap other).fd ∉ theSet := by
  induction order with
  | nil => simp at some
  | cons head rest ih =>
      by_cases hit : (heap head).fd ∈ theSet
      · exact ⟨[], head, rest, rfl, hit, by simp⟩
      · obtain ⟨ptr, inside, ready⟩ := some
        rcases List.mem_cons.mp inside with rfl | inside
        · exact absurd ready hit
        · obtain ⟨before, child, after, rfl, ready, missed⟩ := ih ⟨ptr, inside, ready⟩
          refine ⟨head :: before, child, after, rfl, ready, ?_⟩
          intro other inside
          rcases List.mem_cons.mp inside with rfl | inside
          · exact hit
          · exact missed other inside

namespace Wait

variable (wait : Wait)

def IsReady (theSet : Finset Nat) (ptr : SocketPtr) : Prop :=
  (wait.heap ptr).isOpen = true ∧ (wait.heap ptr).fd ∈ theSet

/-- Every closed child whose number is in the set comes after an open one that is
ready. -/
def OpenComesFirst (theSet : Finset Nat) : Prop :=
  ∀ before stale after, wait.order = before ++ stale :: after →
    (wait.heap stale).isOpen = false → (wait.heap stale).fd ∈ theSet →
      ∃ other ∈ before, wait.IsReady theSet other

theorem dispatchSockets_ready_iff {theSet : Finset Nat}
    (some : ∃ ptr ∈ wait.order, wait.IsReady theSet ptr) :
    (∃ child ∈ wait.order, wait.IsReady theSet child ∧
      dispatchSockets wait.heap theSet wait.order = [.onSocket child]) ↔
      wait.OpenComesFirst theSet := by
  simp only [dispatchSockets_eq_singleton_iff]
  constructor
  · intro given before stale after split closed ready
    rcases given with ⟨child, _, isReady, before', after', split', _, missed⟩
    rcases List.append_eq_append_iff.mp (split.symm.trans split') with
      ⟨between, rfl, rest⟩ | ⟨between, rfl, rest⟩
    · -- The first hit would be behind the stale child.
      cases between with
      | nil =>
          obtain ⟨rfl, _⟩ := List.cons.inj rest
          rw [isReady.1] at closed
          cases closed
      | cons first others =>
          obtain ⟨rfl, _⟩ := List.cons.inj rest
          exact absurd ready (missed stale (by simp))
    · cases between with
      | nil =>
          obtain ⟨rfl, _⟩ := List.cons.inj rest
          rw [isReady.1] at closed
          cases closed
      | cons first others =>
          obtain ⟨rfl, _⟩ := List.cons.inj rest
          exact ⟨child, by simp, isReady⟩
  · intro first
    obtain ⟨ptr, inside, _, ready⟩ := some
    obtain ⟨before, child, after, split, ready, missed⟩ :=
      exists_first_ready ⟨ptr, inside, ready⟩
    have opened : (wait.heap child).isOpen = true := by
      cases closed : (wait.heap child).isOpen with
      | true => rfl
      | false =>
          obtain ⟨other, earlier, isReady⟩ := first before child after split closed ready
          exact absurd isReady.2 (missed other earlier)
    exact ⟨child, by rw [split]; simp, ⟨opened, ready⟩, before, after, split, ready, missed⟩

/-- Where only sockets are ready, exactly one of them is dispatched, and it is open and
ready, if and only if no stale child comes first. -/
theorem run_onSocket_iff {killEventFD : Option Nat} {fd : Nat} {theSet : Finset Nat}
    (kill : wait.killEvent killEventFD = some fd)
    (selected : wait.select (wait.watch fd) = .ready theSet)
    (notKilled : fd ∉ theSet) (noStdin : stdinFileno ∉ theSet)
    (noMaster : ∀ masterFD, wait.master = some masterFD → masterFD ∉ theSet)
    (some : ∃ ptr ∈ wait.order, wait.IsReady theSet ptr) :
    (∃ child ∈ wait.order, wait.IsReady theSet child ∧
      (wait.run killEventFD).2 = .ok [.onSocket child]) ↔ wait.OpenComesFirst theSet := by
  have dispatched : (wait.run killEventFD).2 =
      .ok (dispatchSockets wait.heap theSet wait.order) := by
    simp only [run, kill, selected, dispatch, if_neg notKilled, if_neg noStdin]
    cases master : wait.master with
    | none => rfl
    | some masterFD => exact if_neg (noMaster masterFD master)
  rw [← wait.dispatchSockets_ready_iff some, dispatched]
  simp only [Except.ok.injEq]

theorem run_cases (killEventFD : Option Nat) :
    (∃ chunk, wait.stdinOf killEventFD = some chunk ∧
      (wait.run killEventFD).2 =
        match chunk.input with
        | none => .error .unterminatedBuffer
        | some line => .ok [.onSTDIN line]) ∨
    (wait.stdinOf killEventFD = none ∧
      ((∃ what, (wait.run killEventFD).2 = .error (.runtimeError what)) ∨
        ∃ activities, (wait.run killEventFD).2 = .ok activities ∧
          ∀ activity ∈ activities, activity = .onSocketServer ∨
            ∃ child ∈ wait.order, activity = .onSocket child)) := by
  have dispatched : ∀ theSet, ∀ activity ∈ dispatchSockets wait.heap theSet wait.order,
      activity = .onSocketServer ∨ ∃ child ∈ wait.order, activity = .onSocket child := by
    intro theSet activity called
    obtain ⟨child, inside, _, same⟩ := mem_dispatchSockets called
    exact Or.inr ⟨child, inside, same⟩
  unfold stdinOf run
  cases wait.killEvent killEventFD with
  | none => exact Or.inr ⟨rfl, Or.inl ⟨_, rfl⟩⟩
  | some fd =>
      simp only
      cases wait.select (wait.watch fd) with
      | failed => exact Or.inr ⟨rfl, Or.inl ⟨_, rfl⟩⟩
      | timeout => exact Or.inr ⟨rfl, Or.inr ⟨[], rfl, by simp⟩⟩
      | ready theSet =>
          by_cases killed : fd ∈ theSet
          · right
            simp only [dispatch, killed, if_true, not_true, false_and, if_false]
            refine ⟨trivial, ?_⟩
            split
            · exact Or.inl ⟨_, rfl⟩
            · exact Or.inr ⟨[], rfl, by simp⟩
          · by_cases stdin : stdinFileno ∈ theSet
            · simp only [dispatch, killed, stdin, if_true, if_false, not_false_eq_true,
                and_self]
              cases wait.stdinRead with
              | failed => exact Or.inr ⟨rfl, Or.inl ⟨_, rfl⟩⟩
              | data chunk => exact Or.inl ⟨chunk, rfl, rfl⟩
            · right
              simp only [dispatch, killed, stdin, if_false, and_false]
              refine ⟨trivial, Or.inr ?_⟩
              cases wait.master with
              | none => exact ⟨_, rfl, dispatched theSet⟩
              | some masterFD =>
                  simp only
                  split
                  · exact ⟨_, rfl, by simp⟩
                  · exact ⟨_, rfl, dispatched theSet⟩

/-! Two registered sockets with the number 5: the first was closed while it was
registered, and the second was made after that. -/

def selectOnly (fd : Nat) (watch : Watch) : Selected :=
  if fd ∈ watch.theSet ∧ fd < watch.maxFD + 1 then .ready {fd} else .timeout

theorem selectOnly_within (fd : Nat) (watch : Watch) (theSet : Finset Nat)
    (selected : selectOnly fd watch = .ready theSet) :
    ∀ other ∈ theSet, other ∈ watch.theSet ∧ other < watch.maxFD + 1 := by
  unfold selectOnly at selected
  split at selected
  · rename_i watched
    obtain rfl := Selected.ready.inj selected
    intro other inside
    obtain rfl := Finset.mem_singleton.mp inside
    exact watched
  · cases selected

def reused (order : List SocketPtr) (nodup : order.Nodup)
    (enumerates : ∀ ptr, ptr ∈ order ↔ ptr ∈ ({0, 1} : Finset SocketPtr)) : Wait where
  waiter := { sockets := {0, 1} }
  order := order
  nodup := nodup
  enumerates := enumerates
  heap ptr := { fd := 5, isOpen := ptr == 1 }
  master := some 3
  eventfd := some 4
  select := selectOnly 5
  within := selectOnly_within 5
  killRead := 8
  stdinRead := .failed

def openFirst : Wait :=
  reused [1, 0] (by decide) (by simp [or_comm])

def staleFirst : Wait :=
  reused [0, 1] (by decide) (by simp)

theorem selected_reused (order : List SocketPtr) (nodup : order.Nodup)
    (enumerates : ∀ ptr, ptr ∈ order ↔ ptr ∈ ({0, 1} : Finset SocketPtr)) :
    (reused order nodup enumerates).select ((reused order nodup enumerates).watch 4) =
      .ready {5} := by
  have watched : 5 ∈ ((reused order nodup enumerates).watch 4).theSet :=
    (mem_watch _).mpr (Or.inr (Or.inr (Or.inr ⟨1, by simp [reused, enumerates], rfl, rfl⟩)))
  have below := watch_le_maxFD _ 5 watched
  exact if_pos ⟨watched, Nat.lt_succ_of_le below⟩

theorem run_onSocket_openFirst :
    (∃ child ∈ openFirst.order, openFirst.IsReady {5} child ∧
      (openFirst.run none).2 = .ok [.onSocket child]) ↔ openFirst.OpenComesFirst {5} :=
  @run_onSocket_iff openFirst none 4 {5} rfl (selected_reused _ _ _) (by decide)
    (by decide) (by
      intro masterFD master
      obtain rfl := Option.some.inj master
      decide) ⟨1, by decide, rfl, by decide⟩

/-- The socket that is called is closed, and the one with the data is not served. -/
theorem stale_child_dispatched :
    (staleFirst.select (staleFirst.watch 4) = .ready {5} ∧ staleFirst.IsReady {5} 1) ∧
    (∀ first ∈ staleFirst.order, ∀ second ∈ staleFirst.order,
      (staleFirst.heap first).isOpen = true → (staleFirst.heap second).isOpen = true →
        (staleFirst.heap first).fd = (staleFirst.heap second).fd → first = second) ∧
    (staleFirst.run none).2 = .ok [.onSocket 0] ∧
    ¬ ∃ child ∈ staleFirst.order, staleFirst.IsReady {5} child ∧
      (staleFirst.run none).2 = .ok [.onSocket child] := by
  have ran : (staleFirst.run none).2 = .ok [.onSocket 0] := by decide
  refine ⟨⟨selected_reused _ _ _, rfl, by decide⟩, by decide, ran, ?_⟩
  intro given
  rcases given with ⟨child, _, isReady, called⟩
  obtain rfl : 0 = child := by simpa [ran] using called
  cases isReady.1

end Wait

end AndroidMessenger.Networking
