import AndroidMessenger.Library.Machine
import AndroidMessenger.Networking.Socket

namespace AndroidMessenger.Networking

open Library Msg

/-! A socket as the owner of its descriptor: the operations on it and the system calls
that they issue. -/

inductive Operation where
  | read (recv : Recv)
  | readVector (recv : Recv)
  | write (text : Bytes) (outcome : WriteOutcome)
  | close

inductive SystemCall where
  | recv
  | write
  | close
  deriving DecidableEq

namespace Operation

def apply (sock : Socket) : Operation → Socket
  | .read recv => (sock.read recv).2
  | .readVector recv =>
      match sock.readVector recv with
      | .ok (_, sock) => sock
      | .error _ => sock
  | .write text outcome =>
      match sock.write text outcome with
      | .ok (_, sock) => sock
      | .error _ => sock
  | .close => sock.close.2

def calls (sock : Socket) : Operation → List SystemCall
  | .read _ => if sock.isOpen then [.recv] else []
  | .readVector recv =>
      match sock.readVector recv with
      | .ok _ => [.recv]
      | .error _ => []
  | .write text outcome =>
      match sock.write text outcome with
      | .ok _ => [.write]
      | .error _ => []
  | .close => if sock.close.1 then [.close] else []

def fails : Operation → Prop
  | .read recv => recv = .shutdown ∨ recv = .failed
  | .readVector recv => recv = .shutdown ∨ recv = .failed
  | .write _ outcome => outcome = .failed
  | .close => False

end Operation

namespace Descriptor

/-- The socket that `accept` makes of a descriptor. -/
def machine (fd : Nat) : Machine Socket Operation SystemCall where
  initial := { fd, isOpen := true }
  step := Operation.apply
  emits := Operation.calls

/-- The system calls of the operations and of the destructor after them. -/
def calls (fd : Nat) (sock : Socket) (operations : List Operation) : List SystemCall :=
  (machine fd).traceFrom sock operations ++
    if ((machine fd).runFrom sock operations).destroy.1 then [.close] else []

/-- The descriptor is closed once, and not used after the open flag is cleared. -/
structure ClosedOnce (fd : Nat) (operations : List Operation) : Prop where
  once : (calls fd (machine fd).initial operations).count .close = 1
  silent : ∀ before operation after, operations = before ++ operation :: after →
    ((machine fd).run before).isOpen = false →
    (machine fd).emits ((machine fd).run before) operation = []

/-- No system call fails before the first call of `close`. -/
def Graceful (operations : List Operation) : Prop :=
  ∀ before operation after, operations = before ++ operation :: after →
    Operation.close ∉ before → ¬ operation.fails

end Descriptor

namespace Operation

variable {sock : Socket}

theorem apply_of_closed (closed : sock.isOpen = false) (operation : Operation) :
    operation.apply sock = sock ∧ operation.calls sock = [] := by
  cases operation with
  | read recv => simp [apply, calls, Socket.read, closed]
  | readVector recv => simp [apply, calls, Socket.readVector, closed]
  | write text outcome => simp [apply, calls, Socket.write, closed]
  | close => simp [apply, calls, Socket.close, closed]

theorem apply_of_fails (opened : sock.isOpen = true) {operation : Operation}
    (fails : operation.fails) :
    (operation.apply sock).isOpen = false ∧
      (operation.calls sock).count .close = 0 := by
  cases operation with
  | read recv =>
      rcases fails with rfl | rfl
      · simp [apply, calls, Socket.read, opened]
      · simp [apply, calls, Socket.read, opened]
  | readVector recv =>
      rcases fails with rfl | rfl
      · simp [apply, calls, Socket.readVector, opened]
      · simp [apply, calls, Socket.readVector, opened]
  | write text outcome =>
      obtain rfl : outcome = .failed := fails
      simp [apply, calls, Socket.write, opened]
  | close => exact absurd fails id

theorem apply_of_succeeds (opened : sock.isOpen = true) {operation : Operation}
    (succeeds : ¬ operation.fails) (other : operation ≠ .close) :
    operation.apply sock = sock ∧ (operation.calls sock).count .close = 0 := by
  cases operation with
  | read recv =>
      cases recv with
      | failed => exact absurd (Or.inr rfl) succeeds
      | shutdown => exact absurd (Or.inl rfl) succeeds
      | data chunk =>
          cases stored : chunk.stored with
          | none => simp [apply, calls, Socket.read, opened, stored]
          | some str => simp [apply, calls, Socket.read, opened, stored]
  | readVector recv =>
      cases recv with
      | failed => exact absurd (Or.inr rfl) succeeds
      | shutdown => exact absurd (Or.inl rfl) succeeds
      | data chunk => simp [apply, calls, Socket.readVector, opened]
  | write text outcome =>
      cases outcome with
      | failed => exact absurd rfl succeeds
      | short count => simp [apply, calls, Socket.write, opened]
      | whole => simp [apply, calls, Socket.write, opened]
  | close => exact absurd rfl other

theorem apply_close (opened : sock.isOpen = true) :
    (apply sock .close).isOpen = false ∧ (calls sock .close).count .close = 1 := by
  simp [apply, calls, Socket.close, opened]

end Operation

namespace Descriptor

theorem count_calls_cons (fd : Nat) (sock : Socket) (operation : Operation)
    (operations : List Operation) :
    (calls fd sock (operation :: operations)).count SystemCall.close =
      (operation.calls sock).count .close +
        (calls fd (operation.apply sock) operations).count .close := by
  rw [calls, Machine.traceFrom_cons, Machine.runFrom_cons, List.append_assoc,
    List.count_append]
  rfl

theorem count_calls_of_closed (fd : Nat) {sock : Socket} (closed : sock.isOpen = false)
    (operations : List Operation) : (calls fd sock operations).count .close = 0 := by
  induction operations with
  | nil => simp [calls, Socket.destroy, closed]
  | cons operation operations ih =>
      obtain ⟨same, silent⟩ := operation.apply_of_closed closed
      rw [count_calls_cons, same, silent, ih]
      rfl

theorem graceful_close (operations : List Operation) : Graceful (.close :: operations) := by
  intro before operation after equality unclosed
  cases before with
  | nil =>
      obtain ⟨rfl, _⟩ := List.cons.inj equality
      exact id
  | cons head before =>
      obtain ⟨rfl, _⟩ := List.cons.inj equality
      exact absurd List.mem_cons_self unclosed

theorem graceful_cons_iff {operation : Operation} (other : operation ≠ .close)
    (operations : List Operation) :
    Graceful (operation :: operations) ↔ ¬ operation.fails ∧ Graceful operations := by
  constructor
  · intro graceful
    refine ⟨graceful [] operation operations rfl List.not_mem_nil, ?_⟩
    intro before next after equality unclosed
    refine graceful (operation :: before) next after (by rw [equality]; rfl) ?_
    intro inside
    rcases List.mem_cons.mp inside with same | inside
    · exact other same.symm
    · exact unclosed inside
  · intro given before next after equality unclosed
    rcases given with ⟨succeeds, graceful⟩
    cases before with
    | nil =>
        obtain ⟨rfl, _⟩ := List.cons.inj equality
        exact succeeds
    | cons head before =>
        obtain ⟨rfl, rest⟩ := List.cons.inj equality
        exact graceful before next after rest
          (fun inside => unclosed (List.mem_cons_of_mem _ inside))

theorem count_calls_eq_one_iff (fd : Nat) {sock : Socket} (opened : sock.isOpen = true)
    (operations : List Operation) :
    (calls fd sock operations).count .close = 1 ↔ Graceful operations := by
  induction operations generalizing sock with
  | nil =>
      constructor
      · intro _ before operation after equality
        simp at equality
      · intro _
        simp [calls, Socket.destroy, Socket.close, opened]
  | cons operation operations ih =>
      rw [count_calls_cons]
      by_cases close : operation = .close
      · subst close
        obtain ⟨closed, once⟩ := Operation.apply_close opened
        rw [once, count_calls_of_closed fd closed]
        exact ⟨fun _ => graceful_close operations, fun _ => rfl⟩
      · rw [graceful_cons_iff close]
        by_cases fails : operation.fails
        · obtain ⟨closed, none⟩ := Operation.apply_of_fails opened fails
          rw [none, count_calls_of_closed fd closed]
          simp [fails]
        · obtain ⟨same, none⟩ := Operation.apply_of_succeeds opened fails close
          rw [same, none, Nat.zero_add, ih opened, and_iff_right fails]

/-- A cleared flag stops every call, also the one of `::close` when a failed call has
cleared it. -/
theorem closedOnce_iff (fd : Nat) (operations : List Operation) :
    ClosedOnce fd operations ↔ Graceful operations := by
  rw [← @count_calls_eq_one_iff fd (machine fd).initial rfl]
  constructor
  · intro closed
    exact closed.once
  · intro once
    refine ⟨once, ?_⟩
    intro before operation after _ closed
    exact (operation.apply_of_closed closed).2

end Descriptor

end AndroidMessenger.Networking
