import Mathlib.Logic.Function.Basic
import AndroidMessenger.Library.LowestFree
import AndroidMessenger.Networking.FdSets

namespace AndroidMessenger.Networking

open Library Msg

/-! What the system holds for a process that listens, and its calls. -/

/-- How many descriptors a process may have.  The sets of `select` have room for them. -/
abbrev Limit := Fin (fdSetSize + 1)

/-- Connections are numbered as they come in.  The queues hold what the reads that are
still to come return. -/
structure Kernel where
  held : Finset Nat
  limit : Limit
  listening : Option Nat
  backlog : List Nat
  connections : Nat
  received : Nat → List Recv
  endpoint : Nat → Option Nat
  stdin : List StdinRead
  ended : Bool

/-- What comes from outside: from the clients and from the terminal. -/
inductive Arrival where
  | connects
  | sends (connection : Nat) (recv : Recv)
  | types (read : StdinRead)
  | endsStdin

def tooManyFiles : Nat := 24

def StdinChunk.atEnd : StdinChunk where
  bytes := []
  bounded := Nat.zero_le _
  beyond := []

namespace Kernel

variable (kernel : Kernel)

def arrive : Arrival → Kernel
  | .connects =>
      if kernel.listening.isSome then
        { kernel with
          backlog := kernel.backlog ++ [kernel.connections]
          connections := kernel.connections + 1 }
      else kernel
  | .sends connection recv =>
      if connection < kernel.connections then
        { kernel with
          received := Function.update kernel.received connection
            (kernel.received connection ++ [recv]) }
      else kernel
  | .types read =>
      if kernel.ended then kernel else { kernel with stdin := kernel.stdin ++ [read] }
  | .endsStdin => { kernel with ended := true }

/-- The lowest free descriptor, if the process may have it. -/
def openNext : Option (Nat × Kernel) :=
  if lowest kernel.held < kernel.limit then
    some (lowest kernel.held, { kernel with held := insert (lowest kernel.held) kernel.held })
  else none

def close (fd : Nat) : Kernel :=
  { kernel with held := kernel.held.erase fd }

/-- The constructor of `socket_server`, with the error of `::bind` if there is one. -/
def socketServer (bindError : Option Nat) : Except Exn Nat × Kernel :=
  match kernel.openNext with
  | none => (.error (.runtimeError "Unable to open the socket server"), kernel)
  | some (fd, kernel) =>
      match bindError with
      | some errno =>
          (.error (.runtimeError
            ("Unable to bind socket to requested port, err: " ++ toString errno)), kernel)
      | none => (.ok fd, { kernel with listening := some fd })

def readable (fd : Nat) : Bool :=
  if fd = stdinFileno then !kernel.stdin.isEmpty || kernel.ended
  else if kernel.listening = some fd then !kernel.backlog.isEmpty
  else
    match kernel.endpoint fd with
    | none => false
    | some connection => !(kernel.received connection).isEmpty

def select (watch : Watch) : Selected :=
  let theSet := watch.theSet.filter fun fd => kernel.readable fd = true ∧ fd < watch.maxFD + 1
  if theSet = ∅ then .timeout else .ready theSet

def stdinRead : StdinRead :=
  match kernel.stdin with
  | [] => .data .atEnd
  | read :: _ => read

/-- `::accept`, with another error than that of the limit if there is one.  `none` is a
call that waits. -/
def accept (aborted : Option Nat) : Option (Except Nat Nat × Kernel) :=
  match kernel.backlog with
  | [] => none
  | connection :: rest =>
      match aborted, kernel.openNext with
      | some errno, _ => some (.error errno, { kernel with backlog := rest })
      | none, none => some (.error tooManyFiles, kernel)
      | none, some (fd, kernel) =>
          some (.ok fd, { kernel with
            backlog := rest
            endpoint := Function.update kernel.endpoint fd (some connection) })

/-- `::recv`.  `none` is a call that waits.  Nothing is read after the end of a
connection, so that its end needs to be read once only. -/
def recv (fd : Nat) : Option (Recv × Kernel) :=
  match kernel.endpoint fd with
  | none => none
  | some connection =>
      match kernel.received connection with
      | [] => none
      | recv :: rest =>
          some (recv, { kernel with
            received := Function.update kernel.received connection rest })

theorem select_within (watch : Watch) (theSet : Finset Nat)
    (selected : kernel.select watch = .ready theSet) :
    ∀ fd ∈ theSet, fd ∈ watch.theSet ∧ fd < watch.maxFD + 1 := by
  unfold select at selected
  simp only at selected
  split at selected
  · cases selected
  · cases selected
    intro fd inside
    have given := Finset.mem_filter.mp inside
    exact ⟨given.1, given.2.2⟩

variable {kernel}

theorem mem_ready {watch : Watch} (below : ∀ fd ∈ watch.theSet, fd ≤ watch.maxFD)
    {theSet : Finset Nat} (selected : kernel.select watch = .ready theSet) (fd : Nat) :
    fd ∈ theSet ↔ fd ∈ watch.theSet ∧ kernel.readable fd = true := by
  unfold select at selected
  simp only at selected
  split at selected
  · cases selected
  · cases selected
    rw [Finset.mem_filter]
    constructor
    · intro given
      exact ⟨given.1, given.2.1⟩
    · intro given
      exact ⟨given.1, given.2, Nat.lt_succ_of_le (below fd given.1)⟩

theorem select_cases (kernel : Kernel) {watch : Watch}
    (below : ∀ fd ∈ watch.theSet, fd ≤ watch.maxFD) :
    (kernel.select watch = .timeout ∧ ∀ fd ∈ watch.theSet, kernel.readable fd = false) ∨
      ∃ theSet, kernel.select watch = .ready theSet ∧ theSet.Nonempty := by
  unfold select
  simp only
  split
  · rename_i empty
    refine Or.inl ⟨rfl, ?_⟩
    intro fd inside
    apply Bool.eq_false_iff.mpr
    intro ready
    have member : fd ∈ (∅ : Finset Nat) := by
      rw [← empty, Finset.mem_filter]
      exact ⟨inside, ready, Nat.lt_succ_of_le (below fd inside)⟩
    exact absurd member (Finset.notMem_empty fd)
  · rename_i some
    exact Or.inr ⟨_, rfl, Finset.nonempty_iff_ne_empty.mpr some⟩

theorem openNext_cases (kernel : Kernel) :
    (kernel.openNext = none ∧ kernel.limit ≤ lowest kernel.held) ∨
      (lowest kernel.held < kernel.limit ∧ kernel.openNext =
        some (lowest kernel.held,
          { kernel with held := insert (lowest kernel.held) kernel.held })) := by
  unfold openNext
  split
  · rename_i room
    exact Or.inr ⟨room, rfl⟩
  · rename_i full
    exact Or.inl ⟨rfl, Nat.le_of_not_lt full⟩

theorem accept_cases (kernel : Kernel) (aborted : Option Nat) :
    (kernel.backlog = [] ∧ kernel.accept aborted = none) ∨
      ∃ result after, kernel.accept aborted = some (result, after) := by
  unfold accept
  split
  · rename_i empty
    exact Or.inl ⟨empty, rfl⟩
  · right
    split
    · exact ⟨_, _, rfl⟩
    · exact ⟨_, _, rfl⟩
    · exact ⟨_, _, rfl⟩

theorem accept_eq_ok {kernel after : Kernel} {aborted : Option Nat} {fd : Nat}
    (accepted : kernel.accept aborted = some (.ok fd, after)) :
    ∃ connection rest, kernel.backlog = connection :: rest ∧ aborted = none ∧
      lowest kernel.held < kernel.limit ∧ fd = lowest kernel.held ∧ after =
        { kernel with
          held := insert (lowest kernel.held) kernel.held
          backlog := rest
          endpoint := Function.update kernel.endpoint (lowest kernel.held)
            (some connection) } := by
  unfold accept at accepted
  split at accepted
  · cases accepted
  · rename_i connection rest queued
    split at accepted
    · cases accepted
    · cases accepted
    · rename_i opens
      rcases kernel.openNext_cases with ⟨none, _⟩ | ⟨room, found⟩
      · rw [none] at opens
        cases opens
      · rw [found] at opens
        cases opens
        cases accepted
        exact ⟨connection, rest, queued, rfl, room, rfl, rfl⟩

theorem frame_accept {kernel after : Kernel} {aborted : Option Nat}
    {result : Except Nat Nat} (accepted : kernel.accept aborted = some (result, after)) :
    after.received = kernel.received ∧ after.connections = kernel.connections ∧
      after.limit = kernel.limit := by
  unfold accept at accepted
  split at accepted
  · cases accepted
  · split at accepted
    · cases accepted
      exact ⟨rfl, rfl, rfl⟩
    · cases accepted
      exact ⟨rfl, rfl, rfl⟩
    · rename_i opens
      rcases kernel.openNext_cases with ⟨none, _⟩ | ⟨_, found⟩
      · rw [none] at opens
        cases opens
      · rw [found] at opens
        cases opens
        cases accepted
        exact ⟨rfl, rfl, rfl⟩

end Kernel

end AndroidMessenger.Networking
