import AndroidMessenger.Msg.Codecs

namespace AndroidMessenger.Networking

open Library Msg

structure Socket where
  fd : Nat
  isOpen : Bool
  deriving DecidableEq

def maxBufferSize : Nat := 1024

/-- Bytes that `recv` stored at the head of `raw_buff`, and the memory behind
them up to the end of the mapped stack.  That memory keeps what it held before:
`std::memset(raw_buff, MAX_BUFFER_SIZE, 0)` has its last two arguments the other
way round and clears nothing. -/
structure Chunk where
  bytes : Bytes
  nonempty : bytes ≠ []
  bounded : bytes.length ≤ maxBufferSize
  beyond : Bytes

/-- `std::string(raw_buff)`, which runs up to the first NUL wherever that is. -/
def cString (memory : Bytes) : Option Bytes :=
  if (0 : UInt8) ∈ memory then some (memory.takeWhile fun byte => byte ≠ 0)
  else none

def Chunk.stored (chunk : Chunk) : Option Bytes :=
  cString (chunk.bytes ++ chunk.beyond)

/-- A read that returns one whole line, with a NUL right behind it. -/
def Chunk.ofLine (line : String)
    (bounded : (Utf8.encode line).length < maxBufferSize) : Chunk where
  bytes := Utf8.encode line ++ [10]
  nonempty := by simp
  bounded := by
    rw [List.length_append, List.length_singleton]
    omega
  beyond := [0]

/-- The NUL that ends the string has to lie right behind the received bytes. -/
theorem cString_append_eq_iff (bytes beyond : Bytes) :
    cString (bytes ++ beyond) = some bytes ↔
      (0 : UInt8) ∉ bytes ∧ beyond.head? = some 0 := by
  induction bytes with
  | nil =>
      cases beyond with
      | nil => simp [cString]
      | cons first rest =>
          by_cases nul : first = 0
          · simp [cString, nul]
          · have other : (0 : UInt8) ≠ first := fun same => nul same.symm
            simp [cString, nul]
  | cons byte bytes ih =>
      by_cases nul : byte = 0
      · simp [cString, nul]
      · have other : (0 : UInt8) ≠ byte := fun same => nul same.symm
        rw [List.mem_cons, not_or, and_assoc, ← ih]
        simp [cString, nul, other]

theorem cString_append {str : Bytes} (free : 0 ∉ str) (rest : Bytes) :
    cString (str ++ 0 :: rest) = some str :=
  (cString_append_eq_iff str (0 :: rest)).mpr ⟨free, rfl⟩

theorem Chunk.stored_ofLine {line : String} (bounded : (Utf8.encode line).length < maxBufferSize)
    (unbroken : (0 : UInt8) ∉ Utf8.encode line) :
    (Chunk.ofLine line bounded).stored = some (Utf8.encode line ++ [10]) := by
  apply cString_append
  intro inside
  rcases List.mem_append.mp inside with before | last
  · exact unbroken before
  · cases List.mem_singleton.mp last

inductive Recv where
  | data (chunk : Chunk)
  | shutdown
  | failed

inductive WriteOutcome where
  | failed
  | short (count : Nat)
  | whole
  deriving DecidableEq

namespace WriteOutcome

/-- The bytes that reach the peer. -/
def delivered (bytes : Bytes) : WriteOutcome → Bytes
  | .failed => []
  | .short count => bytes.take count
  | .whole => bytes

def ret (length : Nat) : WriteOutcome → Int
  | .failed => -1
  | .short count => min count length
  | .whole => length

end WriteOutcome

namespace Socket

inductive ReadResult where
  | error
  | disconnected
  | received (count : Nat) (str : Bytes)
  | unterminated
  deriving DecidableEq

/-- `socket::read(std::string*)`. -/
def read (sock : Socket) (recv : Recv) : ReadResult × Socket :=
  if sock.isOpen then
    match recv with
    | .failed => (.error, { sock with isOpen := false })
    | .shutdown => (.disconnected, { sock with isOpen := false })
    | .data chunk =>
        match chunk.stored with
        | some str => (.received chunk.bytes.length str, sock)
        | none => (.unterminated, sock)
  else (.error, sock)

/-- `socket::read(std::vector<char>*)`, which copies by length. -/
def readVector (sock : Socket) (recv : Recv) : Except Exn (ReadResult × Socket) :=
  if sock.isOpen then
    match recv with
    | .failed => .ok (.error, { sock with isOpen := false })
    | .shutdown => .ok (.disconnected, { sock with isOpen := false })
    | .data chunk => .ok (.received chunk.bytes.length chunk.bytes, sock)
  else .error (.runtimeError "Can not read from closed socket.")

def write (sock : Socket) (text : Bytes) (outcome : WriteOutcome) :
    Except Exn (Int × Socket) :=
  if sock.isOpen then
    match outcome with
    | .failed => .ok (-1, { sock with isOpen := false })
    | outcome => .ok (outcome.ret text.length, sock)
  else .error (.runtimeError "Can not write to closed socket.")

/-- `socket::close`, with whether it calls `::close` on the descriptor. -/
def close (sock : Socket) : Bool × Socket :=
  if sock.isOpen then (true, { sock with isOpen := false }) else (false, sock)

def destroy (sock : Socket) : Bool × Socket :=
  if sock.isOpen then sock.close else (false, sock)

theorem write_cases {sock sock' : Socket} {text : Bytes} {outcome : WriteOutcome}
    {ret : Int} (h : sock.write text outcome = .ok (ret, sock')) :
    sock.isOpen = true ∧
      (outcome = .failed ∧ sock' = { sock with isOpen := false } ∨
        outcome ≠ .failed ∧ sock' = sock) := by
  unfold write at h
  cases hopen : sock.isOpen with
  | false => simp [hopen] at h
  | true =>
      refine ⟨rfl, ?_⟩
      cases outcome with
      | failed =>
          left
          simp only [hopen, if_true, Except.ok.injEq, Prod.mk.injEq] at h
          exact ⟨rfl, h.2.symm⟩
      | short count =>
          right
          simp only [hopen, if_true, Except.ok.injEq, Prod.mk.injEq] at h
          exact ⟨by simp, h.2.symm⟩
      | whole =>
          right
          simp only [hopen, if_true, Except.ok.injEq, Prod.mk.injEq] at h
          exact ⟨by simp, h.2.symm⟩

end Socket

end AndroidMessenger.Networking
