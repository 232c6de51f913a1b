import AndroidMessenger.Networking.Socket

namespace AndroidMessenger.Networking

open Library Msg

/-! The two overloads of `socket::read`. -/

/-- The same bytes received into a buffer with other contents behind them. -/
def Recv.over (beyond : Bytes) : Recv → Recv
  | .data chunk => .data { chunk with beyond }
  | .shutdown => .shutdown
  | .failed => .failed

/-- What `recv` returned is stored as it is by both overloads, which agree, and
neither looks at what the buffer holds behind it. -/
structure ReadsAgree (sock : Socket) (recv : Recv) (beyond : Bytes) : Prop where
  string : ∀ chunk, sock.isOpen = true → recv = .data chunk →
    sock.read recv = (.received chunk.bytes.length chunk.bytes, sock)
  vector : ∀ chunk, sock.isOpen = true → recv = .data chunk →
    sock.readVector recv = .ok (.received chunk.bytes.length chunk.bytes, sock)
  agree : sock.readVector recv = .ok (sock.read recv)
  stringIndependent : sock.read (recv.over beyond) = sock.read recv
  vectorIndependent : sock.readVector (recv.over beyond) = sock.readVector recv

theorem Chunk.stored_eq_bytes_iff (chunk : Chunk) :
    chunk.stored = some chunk.bytes ↔
      (0 : UInt8) ∉ chunk.bytes ∧ chunk.beyond.head? = some 0 :=
  cString_append_eq_iff chunk.bytes chunk.beyond

namespace Socket

variable {sock : Socket}

theorem read_of_stored (opened : sock.isOpen = true) {chunk : Chunk} {str : Bytes}
    (stored : chunk.stored = some str) :
    sock.read (.data chunk) = (.received chunk.bytes.length str, sock) := by
  simp [read, opened, stored]

theorem read_eq_received_iff (opened : sock.isOpen = true) {chunk : Chunk} {bytes : Bytes} :
    sock.read (.data chunk) = (.received chunk.bytes.length bytes, sock) ↔
      chunk.stored = some bytes := by
  cases stored : chunk.stored with
  | none => simp [read, opened, stored]
  | some str => simp [read_of_stored opened stored]

theorem readVector_of_open (opened : sock.isOpen = true) (chunk : Chunk) :
    sock.readVector (.data chunk) = .ok (.received chunk.bytes.length chunk.bytes, sock) := by
  simp [readVector, opened]

end Socket

/-- The overloads agree exactly on an open socket and, when `recv` returns data, on
bytes without a NUL in front of a NUL. -/
theorem readsAgree_iff (sock : Socket) (recv : Recv) (beyond : Bytes) :
    ReadsAgree sock recv beyond ↔
      sock.isOpen = true ∧ ∀ chunk, recv = .data chunk →
        (0 : UInt8) ∉ chunk.bytes ∧ chunk.beyond.head? = some 0 ∧
          beyond.head? = some 0 := by
  constructor
  · intro reads
    have opened : sock.isOpen = true := by
      cases closed : sock.isOpen with
      | true => rfl
      | false =>
          have agree := reads.agree
          simp [Socket.readVector, closed] at agree
    refine ⟨opened, ?_⟩
    intro chunk same
    subst same
    have string := reads.string chunk opened rfl
    have replaced := reads.stringIndependent.trans string
    obtain ⟨clean, here⟩ := chunk.stored_eq_bytes_iff.mp
      ((Socket.read_eq_received_iff opened).mp string)
    have elsewhere := (@Chunk.stored_eq_bytes_iff { chunk with beyond }).mp
      ((Socket.read_eq_received_iff opened).mp replaced)
    exact ⟨clean, here, elsewhere.2⟩
  · intro given
    rcases given with ⟨opened, ended⟩
    cases recv with
    | failed =>
        refine ⟨by simp, by simp, ?_, rfl, rfl⟩
        simp [Socket.read, Socket.readVector, opened]
    | shutdown =>
        refine ⟨by simp, by simp, ?_, rfl, rfl⟩
        simp [Socket.read, Socket.readVector, opened]
    | data chunk =>
        obtain ⟨clean, here, elsewhere⟩ := ended chunk rfl
        have string := Socket.read_of_stored opened
          (chunk.stored_eq_bytes_iff.mpr ⟨clean, here⟩)
        have replaced := Socket.read_of_stored opened
          ((@Chunk.stored_eq_bytes_iff { chunk with beyond }).mpr ⟨clean, elsewhere⟩)
        have vector := Socket.readVector_of_open opened chunk
        refine ⟨?_, ?_, ?_, ?_, ?_⟩
        · rintro other _ same
          cases same
          exact string
        · rintro other _ same
          cases same
          exact vector
        · rw [string, vector]
        · exact replaced.trans string.symm
        · exact (Socket.readVector_of_open opened { chunk with beyond }).trans vector.symm

/-- Two bytes in front of what an earlier read has left in the buffer. -/
def staleChunk : Chunk where
  bytes := [104, 105]
  nonempty := by simp
  bounded := by decide
  beyond := [33, 0]

theorem stale_byte_is_stored :
    ¬ ReadsAgree { fd := 3, isOpen := true } (.data staleChunk) [0] := by
  intro reads
  exact absurd (reads.string staleChunk rfl rfl) (by decide)

end AndroidMessenger.Networking
