import AndroidMessenger.Library.Lines
import AndroidMessenger.Library.Machine
import AndroidMessenger.Networking.Wait

namespace AndroidMessenger.Networking

open Library Msg

/-! What `onSTDIN` is called with, for any way the input comes in. -/

/-- The read returned one line with its newline and nothing else, and the line ends
there as a C string. -/
def StdinChunk.IsLine (chunk : StdinChunk) : Prop :=
  ∃ line, chunk.bytes = line ++ [10] ∧ 10 ∉ line ∧ 0 ∉ line ∧
    (chunk.bytes.length = bufferSize → chunk.beyond.head? = some 0)

theorem cString_eq_some_iff {memory str : Bytes} :
    cString memory = some str ↔ 0 ∉ str ∧ ∃ rest, memory = str ++ 0 :: rest := by
  constructor
  · intro stored
    by_cases nul : 0 ∈ memory
    · obtain ⟨before, rest, rfl, free⟩ := List.eq_append_cons_of_mem nul
      rw [cString_append free] at stored
      obtain rfl := Option.some.inj stored
      exact ⟨free, rest, rfl⟩
    · rw [cString, if_neg nul] at stored
      cases stored
  · intro given
    rcases given with ⟨free, rest, rfl⟩
    exact cString_append free rest

theorem stripNewline_concat (line : Bytes) : stripNewline (line ++ [10]) = line := by
  simp [stripNewline]

theorem eq_or_eq_of_stripNewline {input line : Bytes} (stripped : stripNewline input = line) :
    input = line ∨ input = line ++ [10] := by
  unfold stripNewline at stripped
  split at stripped
  · rename_i last
    obtain ⟨initial, rfl⟩ := List.getLast?_eq_some_iff.mp last
    right
    rw [← stripped, List.dropLast_concat]
  · exact Or.inl stripped

namespace StdinChunk

variable {chunk : StdinChunk} {line : Bytes}

theorem input_of_bytes (read : chunk.bytes = line ++ [10]) (clean : 0 ∉ line)
    (stops : chunk.bytes.length = bufferSize → chunk.beyond.head? = some 0) :
    chunk.input = some line := by
  have memory : ∃ rest, chunk.buff ++ chunk.beyond = chunk.bytes ++ 0 :: rest := by
    unfold buff
    have bounded := chunk.bounded
    cases free : bufferSize - chunk.bytes.length with
    | zero =>
        obtain ⟨rest, beyond⟩ := List.head?_eq_some_iff.mp (stops (by omega))
        exact ⟨rest, by simp [beyond]⟩
    | succ left => exact ⟨List.replicate left 0 ++ chunk.beyond, by simp [List.replicate_succ]⟩
  obtain ⟨rest, memory⟩ := memory
  rw [input, cString_eq_some_iff.mpr ⟨by simp [read, clean], rest, memory⟩, read,
    Option.map_some, stripNewline_concat]

theorem input_free (given : chunk.input = some line) : 0 ∉ line := by
  obtain ⟨str, stored, stripped⟩ := Option.map_eq_some_iff.mp given
  have free := (cString_eq_some_iff.mp stored).1
  rcases eq_or_eq_of_stripNewline stripped with rfl | rfl
  · exact free
  · intro inside
    exact free (List.mem_append_left _ inside)

theorem bytes_of_input (given : chunk.input = some line) (free : 0 ∉ chunk.bytes) :
    ∃ extra, (chunk.bytes ++ extra = line ∨ chunk.bytes ++ extra = line ++ [10]) ∧
      (extra = [] → chunk.bytes.length = bufferSize → chunk.beyond.head? = some 0) := by
  obtain ⟨str, stored, stripped⟩ := Option.map_eq_some_iff.mp given
  obtain ⟨_, rest, memory⟩ := cString_eq_some_iff.mp stored
  rw [buff, List.append_assoc] at memory
  have starts : ∃ extra, str = chunk.bytes ++ extra ∧
      List.replicate (bufferSize - chunk.bytes.length) 0 ++ chunk.beyond =
        extra ++ 0 :: rest := by
    rcases List.append_eq_append_iff.mp memory with ⟨extra, rfl, behind⟩ | ⟨extra, bytes, behind⟩
    · exact ⟨extra, rfl, behind⟩
    · cases extra with
      | nil => exact ⟨[], by simpa using bytes.symm, by simpa using behind.symm⟩
      | cons first others =>
          obtain ⟨rfl, _⟩ := List.cons.inj behind
          rw [bytes] at free
          simp at free
  obtain ⟨extra, rfl, behind⟩ := starts
  refine ⟨extra, eq_or_eq_of_stripNewline stripped, ?_⟩
  intro none full
  rw [none, full, Nat.sub_self, List.replicate_zero] at behind
  simp only [List.nil_append] at behind
  rw [behind]
  rfl

end StdinChunk

def streamOf (chunks : List StdinChunk) : Bytes :=
  (chunks.map StdinChunk.bytes).flatten

theorem inputs_of_isLine {chunks : List StdinChunk}
    (all : ∀ chunk ∈ chunks, chunk.IsLine) :
    ∃ lines : List Bytes, (∀ line ∈ lines, 10 ∉ line) ∧
      streamOf chunks = Lines.text 10 lines ∧
        chunks.map StdinChunk.input = lines.map some := by
  induction chunks with
  | nil => exact ⟨[], by simp, rfl, rfl⟩
  | cons chunk rest ih =>
      obtain ⟨lines, clean, stream, inputs⟩ :=
        ih fun other inside => all other (List.mem_cons_of_mem _ inside)
      obtain ⟨line, read, noNewline, noNul, stops⟩ := all chunk List.mem_cons_self
      refine ⟨line :: lines, ?_, ?_, ?_⟩
      · intro other inside
        rcases List.mem_cons.mp inside with rfl | inside
        · exact noNewline
        · exact clean other inside
      · rw [Lines.text, ← stream]
        simp [streamOf, read]
      · rw [List.map_cons, List.map_cons, inputs, StdinChunk.input_of_bytes read noNul stops]

theorem isLine_of_inputs {chunks : List StdinChunk} {lines : List Bytes}
    (clean : ∀ line ∈ lines, 10 ∉ line) (stream : streamOf chunks = Lines.text 10 lines)
    (inputs : chunks.map StdinChunk.input = lines.map some) :
    ∀ chunk ∈ chunks, chunk.IsLine := by
  have taken : ∀ chunk ∈ chunks, ∃ line ∈ lines, chunk.input = some line := by
    intro chunk inside
    have image : chunk.input ∈ lines.map some := by
      rw [← inputs]
      exact List.mem_map_of_mem inside
    obtain ⟨line, listed, same⟩ := List.mem_map.mp image
    exact ⟨line, listed, same.symm⟩
  have given : ∀ line ∈ lines, 0 ∉ line := by
    intro line listed
    have image : some line ∈ chunks.map StdinChunk.input := by
      rw [inputs]
      exact List.mem_map_of_mem listed
    obtain ⟨chunk, _, same⟩ := List.mem_map.mp image
    exact StdinChunk.input_free same
  have free : ∀ chunk ∈ chunks, 0 ∉ chunk.bytes := by
    intro chunk inside nul
    have within : 0 ∈ streamOf chunks :=
      List.mem_flatten.mpr ⟨chunk.bytes, List.mem_map_of_mem inside, nul⟩
    rw [stream] at within
    rcases Lines.mem_text within with same | ⟨line, listed, here⟩
    · cases same
    · exact given line listed here
  have atMostOne : ∀ piece ∈ chunks.map StdinChunk.bytes, piece.count 10 ≤ 1 := by
    intro piece image
    obtain ⟨chunk, inside, rfl⟩ := List.mem_map.mp image
    obtain ⟨line, listed, input⟩ := taken chunk inside
    obtain ⟨extra, head, _⟩ := StdinChunk.bytes_of_input input (free chunk inside)
    have bound : (chunk.bytes ++ extra).count 10 ≤ 1 := by
      rcases head with same | same
      · simp [same, List.count_eq_zero_of_not_mem (clean line listed)]
      · simp [same, List.count_eq_zero_of_not_mem (clean line listed)]
    rw [List.count_append] at bound
    omega
  have number : (chunks.map StdinChunk.bytes).length = lines.length := by
    have lengths := congrArg List.length inputs
    simpa using lengths
  have one := Lines.count_eq_one_of_flatten clean stream number atMostOne
  intro chunk inside
  obtain ⟨line, listed, input⟩ := taken chunk inside
  obtain ⟨extra, head, stops⟩ := StdinChunk.bytes_of_input input (free chunk inside)
  have newline := one chunk.bytes (List.mem_map_of_mem inside)
  have none := List.count_eq_zero_of_not_mem (clean line listed)
  rcases head with same | same
  · have counted := congrArg (List.count 10) same
    rw [List.count_append, none] at counted
    omega
  · have counted := congrArg (List.count 10) same
    rw [List.count_append, List.count_append, none] at counted
    have last : extra = [] := by
      rcases List.eq_nil_or_concat extra with rfl | ⟨initial, byte, rfl⟩
      · rfl
      · rw [List.concat_eq_append, ← List.append_assoc] at same
        obtain ⟨_, tail⟩ := List.append_inj' same rfl
        obtain rfl := List.singleton_inj.mp tail
        simp at counted
        omega
    rw [last, List.append_nil] at same
    exact ⟨line, same, clean line listed, given line listed, stops last⟩

theorem inputs_eq_lines_iff {chunks : List StdinChunk} {lines : List Bytes}
    (clean : ∀ line ∈ lines, 10 ∉ line) (stream : streamOf chunks = Lines.text 10 lines) :
    chunks.map StdinChunk.input = lines.map some ↔ ∀ chunk ∈ chunks, chunk.IsLine := by
  constructor
  · exact isLine_of_inputs clean stream
  · intro all
    obtain ⟨others, clean', stream', inputs⟩ := inputs_of_isLine all
    obtain rfl := Lines.text_injective clean clean' (stream.symm.trans stream')
    exact inputs

/-! Runs of a waiter. -/

structure Waiting where
  killEventFD : Option Nat
  thrown : Option Exn

namespace Waiting

def machine : Machine Waiting Wait Activity where
  initial := { killEventFD := none, thrown := none }
  step waiting wait :=
    if waiting.thrown = none then
      { killEventFD := (wait.run waiting.killEventFD).1
        thrown :=
          match (wait.run waiting.killEventFD).2 with
          | .ok _ => none
          | .error exn => some exn }
    else waiting
  emits waiting wait :=
    if waiting.thrown = none then
      match (wait.run waiting.killEventFD).2 with
      | .ok activities => activities
      | .error _ => []
    else []

def reads (waiting : Waiting) (wait : Wait) : List StdinChunk :=
  if waiting.thrown = none then (wait.stdinOf waiting.killEventFD).toList else []

def chunks (waits : List Wait) : List StdinChunk :=
  (machine.observing reads).trace waits

def lineOf : Activity → Option Bytes
  | .onSTDIN line => some line
  | _ => none

/-- What `onSTDIN` is called with in a run. -/
def linesGiven (waits : List Wait) : List Bytes :=
  (machine.trace waits).filterMap lineOf

/-- Every line of the input is passed on, and nothing else. -/
def PassesLines (waits : List Wait) (lines : List Bytes) : Prop :=
  (machine.run waits).thrown ≠ some .unterminatedBuffer ∧ linesGiven waits = lines

theorem linesGiven_concat (waits : List Wait) (wait : Wait) :
    linesGiven (waits ++ [wait]) =
      linesGiven waits ++ (machine.emits (machine.run waits) wait).filterMap lineOf := by
  rw [linesGiven, Machine.trace_concat, List.filterMap_append]
  rfl

theorem chunks_concat (waits : List Wait) (wait : Wait) :
    chunks (waits ++ [wait]) = chunks waits ++ reads (machine.run waits) wait :=
  machine.observing_concat reads waits wait

theorem inputs_chunks (waits : List Wait) :
    ((machine.run waits).thrown ≠ some .unterminatedBuffer ∧
      (chunks waits).map StdinChunk.input = (linesGiven waits).map some) ∨
    ((machine.run waits).thrown = some .unterminatedBuffer ∧
      (chunks waits).map StdinChunk.input = (linesGiven waits).map some ++ [none]) := by
  induction waits using List.reverseRecOn with
  | nil => exact Or.inl ⟨by simp [machine], rfl⟩
  | append_singleton waits wait ih =>
      rw [linesGiven_concat, chunks_concat, Machine.run_concat]
      generalize machine.run waits = waiting at ih ⊢
      obtain ⟨killEventFD, thrown⟩ := waiting
      cases thrown with
      | some exn => simpa [machine, reads] using ih
      | none =>
          have held : (chunks waits).map StdinChunk.input = (linesGiven waits).map some := by
            simpa using ih
          rcases wait.run_cases killEventFD with
            ⟨chunk, stdin, result⟩ | ⟨stdin, ⟨what, result⟩ | ⟨activities, result, others⟩⟩
          · cases input : chunk.input with
            | none =>
                right
                simp [machine, reads, stdin, result, input, held]
            | some line =>
                left
                simp [machine, reads, stdin, result, input, held, lineOf]
          · left
            simp [machine, reads, stdin, result, held]
          · left
            have silent : activities.filterMap lineOf = [] := by
              apply List.filterMap_eq_nil_iff.mpr
              intro activity called
              rcases others activity called with rfl | ⟨child, _, rfl⟩
              · rfl
              · rfl
            simp [machine, reads, stdin, result, held, silent]

theorem passesLines_iff_inputs (waits : List Wait) (lines : List Bytes) :
    PassesLines waits lines ↔
      (chunks waits).map StdinChunk.input = lines.map some := by
  rcases inputs_chunks waits with ⟨running, inputs⟩ | ⟨thrown, inputs⟩
  · rw [inputs]
    constructor
    · intro passes
      rw [passes.2]
    · intro same
      exact ⟨running, List.map_injective_iff.mpr (Option.some_injective _) same⟩
  · rw [inputs]
    constructor
    · intro passes
      exact absurd thrown passes.1
    · intro same
      have missing : none ∈ lines.map some := by
        rw [← same]
        simp
      simp at missing

/-- The input of a run that consists of lines is passed on line by line exactly when
every read returned one whole line. -/
theorem passesLines_iff (waits : List Wait) {lines : List Bytes}
    (clean : ∀ line ∈ lines, 10 ∉ line)
    (typed : streamOf (chunks waits) = Lines.text 10 lines) :
    PassesLines waits lines ↔ ∀ chunk ∈ chunks waits, chunk.IsLine := by
  rw [passesLines_iff_inputs]
  exact inputs_eq_lines_iff clean typed

/-! Calls that find stdin ready, and what they read. -/

def typing (bytes : Bytes) (bounded : bytes.length ≤ bufferSize) : Wait where
  waiter := { sockets := ∅ }
  order := []
  nodup := List.nodup_nil
  enumerates := by simp
  heap _ := { fd := 0, isOpen := false }
  master := none
  eventfd := some 4
  select := Wait.selectOnly 0
  within := Wait.selectOnly_within 0
  killRead := 8
  stdinRead := .data { bytes, bounded, beyond := [0] }

def oneByOne : List Wait :=
  [typing [97, 10] (by decide), typing [98, 10] (by decide)]

def together : List Wait :=
  [typing [97, 10, 98, 10] (by decide)]

def endOfFile : List Wait :=
  [typing [] (by decide)]

theorem passesLines_oneByOne :
    PassesLines oneByOne [[97], [98]] ↔ ∀ chunk ∈ chunks oneByOne, chunk.IsLine :=
  passesLines_iff oneByOne (by decide) (by decide)

theorem lines_joined_and_invented :
    (streamOf (chunks together) = Lines.text 10 [[97], [98]] ∧
      linesGiven together = [[97, 10, 98]] ∧ ¬ PassesLines together [[97], [98]]) ∧
    (streamOf (chunks endOfFile) = Lines.text 10 [] ∧
      linesGiven endOfFile = [[]] ∧ ¬ PassesLines endOfFile []) := by
  have joined : linesGiven together = [[97, 10, 98]] := by decide
  have invented : linesGiven endOfFile = [[]] := by decide
  refine ⟨⟨by decide, joined, ?_⟩, by decide, invented, ?_⟩
  · intro passes
    exact absurd (joined.symm.trans passes.2) (by decide)
  · intro passes
    exact absurd (invented.symm.trans passes.2) (by decide)

end Waiting

end AndroidMessenger.Networking
