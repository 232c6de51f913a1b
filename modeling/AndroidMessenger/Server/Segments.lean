import AndroidMessenger.Library.JsonShape
import AndroidMessenger.Server.Stream

namespace AndroidMessenger.Server

open Library Msg Networking
open JsonScan (Mode IsObject Lined)

variable {codecs : Codecs}

/-! The documents that a client writes, each with a newline behind it, and the chunks into
which their stream is cut. -/

/-- A tree with a type is read from the text of one object, and a newline in front of the
text changes nothing. -/
structure ReadsJson (codecs : Codecs) : Prop where
  isObject : ∀ {text json}, codecs.readJson text = some json →
    (json.find? Instance.propertyType).isSome = true → IsObject text
  newline : ∀ {text json}, codecs.readJson text = some json →
    codecs.readJson (Json.newline :: text) = some json

/-- The text of a request, as `println` puts it on the socket. -/
structure IsDocument (codecs : Codecs) (document : Bytes) (call : Call) : Prop where
  opens : document.head? = some JsonScan.openBrace
  closes : document.getLast? = some Json.closingBrace
  oneLine : Json.newline ∉ document
  noNul : (0 : UInt8) ∉ document
  parsed : ∃ json, codecs.readJson document = some json ∧ json.Representable ∧
    Call.ofJson codecs json = .ok call
  request : ∀ originator code message, call ≠ .error originator code message

def stream (documents : List Bytes) : Bytes :=
  documents.flatMap fun document => document ++ [Json.newline]

/-- Every chunk has one document, whole.  Its newline comes at the end of the chunk or at
the start of the next one, where `before` has it.  A chunk that starts with a newline and
does not end with one is cut off there, unless the buffer has held another one behind it. -/
inductive Lines : Bytes → List Chunk → List Bytes → Prop where
  | done : Lines [] [] []
  | whole {before document : Bytes} {chunk : Chunk} {chunks : List Chunk}
      {documents : List Bytes} (bytes : chunk.bytes = before ++ document ++ [Json.newline])
      (next : Lines [] chunks documents) :
      Lines before (chunk :: chunks) (document :: documents)
  | late {before document : Bytes} {chunk : Chunk} {chunks : List Chunk}
      {documents : List Bytes} (bytes : chunk.bytes = before ++ document)
      (held : before = [] ∨ ∃ residue, chunk.stored = some (chunk.bytes ++ residue) ∧
        Json.newline ∈ residue)
      (next : Lines [Json.newline] chunks documents) :
      Lines before (chunk :: chunks) (document :: documents)

/-- What the first cut of the cleaning keeps of the bytes behind the received ones. -/
def kept (bytes residue : Bytes) : Bytes :=
  (eraseAfterLast Json.newline (bytes ++ residue)).drop bytes.length

/-- A NUL ends the buffer, and of what it held behind the received bytes no closing brace
is kept. -/
def Harmless (chunk : Chunk) : Prop :=
  ∃ residue, chunk.stored = some (chunk.bytes ++ residue) ∧
    Json.closingBrace ∉ kept chunk.bytes residue

theorem exists_residue {chunk : Chunk} {str : Bytes} (noNul : (0 : UInt8) ∉ chunk.bytes)
    (stored : chunk.stored = some str) : ∃ residue, str = chunk.bytes ++ residue := by
  unfold Chunk.stored cString at stored
  split at stored
  · obtain rfl := Option.some.inj stored
    rw [List.takeWhile_append_of_pos]
    · exact ⟨_, rfl⟩
    · intro byte inside
      simp only [decide_eq_true_eq]
      rintro rfl
      exact noNul inside
  · cases stored

/-! What the cleaning leaves of a chunk. -/

theorem kept_of_mem {bytes residue : Bytes} (newline : Json.newline ∈ residue) :
    eraseAfterLast Json.newline (bytes ++ residue) = bytes ++ kept bytes residue := by
  rw [kept, eraseAfterLast_append_of_mem bytes newline, List.drop_left]

theorem kept_of_notMem {bytes residue : Bytes} (free : Json.newline ∉ bytes)
    (newline : Json.newline ∉ residue) :
    eraseAfterLast Json.newline (bytes ++ residue) = bytes ++ kept bytes residue := by
  have none : Json.newline ∉ bytes ++ residue := by simp [free, newline]
  rw [kept, eraseAfterLast_of_notMem none, List.drop_left]

theorem kept_eq_nil {bytes residue : Bytes} (inside : Json.newline ∈ bytes)
    (newline : Json.newline ∉ residue) :
    eraseAfterLast Json.newline (bytes ++ residue) = eraseAfterLast Json.newline bytes ∧
      kept bytes residue = [] := by
  have same := eraseAfterLast_append_of_notMem bytes inside newline
  refine ⟨same, ?_⟩
  rw [kept, same]
  exact List.drop_eq_nil_of_le (eraseAfterLast_prefix_self _ _).length_le

theorem clean_of_mem_kept {bytes residue : Bytes}
    (brace : Json.closingBrace ∈ kept bytes residue) :
    Json.clean (bytes ++ residue) =
      bytes ++ eraseAfterLast Json.closingBrace (kept bytes residue) := by
  have first : eraseAfterLast Json.newline (bytes ++ residue) =
      bytes ++ kept bytes residue := by
    by_cases newline : Json.newline ∈ residue
    · exact kept_of_mem newline
    · by_cases inside : Json.newline ∈ bytes
      · rw [(kept_eq_nil inside newline).2] at brace
        cases brace
      · exact kept_of_notMem inside newline
  rw [Json.clean_eq, first, eraseAfterLast_append_of_mem bytes brace]

/-- Where no stale brace is kept, what is read is the beginning of the chunk, and of the
rest no line with a brace is whole. -/
theorem clean_prefix {bytes residue : Bytes} (harmless : Json.closingBrace ∉ kept bytes residue)
    (brace : Json.closingBrace ∈ Json.clean (bytes ++ residue)) :
    ∃ rest, bytes = Json.clean (bytes ++ residue) ++ rest ∧
      Json.closingBrace ∉ eraseAfterLast Json.newline rest := by
  rw [Json.clean_eq, mem_eraseAfterLast_iff] at brace
  rw [Json.clean_eq]
  have of_kept : eraseAfterLast Json.newline (bytes ++ residue) = bytes ++ kept bytes residue →
      ∃ rest, bytes = eraseAfterLast Json.closingBrace
          (eraseAfterLast Json.newline (bytes ++ residue)) ++ rest ∧
        Json.closingBrace ∉ eraseAfterLast Json.newline rest := by
    intro first
    rw [first] at brace ⊢
    have inside := (List.mem_append.mp brace).resolve_right harmless
    obtain ⟨rest, split, clear⟩ := exists_eraseAfterLast_append Json.closingBrace bytes
    refine ⟨rest, ?_, fun stale => clear ((eraseAfterLast_prefix_self _ _).subset stale)⟩
    rw [eraseAfterLast_append_of_notMem bytes inside harmless]
    exact split
  by_cases newline : Json.newline ∈ residue
  · exact of_kept (kept_of_mem newline)
  · by_cases inside : Json.newline ∈ bytes
    · rw [(kept_eq_nil inside newline).1] at brace ⊢
      obtain ⟨behind, split, clear⟩ := exists_eraseAfterLast_append Json.newline bytes
      have last := getLast?_eraseAfterLast inside
      obtain ⟨rest, split', clear'⟩ := exists_eraseAfterLast_append Json.closingBrace
        (eraseAfterLast Json.newline bytes)
      refine ⟨rest ++ behind, by rw [← List.append_assoc, ← split', ← split], ?_⟩
      have more : Json.newline ∈ rest := by
        rw [split', List.getLast?_append] at last
        cases found : rest.getLast? with
        | none =>
            rw [found, getLast?_eraseAfterLast brace] at last
            cases last
        | some byte =>
            rw [found] at last
            obtain rfl : byte = Json.newline := Option.some.inj last
            exact List.mem_of_getLast? found
      rw [eraseAfterLast_append_of_notMem rest more clear]
      exact fun stale => clear' ((eraseAfterLast_prefix_self _ _).subset stale)
    · exact of_kept (kept_of_notMem inside newline)

/-! Where the cuts fall. -/

/-- What is read of the chunk is one object at its beginning. -/
structure Held (chunk : Chunk) (residue rest : Bytes) : Prop where
  stored : chunk.stored = some (chunk.bytes ++ residue)
  isObject : IsObject (Json.clean (chunk.bytes ++ residue))
  bytes : chunk.bytes = Json.clean (chunk.bytes ++ residue) ++ rest
  clear : Json.closingBrace ∉ eraseAfterLast Json.newline rest

theorem getLast?_clean {str : Bytes} (isObject : IsObject (Json.clean str)) :
    (Json.clean str).getLast? = some Json.closingBrace := by
  have brace : Json.closingBrace ∈ Json.clean str := isObject.closeBrace_mem
  rw [Json.clean_eq, mem_eraseAfterLast_iff] at brace
  rw [Json.clean_eq]
  exact getLast?_eraseAfterLast brace

theorem type_of_request {tree : Ptree} {call : Call}
    (request : ∀ originator code message, call ≠ .error originator code message)
    (decoded : Call.ofJson codecs tree = .ok call) :
    (tree.find? Instance.propertyType).isSome = true := by
  have params : (Instance.extractFrom tree).isSome = true := by
    rcases Call.ofJson_cases decoded with
      ⟨_, _, params, _⟩ | ⟨_, _, params, _⟩ | ⟨text, rfl, _⟩
    · rw [params]
      rfl
    · rw [params]
      rfl
    · exact absurd rfl (request _ _ _)
  unfold Instance.extractFrom at params
  split at params
  · cases params
  · rename_i found
    rw [found]
    rfl

theorem isObject_of_reads (json : ReadsJson codecs) {chunk : Chunk} {call : Call}
    (noNul : (0 : UInt8) ∉ chunk.bytes)
    (request : ∀ originator code message, call ≠ .error originator code message)
    (reads : Reads codecs chunk call) :
    ∃ residue, chunk.stored = some (chunk.bytes ++ residue) ∧
      IsObject (Json.clean (chunk.bytes ++ residue)) := by
  obtain ⟨str, tree, stored, parsed, _, decoded⟩ := reads
  obtain ⟨residue, rfl⟩ := exists_residue noNul stored
  exact ⟨residue, stored, json.isObject parsed (type_of_request request decoded)⟩

theorem held_of_reads (json : ReadsJson codecs) {chunk : Chunk} {call : Call}
    (noNul : (0 : UInt8) ∉ chunk.bytes)
    (request : ∀ originator code message, call ≠ .error originator code message)
    (reads : Reads codecs chunk call) (harmless : Harmless chunk) :
    ∃ residue rest, Held chunk residue rest := by
  obtain ⟨residue, stored, isObject⟩ := isObject_of_reads json noNul request reads
  obtain ⟨other, stored', clear⟩ := harmless
  obtain rfl : residue = other :=
    List.append_cancel_left (Option.some.inj (stored.symm.trans stored'))
  obtain ⟨rest, bytes, unread⟩ := clean_prefix clear isObject.closeBrace_mem
  exact ⟨residue, rest, stored, isObject, bytes, unread⟩

theorem Held.ends_inside {chunk : Chunk} {residue rest : Bytes} (held : Held chunk residue rest)
    {text before after : Bytes} (lined : Lined text)
    (split : text = before ++ chunk.bytes ++ after) (within : Mode.between.run before ≠ .between) :
    Mode.between.run (before ++ chunk.bytes) ≠ .between := by
  generalize chunkText : Json.clean (chunk.bytes ++ residue) = taken at held
  obtain ⟨_, isObject, bytes, clear⟩ := held
  rw [chunkText] at isObject bytes
  rw [bytes] at split ⊢
  have accepted : Mode.between.run (before ++ taken) ≠ .rejected := by
    apply @Mode.run_ne_rejected_of_append _ _ (rest ++ after)
    rw [← List.append_assoc, List.append_assoc before, ← split, lined.ended]
    simp
  rw [Mode.run_append] at accepted
  have deeper := isObject.ends_inside within accepted
  rw [← Mode.run_append] at deeper
  rw [← List.append_assoc, Mode.run_append]
  by_cases newline : Json.newline ∈ rest
  · -- No newline stands inside a document.
    obtain ⟨late, parts, _⟩ := exists_eraseAfterLast_append Json.newline rest
    obtain ⟨early, ends⟩ := List.getLast?_eq_some_iff.mp (getLast?_eraseAfterLast newline)
    rw [ends] at parts clear
    have unclosed : Json.closingBrace ∉ early := fun brace =>
      clear (List.mem_append_left _ brace)
    have apart := lined.apart (before ++ taken ++ early) (late ++ after) (by
      rw [split, parts]
      simp [Json.newline, JsonScan.newline])
    rw [Mode.run_append] at apart
    exact absurd apart (Mode.run_ne_between deeper unclosed)
  · rw [eraseAfterLast_of_notMem newline] at clear
    exact Mode.run_ne_between deeper clear

theorem not_held_inside {chunks : List Chunk} {text before : Bytes} (lined : Lined text)
    (split : text = before ++ chunks.flatMap Chunk.bytes)
    (within : Mode.between.run before ≠ .between) :
    ¬ ∀ chunk ∈ chunks, ∃ residue rest, Held chunk residue rest := by
  induction chunks generalizing before with
  | nil =>
      rw [List.flatMap_nil, List.append_nil] at split
      exact absurd (split ▸ lined.ended) within
  | cons chunk chunks ih =>
      intro all
      obtain ⟨residue, rest, held⟩ := all chunk List.mem_cons_self
      rw [List.flatMap_cons, ← List.append_assoc] at split
      exact ih split (held.ends_inside lined split within)
        fun other inside => all other (List.mem_cons_of_mem chunk inside)

/-- The document as far as the cuts are concerned. -/
structure IsLine (document : Bytes) : Prop where
  opens : document.head? = some JsonScan.openBrace
  closes : document.getLast? = some Json.closingBrace
  oneLine : Json.newline ∉ document
  isObject : IsObject document

theorem stream_cons (document : Bytes) (documents : List Bytes) :
    stream (document :: documents) = document ++ Json.newline :: stream documents := by
  simp [stream]

theorem lined_stream {documents : List Bytes}
    (isLine : ∀ document ∈ documents, IsLine document) : Lined (stream documents) := by
  induction documents with
  | nil => exact Lined.nil
  | cons document documents ih =>
      have first := isLine document List.mem_cons_self
      rw [stream_cons]
      exact (ih fun other inside => isLine other (List.mem_cons_of_mem document inside)).cons
        first.isObject first.oneLine

theorem IsLine.eq_of_extends {before document taken rest more : Bytes} (isLine : IsLine document)
    (pending : before = [] ∨ before = [Json.newline]) (isObject : IsObject taken)
    (brace : taken.getLast? = some Json.closingBrace)
    (split : taken ++ rest = before ++ document ++ more) : taken = before ++ document := by
  have whole : IsObject (before ++ document) := by
    rcases pending with rfl | rfl
    · exact isLine.isObject
    · exact isLine.isObject.newline_cons
  have closes : (before ++ document).getLast? = some Json.closingBrace := by
    rw [List.getLast?_append, isLine.closes]
    rfl
  rcases List.prefix_or_prefix_of_prefix (List.prefix_append taken rest)
    (split ▸ List.prefix_append (before ++ document) more) with shorter | longer
  · exact isObject.eq_of_extends whole closes shorter
  · exact (whole.eq_of_extends isObject brace longer).symm

/-- A newline in front of a document cuts it off, unless another one stands behind it. -/
theorem newline_mem_of_clean {document residue : Bytes} (oneLine : Json.newline ∉ document)
    (closes : (Json.clean (Json.newline :: document ++ residue)).getLast? =
      some Json.closingBrace) : Json.newline ∈ residue := by
  by_contra free
  have first : eraseAfterLast Json.newline (Json.newline :: document ++ residue) =
      [Json.newline] :=
    eraseAfterLast_append_cons [] (by simp [oneLine, free])
  rw [Json.clean_eq, first, eraseAfterLast_of_notMem (by decide)] at closes
  cases closes

theorem not_held_of_begun {chunks : List Chunk} {begun rest : Bytes} {documents : List Bytes}
    (isLine : ∀ document ∈ (begun ++ rest) :: documents, IsLine document) (filled : begun ≠ [])
    (unended : rest ≠ [])
    (sent : chunks.flatMap Chunk.bytes = rest ++ Json.newline :: stream documents) :
    ¬ ∀ chunk ∈ chunks, ∃ residue rest, Held chunk residue rest := by
  obtain ⟨opens, closes, _, isObject⟩ := isLine _ List.mem_cons_self
  apply not_held_inside (lined_stream isLine)
  · rw [stream_cons, List.append_assoc, sent]
  · apply isObject.run_ne_between
    · rwa [List.head?_append_of_ne_nil _ filled] at opens
    · rwa [List.getLast?_append_of_ne_nil _ unended] at closes

/-- What a chunk has behind a whole line is dropped by the cleaning.  It is the next document,
since neither a part of that is gone on with nor a line with a brace dropped. -/
theorem remaining_of_begun {chunks : List Chunk} {begun lost : Bytes} {documents : List Bytes}
    (filled : begun ≠ []) (isLine : ∀ document ∈ lost :: documents, IsLine document)
    (clear : Json.closingBrace ∉ eraseAfterLast Json.newline (Json.newline :: begun))
    (later : ∀ chunk ∈ chunks, ∃ residue rest, Held chunk residue rest)
    (sent : begun ++ chunks.flatMap Chunk.bytes = stream (lost :: documents)) :
    chunks.flatMap Chunk.bytes = [Json.newline] ++ stream documents := by
  rw [stream_cons] at sent
  rcases List.append_eq_append_iff.mp sent with ⟨tail, same, remaining⟩ | ⟨tail, same, remaining⟩
  · cases tail with
    | nil => exact remaining
    | cons head tail =>
        subst same
        exact absurd later
          (not_held_of_begun isLine filled (List.cons_ne_nil _ _) remaining)
  · cases tail with
    | nil => exact remaining.symm
    | cons head tail =>
        obtain ⟨rfl, _⟩ := List.cons.inj remaining
        exfalso
        rw [same] at clear
        apply clear
        apply (mem_eraseAfterLast_iff_before (by decide) List.mem_cons_self).mpr
        refine ⟨Json.newline :: lost, tail, rfl, List.mem_cons_of_mem _ ?_⟩
        exact (isLine lost List.mem_cons_self).isObject.closeBrace_mem

/-- Chunks that are each read as one object hold no more objects than there are documents,
and as many only line by line. -/
theorem lines_of_held {chunks : List Chunk} {documents : List Bytes} {before : Bytes}
    (held : ∀ chunk ∈ chunks, ∃ residue rest, Held chunk residue rest)
    (isLine : ∀ document ∈ documents, IsLine document)
    (pending : before = [] ∨ before = [Json.newline])
    (sent : chunks.flatMap Chunk.bytes = before ++ stream documents) :
    chunks.length ≤ documents.length ∧
      (chunks.length = documents.length → Lines before chunks documents) := by
  induction chunks generalizing documents before with
  | nil =>
      obtain ⟨rfl, empty⟩ := List.append_eq_nil_iff.mp sent.symm
      refine ⟨Nat.zero_le _, fun same => ?_⟩
      obtain rfl := List.length_eq_zero_iff.mp same.symm
      exact Lines.done
  | cons chunk chunks ih =>
      have later := fun other inside => held other (List.mem_cons_of_mem chunk inside)
      obtain ⟨residue, rest, stored, isObject, bytes, clear⟩ := held chunk List.mem_cons_self
      have brace := getLast?_clean isObject
      generalize taken_eq : Json.clean (chunk.bytes ++ residue) = taken at *
      rw [List.flatMap_cons, bytes, List.append_assoc] at sent
      cases documents with
      | nil =>
          have inside : Json.closingBrace ∈ before ++ stream [] := by
            rw [← sent]
            exact List.mem_append_left _ isObject.closeBrace_mem
          rcases pending with rfl | rfl
          · cases inside
          · simp [stream, Json.closingBrace, Json.newline] at inside
      | cons document documents =>
          have first := isLine document List.mem_cons_self
          have others := fun other inside => isLine other (List.mem_cons_of_mem document inside)
          rw [stream_cons, ← List.append_assoc before] at sent
          obtain rfl := first.eq_of_extends pending isObject brace sent
          have behind := List.append_cancel_left sent
          match rest, behind, clear, bytes with
          | [], behind, clear, bytes =>
              rw [List.append_nil] at bytes
              obtain ⟨fewer, equal⟩ := ih later others (Or.inr rfl) behind
              refine ⟨Nat.succ_le_succ fewer, fun same => Lines.late bytes ?_
                (equal (Nat.succ.inj same))⟩
              rcases pending with rfl | rfl
              · exact Or.inl rfl
              · rw [← taken_eq, bytes] at brace
                exact Or.inr ⟨residue, stored, newline_mem_of_clean first.oneLine brace⟩
          | [byte], behind, clear, bytes =>
              obtain ⟨rfl, following⟩ := List.cons.inj behind
              obtain ⟨fewer, equal⟩ := ih later others (Or.inl rfl) following
              exact ⟨Nat.succ_le_succ fewer, fun same => Lines.whole bytes
                (equal (Nat.succ.inj same))⟩
          | byte :: next :: more, behind, clear, bytes =>
              obtain ⟨rfl, following⟩ := List.cons.inj behind
              cases documents with
              | nil => cases following
              | cons lost documents =>
                  have sent := remaining_of_begun (List.cons_ne_nil _ _) others clear later
                    following
                  have fewer := (ih later
                    (fun other inside => others other (List.mem_cons_of_mem lost inside))
                    (Or.inr rfl) sent).1
                  have strict : chunks.length + 1 < documents.length + 1 + 1 := by omega
                  exact ⟨Nat.le_of_lt strict, fun same => absurd same (Nat.ne_of_lt strict)⟩

/-! What is read of lines. -/

theorem clean_of_line {bytes residue line tail : Bytes}
    (first : eraseAfterLast Json.newline (bytes ++ residue) = line ++ tail)
    (closes : line.getLast? = some Json.closingBrace) (clear : Json.closingBrace ∉ tail) :
    Json.clean (bytes ++ residue) = line := by
  obtain ⟨initial, rfl⟩ := List.getLast?_eq_some_iff.mp closes
  rw [Json.clean_eq, first, eraseAfterLast_append_of_notMem _ (by simp) clear]
  exact eraseAfterLast_concat Json.closingBrace initial

theorem clean_whole {line residue : Bytes} (closes : line.getLast? = some Json.closingBrace)
    (clear : Json.closingBrace ∉ kept (line ++ [Json.newline]) residue) :
    Json.clean (line ++ [Json.newline] ++ residue) = line := by
  by_cases newline : Json.newline ∈ residue
  · refine clean_of_line ((kept_of_mem newline).trans (List.append_assoc _ _ _)) closes ?_
    rw [List.mem_append, not_or]
    exact ⟨by decide, clear⟩
  · refine clean_of_line ?_ closes (show Json.closingBrace ∉ [Json.newline] by decide)
    rw [(kept_eq_nil (by simp) newline).1, eraseAfterLast_concat]

/-- A newline in front of a document would cut it off, were there none behind it. -/
theorem clean_late {before document residue : Bytes} (oneLine : Json.newline ∉ document)
    (closes : (before ++ document).getLast? = some Json.closingBrace)
    (held : before = [] ∨ Json.newline ∈ residue)
    (clear : Json.closingBrace ∉ kept (before ++ document) residue) :
    Json.clean (before ++ document ++ residue) = before ++ document := by
  refine clean_of_line ?_ closes clear
  by_cases newline : Json.newline ∈ residue
  · exact kept_of_mem newline
  · obtain rfl := held.resolve_right newline
    exact kept_of_notMem oneLine newline

theorem IsDocument.reads (json : ReadsJson codecs) {document before : Bytes} {call : Call}
    (isDocument : IsDocument codecs document call)
    (pending : before = [] ∨ before = [Json.newline]) {chunk : Chunk} {str : Bytes}
    (stored : chunk.stored = some str) (cleaned : Json.clean str = before ++ document) :
    Reads codecs chunk call := by
  obtain ⟨tree, parsed, representable, decoded⟩ := isDocument.parsed
  refine ⟨str, tree, stored, ?_, representable, decoded⟩
  rw [cleaned]
  rcases pending with rfl | rfl
  · exact parsed
  · exact json.newline parsed

theorem IsDocument.getLast? {document : Bytes} {call : Call}
    (isDocument : IsDocument codecs document call) (before : Bytes) :
    (before ++ document).getLast? = some Json.closingBrace := by
  rw [List.getLast?_append, isDocument.closes]
  rfl

theorem reads_of_lines (json : ReadsJson codecs) {ptr : SocketPtr} {before : Bytes}
    {documents : List Bytes} {calls : List Call} {reads : List (Process × Chunk)}
    (texts : List.Forall₂ (IsDocument codecs) documents calls)
    (pending : before = [] ∨ before = [Json.newline])
    (lines : Lines before (reads.map Prod.snd) documents)
    (fits : ∀ read ∈ reads, Ready read.1 ptr ∧ Harmless read.2) :
    List.Forall₂ (fun read call => Ready read.1 ptr ∧ Reads codecs read.2 call)
      reads calls := by
  induction texts generalizing reads before with
  | nil =>
      cases reads with
      | nil => exact List.Forall₂.nil
      | cons read reads => cases lines
  | @cons document call documents calls isDocument texts ih =>
      cases reads with
      | nil => cases lines
      | cons read reads =>
          obtain ⟨ready, residue, stored, clear⟩ := fits read List.mem_cons_self
          have others := fun other inside => fits other (List.mem_cons_of_mem read inside)
          cases lines with
          | whole bytes next =>
              refine List.Forall₂.cons ⟨ready, ?_⟩ (ih (Or.inl rfl) next others)
              rw [bytes] at stored clear
              exact isDocument.reads json pending stored
                (clean_whole (isDocument.getLast? before) clear)
          | late bytes held next =>
              refine List.Forall₂.cons ⟨ready, ?_⟩ (ih (Or.inr rfl) next others)
              have behind : before = [] ∨ Json.newline ∈ residue := by
                refine held.imp id ?_
                rintro ⟨other, stored', newline⟩
                rwa [List.append_cancel_left (Option.some.inj (stored.symm.trans stored'))]
              rw [bytes] at stored clear
              exact isDocument.reads json pending stored
                (clean_late isDocument.oneLine (isDocument.getLast? before) behind clear)

theorem IsDocument.isLine (json : ReadsJson codecs) {document : Bytes} {call : Call}
    (isDocument : IsDocument codecs document call) : IsLine document where
  opens := isDocument.opens
  closes := isDocument.closes
  oneLine := isDocument.oneLine
  isObject := by
    obtain ⟨tree, parsed, _, decoded⟩ := isDocument.parsed
    exact json.isObject parsed (type_of_request isDocument.request decoded)

theorem IsDocument.harmless (json : ReadsJson codecs) {document before newline : Bytes}
    {call : Call} (isDocument : IsDocument codecs document call)
    (pending : before = [] ∨ before = [Json.newline])
    (ends : newline = [] ∨ newline = [Json.newline]) {chunk : Chunk}
    (bytes : chunk.bytes = before ++ document ++ newline) (reads : Reads codecs chunk call) :
    Harmless chunk := by
  have noNul : (0 : UInt8) ∉ chunk.bytes := by
    have noNul := isDocument.noNul
    rw [bytes]
    rcases pending with rfl | rfl <;> rcases ends with rfl | rfl <;>
      simp [noNul, Json.newline]
  obtain ⟨residue, stored, isObject⟩ :=
    isObject_of_reads json noNul isDocument.request reads
  refine ⟨residue, stored, fun stale => ?_⟩
  have cleaned := clean_of_mem_kept stale
  have longer : Json.clean (chunk.bytes ++ residue) ++ [] = before ++ document ++
      (newline ++ eraseAfterLast Json.closingBrace (kept chunk.bytes residue)) := by
    rw [List.append_nil, cleaned, ← List.append_assoc, bytes]
  have same := (isDocument.isLine json).eq_of_extends pending isObject
    (getLast?_clean isObject) longer
  rw [List.append_nil, same] at longer
  have empty := (List.append_eq_nil_iff.mp (List.self_eq_append_right.mp longer)).2
  have inside := mem_eraseAfterLast_iff.mpr stale
  rw [empty] at inside
  cases inside

theorem harmless_of_reads (json : ReadsJson codecs) {ptr : SocketPtr} {before : Bytes}
    {documents : List Bytes} {calls : List Call} {reads : List (Process × Chunk)}
    (texts : List.Forall₂ (IsDocument codecs) documents calls)
    (pending : before = [] ∨ before = [Json.newline])
    (lines : Lines before (reads.map Prod.snd) documents)
    (each : List.Forall₂ (fun read call => Ready read.1 ptr ∧ Reads codecs read.2 call)
      reads calls) : ∀ read ∈ reads, Harmless read.2 := by
  induction texts generalizing reads before with
  | nil =>
      cases each
      exact fun _ inside => absurd inside List.not_mem_nil
  | cons isDocument texts ih =>
      cases each with
      | cons first each =>
          rw [List.forall_mem_cons]
          cases lines with
          | whole bytes next =>
              exact ⟨isDocument.harmless json pending (Or.inr rfl) bytes first.2,
                ih (Or.inl rfl) next each⟩
          | late bytes held next =>
              have unended := bytes.trans (List.append_nil _).symm
              exact ⟨isDocument.harmless json pending (Or.inl rfl) unended first.2,
                ih (Or.inr rfl) next each⟩

theorem isLine_of_texts (json : ReadsJson codecs) {documents : List Bytes} {calls : List Call}
    (texts : List.Forall₂ (IsDocument codecs) documents calls) :
    ∀ document ∈ documents, IsLine document := by
  induction texts with
  | nil => exact fun _ inside => absurd inside List.not_mem_nil
  | cons isDocument _ ih => exact List.forall_mem_cons.mpr ⟨isDocument.isLine json, ih⟩

theorem noNul_stream {documents : List Bytes} {calls : List Call}
    (texts : List.Forall₂ (IsDocument codecs) documents calls) :
    (0 : UInt8) ∉ stream documents := by
  induction texts with
  | nil => exact List.not_mem_nil
  | cons isDocument _ ih =>
      rw [stream_cons, List.mem_append, List.mem_cons, not_or, not_or]
      exact ⟨isDocument.noNul, by decide, ih⟩

theorem held_of_forall₂ (json : ReadsJson codecs) {ptr : SocketPtr} {documents : List Bytes}
    {calls : List Call} {reads : List (Process × Chunk)}
    (texts : List.Forall₂ (IsDocument codecs) documents calls)
    (noNul : ∀ read ∈ reads, (0 : UInt8) ∉ read.2.bytes)
    (each : List.Forall₂ (fun read call => Ready read.1 ptr ∧ Reads codecs read.2 call)
      reads calls) (harmless : ∀ read ∈ reads, Harmless read.2) :
    ∀ chunk ∈ reads.map Prod.snd, ∃ residue rest, Held chunk residue rest := by
  induction each generalizing documents with
  | nil => exact fun _ inside => absurd inside List.not_mem_nil
  | cons first each ih =>
      cases texts with
      | cons isDocument texts =>
          rw [List.forall_mem_cons] at noNul harmless
          rw [List.map_cons, List.forall_mem_cons]
          exact ⟨held_of_reads json noNul.1 isDocument.request first.2 harmless.1,
            ih texts noNul.2 harmless.2⟩

/-- Requests are visited in turn when each comes as a line of its own and no stale brace
gets in.  Where a run visits them in turn all the same, chunks that are no lines and stale
braces come together. -/
theorem visitedInTurn_by_lines (json : ReadsJson codecs) (ptr : SocketPtr)
    (process : Process) (events : List Event) {documents : List Bytes} {calls : List Call}
    (texts : List.Forall₂ (IsDocument codecs) documents calls)
    (sent : ((readsOn codecs ptr process events).flatMap fun read => read.2.bytes) =
      stream documents) :
    ((∀ read ∈ readsOn codecs ptr process events, Ready read.1 ptr ∧ Harmless read.2) ∧
        Lines [] ((readsOn codecs ptr process events).map Prod.snd) documents →
      VisitedInTurn codecs ptr process events calls) ∧
    (VisitedInTurn codecs ptr process events calls →
      (∀ read ∈ readsOn codecs ptr process events, Ready read.1 ptr) ∧
        (Lines [] ((readsOn codecs ptr process events).map Prod.snd) documents ↔
          ∀ read ∈ readsOn codecs ptr process events, Harmless read.2)) := by
  rw [visitedInTurn_iff_forall₂]
  generalize readsOn codecs ptr process events = reads at *
  constructor
  · rintro ⟨fits, lines⟩
    exact reads_of_lines json texts (Or.inl rfl) lines fits
  · intro each
    refine ⟨fun read inside => (unrefused_of_forall₂ each read inside).1,
      fun lines => harmless_of_reads json texts (Or.inl rfl) lines each, fun harmless => ?_⟩
    have noNul : ∀ read ∈ reads, (0 : UInt8) ∉ read.2.bytes := by
      intro read inside nul
      apply noNul_stream texts
      rw [← sent]
      exact List.mem_flatMap.mpr ⟨read, inside, nul⟩
    have many : (reads.map Prod.snd).length = documents.length := by
      rw [List.length_map, each.length_eq, texts.length_eq]
    apply (lines_of_held (held_of_forall₂ json texts noNul each harmless)
      (isLine_of_texts json texts) (Or.inl rfl) ?_).2 many
    rw [List.flatMap_map, sent]
    rfl

/-! A login that arrives in two pieces. -/

theorem readsJson_compact : ReadsJson Codecs.compact where
  isObject read typed := Compact.isObject_of_readJson read (by decide) typed
  newline read := Compact.readJson_newline read

def bobDocument : Bytes :=
  (Utf8.encode (Compact.textOf bobJson)).dropLast

def bobHead : Chunk where
  bytes := bobDocument.take 10
  nonempty := by decide +kernel
  bounded := by decide +kernel
  beyond := [0]

def bobTail : Chunk where
  bytes := bobDocument.drop 10 ++ [Json.newline]
  nonempty := by simp
  bounded := by decide +kernel
  beyond := [0]

theorem bobDocument_eq :
    bobDocument = Utf8.encode (String.ofList (JsonText.printRoot bobJson)) := by
  have newline : Utf8.encode (String.ofList [Char.ofNat 10]) = [10] := by decide
  rw [bobDocument, Compact.textOf_eq representable_bob, Utf8.encode_append, newline,
    List.dropLast_concat]

theorem isDocument_bob : IsDocument Codecs.compact bobDocument (.visitLogin bobLogin) where
  opens := by decide +kernel
  closes := by
    rw [bobDocument_eq]
    exact Compact.getLast?_encode_printRoot bobJson
  oneLine := by decide +kernel
  noNul := by decide +kernel
  parsed := by
    refine ⟨bobJson, ?_, representable_bob, decoded_bob⟩
    rw [bobDocument_eq, Codecs.readJson_compact]
    exact Compact.readJson_printRoot representable_bob
  request := by simp

theorem pieces_eq_stream (document : Bytes) (count : Nat) :
    document.take count ++ (document.drop count ++ [Json.newline]) = stream [document] := by
  rw [← List.append_assoc, List.take_append_drop]
  simp [stream]

theorem login_in_two_pieces_is_lost :
    bobHead.bytes ++ bobTail.bytes = stream [bobDocument] ∧
      IsDocument Codecs.compact bobDocument (.visitLogin bobLogin) ∧
      visitedOn Codecs.compact 0 ((machine Codecs.compact).traceFrom
        ((machine Codecs.compact).run [.socketServer (.connection 5)])
        [.socket 0 (.data bobHead) 0 fun _ => .whole,
          .socket 0 (.data bobTail) 0 fun _ => .whole]) ≠ [.visitLogin bobLogin] := by
  refine ⟨?_, isDocument_bob, ?_⟩
  · dsimp only [bobHead, bobTail]
    exact pieces_eq_stream bobDocument 10
  · decide +kernel

/-! In one piece it is visited. -/

def bobWhole : Chunk where
  bytes := bobDocument ++ [Json.newline]
  nonempty := by simp
  bounded := by decide +kernel
  beyond := [0]

theorem harmless_bobWhole : Harmless bobWhole := by
  refine ⟨[], by decide +kernel, ?_⟩
  have inside : Json.newline ∈ bobWhole.bytes := by simp [bobWhole]
  rw [(kept_eq_nil inside List.not_mem_nil).2]
  exact List.not_mem_nil

def bobConnected : Process :=
  (machine Codecs.compact).run [.socketServer (.connection 5)]

theorem visitedInTurn_bobWhole :
    VisitedInTurn Codecs.compact 0 bobConnected
      [.socket 0 (.data bobWhole) 0 fun _ => .whole] [.visitLogin bobLogin] := by
  have reads : readsOn Codecs.compact 0 bobConnected
      [.socket 0 (.data bobWhole) 0 fun _ => .whole] = [(bobConnected, bobWhole)] :=
    readsOn_self ..
  apply (visitedInTurn_by_lines readsJson_compact 0 bobConnected _
    (List.Forall₂.cons isDocument_bob List.Forall₂.nil) ?_).1
  · rw [reads]
    refine ⟨?_, Lines.whole (by simp [bobWhole]) Lines.done⟩
    rw [List.forall_mem_singleton]
    exact ⟨⟨rfl, by decide +kernel, by decide +kernel⟩, harmless_bobWhole⟩
  · rw [reads]
    simp [stream, bobWhole]

end AndroidMessenger.Server
