import AndroidMessenger.Client.Compact
import AndroidMessenger.Client.ResponseVisitor

namespace AndroidMessenger.Client

open Library Msg

variable {codecs : Codecs}

def bufferSize : Nat := 1024

/-- What one `stream.read(data)` that does not end the stream stores in `data`. -/
structure Segment where
  bytes : Bytes
  nonempty : bytes ≠ []
  bounded : bytes.length ≤ bufferSize

def Segment.ofText (text : String) (nonempty : Utf8.encode text ≠ [])
    (bounded : (Utf8.encode text).length ≤ bufferSize) : Segment :=
  { bytes := Utf8.encode text, nonempty, bounded }

theorem Segment.decode_ofText (text : String) (nonempty : Utf8.encode text ≠ [])
    (bounded : (Utf8.encode text).length ≤ bufferSize) :
    Utf8.decode (Segment.ofText text nonempty bounded).bytes = text :=
  Utf8.decode_encode text

/-- The calls of `_responseHandler.visit` that the thread made, and the exception
that ended it before the end of the stream. -/
structure Reading where
  visits : List String
  thrown : Option JavaExn
  deriving DecidableEq

namespace ReaderThread

/-- The loop of `run`.  Only an `IOException` is caught around it. -/
def loop (platform : Platform codecs) : List Segment → Bytes → Reading
  | [], _ => { visits := [], thrown := none }
  | data :: rest, baos =>
      let baos := baos ++ data.bytes
      let text := Utf8.decode baos
      match visit platform text with
      | .error exn => { visits := [text], thrown := some exn }
      | .ok _ =>
          let reading := loop platform rest []
          { reading with visits := text :: reading.visits }

def run (platform : Platform codecs) (segments : List Segment) : Reading :=
  loop platform segments []

theorem run_thrown_eq_none_iff (platform : Platform codecs) (segments : List Segment) :
    (run platform segments).thrown = none ↔
      ∀ data ∈ segments, ∃ call, visit platform (Utf8.decode data.bytes) = .ok call := by
  induction segments with
  | nil => simp [run, loop]
  | cons data rest ih =>
      rw [List.forall_mem_cons, ← ih, run, loop, List.nil_append]
      cases visit platform (Utf8.decode data.bytes) with
      | error exn => simp
      | ok call => simp [run]

theorem run_thrown_of_rejected {platform : Platform codecs} {data : Segment}
    {exn : JavaExn} (rejected : visit platform (Utf8.decode data.bytes) = .error exn)
    (rest : List Segment) : (run platform (data :: rest)).thrown = some exn := by
  rw [run, loop, List.nil_append]
  simp only [rejected]

theorem run_visits (platform : Platform codecs) {segments : List Segment}
    (finished : (run platform segments).thrown = none) :
    (run platform segments).visits =
      segments.map fun data => Utf8.decode data.bytes := by
  induction segments with
  | nil => rfl
  | cons data rest ih =>
      rw [run, loop, List.nil_append] at finished ⊢
      cases accepted : visit platform (Utf8.decode data.bytes) with
      | error exn => simp [accepted] at finished
      | ok call =>
          simp only [accepted] at finished ⊢
          rw [List.map_cons]
          exact congrArg _ (ih finished)

end ReaderThread

/-! What is put on the stream, and what comes off it. -/

def stream (codecs : Codecs) (responses : List Response) : List Bytes :=
  responses.map fun res => Utf8.encode (res.text codecs)

/-- Every response is visited once, in order and with its whole text, and the loop
ends at the end of the stream. -/
structure VisitedInTurn (platform : Platform codecs) (responses : List Response)
    (segments : List Segment) : Prop where
  visits : (ReaderThread.run platform segments).visits =
    responses.map fun res => res.text codecs
  finished : (ReaderThread.run platform segments).thrown = none

theorem not_visitedInTurn_of_thrown {platform : Platform codecs}
    {responses : List Response} {segments : List Segment} {exn : JavaExn}
    (thrown : (ReaderThread.run platform segments).thrown = some exn) :
    ¬ VisitedInTurn platform responses segments := by
  intro given
  rcases given with ⟨_, finished⟩
  rw [thrown] at finished
  contradiction

/-- Pieces of a stream of newline-terminated texts that decode to these texts are
their encodings. -/
theorem pieces_eq_of_decode {pieces : List Bytes} {texts : List String}
    (terminated : ∀ text ∈ texts, text.toList.getLast? = some (Char.ofNat 10))
    (delivered : pieces.flatten = (texts.map Utf8.encode).flatten)
    (decoded : pieces.map Utf8.decode = texts) : pieces = texts.map Utf8.encode := by
  induction pieces generalizing texts with
  | nil =>
      subst decoded
      rfl
  | cons piece pieces ih =>
      cases texts with
      | nil => contradiction
      | cons text texts =>
          obtain ⟨first, others⟩ := List.cons.inj decoded
          have last := terminated text List.mem_cons_self
          have whole : Utf8.encode (String.join (text :: texts)) =
              piece ++ pieces.flatten := by
            rw [← List.flatten_cons, delivered, Utf8.encode_join]
          have same := Utf8.eq_encode_of_decode whole first last (by decide)
          rw [List.map_cons, List.flatten_cons, List.flatten_cons, same] at delivered
          rw [List.map_cons, same, ih (fun other inside =>
            terminated other (List.mem_cons_of_mem _ inside))
            (List.append_cancel_left delivered) others]

/-- The reader visits the responses in turn exactly when every read returns one
whole response and `visit` takes each of them. -/
theorem visitedInTurn_iff (platform : Platform codecs) (responses : List Response)
    (segments : List Segment)
    (terminated : ∀ res ∈ responses,
      (res.text codecs).toList.getLast? = some (Char.ofNat 10))
    (delivered : (segments.map Segment.bytes).flatten =
      (stream codecs responses).flatten) :
    VisitedInTurn platform responses segments ↔
      segments.map Segment.bytes = stream codecs responses ∧
        ∀ res ∈ responses, (∀ err, res ≠ .error err) ∧
          (platform.parseDateTime (codecs.putTime res.dateTime)).isSome = true := by
  have streamed : stream codecs responses =
      (responses.map fun res => res.text codecs).map Utf8.encode := by
    rw [List.map_map]
    rfl
  constructor
  · intro given
    rcases given with ⟨visits, finished⟩
    have decoded := (ReaderThread.run_visits platform finished).symm.trans visits
    have pieces : segments.map Segment.bytes = stream codecs responses := by
      rw [streamed] at delivered ⊢
      refine pieces_eq_of_decode ?_ delivered ?_
      · intro text inside
        obtain ⟨res, member, rfl⟩ := List.mem_map.mp inside
        exact terminated res member
      · rw [List.map_map]
        exact decoded
    refine ⟨pieces, ?_⟩
    intro res member
    have text : res.text codecs ∈ segments.map fun data => Utf8.decode data.bytes := by
      rw [decoded]
      exact List.mem_map_of_mem member
    obtain ⟨data, inside, equality⟩ := List.mem_map.mp text
    rw [← visit_text_isOk_iff, ← equality]
    exact (ReaderThread.run_thrown_eq_none_iff platform segments).mp finished data inside
  · intro given
    rcases given with ⟨pieces, accepted⟩
    have decoded : (segments.map fun data => Utf8.decode data.bytes) =
        responses.map fun res => res.text codecs :=
      calc
        _ = (segments.map Segment.bytes).map Utf8.decode := List.map_map.symm
        _ = _ := by rw [pieces, streamed, Utf8.map_decode_encode]
    have finished : (ReaderThread.run platform segments).thrown = none := by
      apply (ReaderThread.run_thrown_eq_none_iff platform segments).mpr
      intro data inside
      have text : Utf8.decode data.bytes ∈ responses.map fun res => res.text codecs := by
        rw [← decoded]
        exact List.mem_map_of_mem inside
      obtain ⟨res, member, equality⟩ := List.mem_map.mp text
      rw [← equality]
      exact (visit_text_isOk_iff platform res).mpr (accepted res member)
    exact ⟨(ReaderThread.run_visits platform finished).trans decoded, finished⟩

/-! Bob and Sam log in.  The reader copes with one read for each answer, and not
with one read for both. -/

def bobGranted : Response :=
  .login (Response.Login.ofUsername 0 "bob")

def samGranted : Response :=
  .login (Response.Login.ofUsername 0 "sam")

theorem length_bobGranted :
    (Utf8.encode (bobGranted.text Codecs.compact)).length ≤ 512 := by
  decide +kernel

theorem length_samGranted :
    (Utf8.encode (samGranted.text Codecs.compact)).length ≤ 512 := by
  decide +kernel

theorem written_compact (res : Response) :
    Msg.Compact.writeJson (res.toJson Codecs.compact) = some (res.text Codecs.compact) :=
  res.writeJson_toJson Codecs.compact

theorem terminated_compact (res : Response) :
    (res.text Codecs.compact).toList.getLast? = some (Char.ofNat 10) :=
  Msg.Compact.getLast?_writeJson (written_compact res)

theorem encode_compact_ne_nil (res : Response) :
    Utf8.encode (res.text Codecs.compact) ≠ [] := by
  intro empty
  have last := terminated_compact res
  rw [Utf8.encode_injective (empty.trans Utf8.encode_empty.symm)] at last
  contradiction

def bobAlone : Segment :=
  Segment.ofText (bobGranted.text Codecs.compact) (encode_compact_ne_nil bobGranted)
    (Nat.le_trans length_bobGranted (by decide))

def bothAtOnce : Segment :=
  Segment.ofText (bobGranted.text Codecs.compact ++ samGranted.text Codecs.compact)
    (by
      rw [Utf8.encode_append]
      exact List.append_ne_nil_of_left_ne_nil (encode_compact_ne_nil bobGranted) _)
    (by
      have first := length_bobGranted
      have second := length_samGranted
      rw [Utf8.encode_append, List.length_append, bufferSize]
      omega)

theorem visitedInTurn_bobAlone :
    VisitedInTurn Platform.compact [bobGranted] [bobAlone] ↔
      [bobAlone].map Segment.bytes = stream Codecs.compact [bobGranted] ∧
        ∀ res ∈ [bobGranted], (∀ err, res ≠ .error err) ∧
          (Platform.compact.parseDateTime
            (Codecs.compact.putTime res.dateTime)).isSome = true :=
  visitedInTurn_iff Platform.compact [bobGranted] [bobAlone]
    (fun res _ => terminated_compact res)
    (by simp only [bobAlone, Segment.ofText, stream, List.map_cons, List.map_nil])

theorem visit_two_texts (first second : Response) :
    visit Platform.compact (first.text Codecs.compact ++ second.text Codecs.compact) =
      .error .jsonSyntaxException := by
  have unread : Platform.compact.readObject
      (first.text Codecs.compact ++ second.text Codecs.compact) = none :=
    Compact.readObject_append (written_compact first) (written_compact second)
  simp only [visit, unread]

theorem answers_read_at_once_end_the_thread :
    (∀ res ∈ [bobGranted, samGranted],
      (res.text Codecs.compact).toList.getLast? = some (Char.ofNat 10)) ∧
    ([bothAtOnce].map Segment.bytes).flatten =
      (stream Codecs.compact [bobGranted, samGranted]).flatten ∧
    (ReaderThread.run Platform.compact [bothAtOnce]).thrown = some .jsonSyntaxException ∧
    ¬ VisitedInTurn Platform.compact [bobGranted, samGranted] [bothAtOnce] := by
  have rejected : (ReaderThread.run Platform.compact [bothAtOnce]).thrown =
      some .jsonSyntaxException := by
    apply ReaderThread.run_thrown_of_rejected
    rw [bothAtOnce, Segment.decode_ofText]
    exact visit_two_texts bobGranted samGranted
  refine ⟨fun res _ => terminated_compact res, ?_, rejected,
    not_visitedInTurn_of_thrown rejected⟩
  simp only [bothAtOnce, Segment.ofText, stream, List.map_cons, List.map_nil,
    List.flatten_cons, List.flatten_nil, List.append_nil, Utf8.encode_append]

end AndroidMessenger.Client
