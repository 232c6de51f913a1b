import Mathlib.Logic.Function.Basic

namespace AndroidMessenger.Library

abbrev Bytes := List UInt8

namespace Utf8

def encode (text : String) : Bytes :=
  text.toByteArray.data.toList

def decode? (bytes : Bytes) : Option String :=
  String.fromUTF8? ⟨bytes.toArray⟩

theorem decode?_encode (text : String) : decode? (encode text) = some text := by
  have hbytes : (⟨(encode text).toArray⟩ : ByteArray) = text.toByteArray := by
    simp [encode]
  rw [decode?, hbytes, String.fromUTF8?, dif_pos text.isValidUTF8]
  rfl

theorem encode_of_decode? {bytes : Bytes} {text : String} (decoded : decode? bytes = some text) :
    encode text = bytes := by
  rw [decode?, String.fromUTF8?] at decoded
  split at decoded
  · obtain rfl := Option.some.inj decoded
    simp [encode, String.fromUTF8]
  · cases decoded

theorem encode_injective : Function.Injective encode := by
  intro left right equality
  have decoded := congrArg decode? equality
  simpa [decode?_encode] using decoded

@[simp] theorem encode_empty : encode "" = [] := rfl

theorem encode_append (left right : String) :
    encode (left ++ right) = encode left ++ encode right := by
  simp [encode]

theorem encode_join (texts : List String) :
    encode (String.join texts) = (texts.map encode).flatten := by
  induction texts with
  | nil => rfl
  | cons text texts ih =>
      rw [String.join_cons, encode_append, ih, List.map_cons, List.flatten_cons]

theorem encode_ofList (chars : List Char) :
    encode (String.ofList chars) = chars.flatMap String.utf8EncodeChar := by
  simp [encode, List.utf8Encode]

/-! Decoding that puts a replacement character in the place of every maximal part
of a malformed sequence. -/

def replacement : Char := Char.ofNat 0xFFFD

def isContinuation (byte : UInt8) : Bool := 0x80 ≤ byte && byte ≤ 0xBF

/-- The second byte can follow the first in a sequence of three or four. -/
def isContinued (first second : UInt8) : Bool :=
  if first = 0xE0 then 0xA0 ≤ second && second ≤ 0xBF
  else if first = 0xED then 0x80 ≤ second && second ≤ 0x9F
  else if first = 0xF0 then 0x90 ≤ second && second ≤ 0xBF
  else if first = 0xF4 then 0x80 ≤ second && second ≤ 0x8F
  else 0xE1 ≤ first && first ≤ 0xF3 && isContinuation second

/-- The length of the part at the head of input that does not start with a
character. -/
def malformedLength : Bytes → Nat
  | first :: second :: rest =>
      if isContinued first second then
        if 0xF0 ≤ first ∧ (rest.head?.map isContinuation) = some true then 3 else 2
      else 1
  | _ => 1

def decodeChars : Nat → Bytes → List Char
  | _, [] => []
  | 0, _ => []
  | fuel + 1, first :: rest =>
      match ByteArray.utf8DecodeChar? (first :: rest).toByteArray 0 with
      | some char => char :: decodeChars fuel ((first :: rest).drop char.utf8Size)
      | none =>
          replacement :: decodeChars fuel
            ((first :: rest).drop (malformedLength (first :: rest)))

/-- Every step takes a byte at least. -/
def decode (bytes : Bytes) : String :=
  String.ofList (decodeChars bytes.length bytes)

theorem malformedLength_pos (bytes : Bytes) : 0 < malformedLength bytes := by
  unfold malformedLength
  split
  · split
    · split <;> decide
    · decide
  · decide

theorem decodeChar_append (char : Char) (rest : Bytes) :
    ByteArray.utf8DecodeChar? (String.utf8EncodeChar char ++ rest).toByteArray 0 =
      some char := by
  rw [List.toByteArray_append]
  exact ByteArray.utf8DecodeChar?_utf8EncodeChar_append

theorem eq_append_of_decodeChar {bytes : Bytes} {char : Char}
    (decoded : ByteArray.utf8DecodeChar? bytes.toByteArray 0 = some char) :
    bytes = String.utf8EncodeChar char ++ bytes.drop char.utf8Size := by
  obtain ⟨rest, equality⟩ := ByteArray.exists_of_utf8DecodeChar?_eq_some decoded
  have rebuilt : rest = rest.data.toList.toByteArray := by
    apply ByteArray.ext
    simp
  have parts : bytes = String.utf8EncodeChar char ++ rest.data.toList := by
    apply List.toByteArray_inj.mp
    rw [equality, List.toByteArray_append, ← rebuilt]
  rw [parts, ← String.length_utf8EncodeChar, List.drop_left]

theorem decodeChars_append (char : Char) (rest : Bytes) (fuel : Nat) :
    decodeChars (fuel + 1) (String.utf8EncodeChar char ++ rest) =
      char :: decodeChars fuel rest := by
  have decoded := decodeChar_append char rest
  have dropped : (String.utf8EncodeChar char ++ rest).drop char.utf8Size = rest := by
    rw [← String.length_utf8EncodeChar, List.drop_left]
  cases shape : String.utf8EncodeChar char ++ rest with
  | nil =>
      exact absurd (List.append_eq_nil_iff.mp shape).1 String.utf8EncodeChar_ne_nil
  | cons first others =>
      rw [shape] at decoded dropped
      simp only [decodeChars, decoded, dropped]

theorem decodeChars_flatMap (chars : List Char) (fuel : Nat)
    (enough : chars.length ≤ fuel) :
    decodeChars fuel (chars.flatMap String.utf8EncodeChar) = chars := by
  induction chars generalizing fuel with
  | nil => cases fuel <;> rfl
  | cons char chars ih =>
      obtain ⟨fuel, rfl⟩ : ∃ less, fuel = less + 1 :=
        ⟨fuel - 1, by rw [List.length_cons] at enough; omega⟩
      rw [List.flatMap_cons, decodeChars_append, ih fuel (by simpa using enough)]

theorem length_le_flatMap (chars : List Char) :
    chars.length ≤ (chars.flatMap String.utf8EncodeChar).length := by
  induction chars with
  | nil => exact Nat.le_refl _
  | cons char chars ih =>
      have positive := char.utf8Size_pos
      rw [List.flatMap_cons, List.length_append, String.length_utf8EncodeChar,
        List.length_cons]
      omega

theorem decode_encode (text : String) : decode (encode text) = text := by
  have encoded := encode_ofList text.toList
  rw [String.ofList_toList] at encoded
  rw [decode, encoded, decodeChars_flatMap _ _ (length_le_flatMap _),
    String.ofList_toList]

theorem map_decode_encode (texts : List String) :
    (texts.map encode).map decode = texts := by
  rw [List.map_map]
  calc
    _ = texts.map id := List.map_congr_left fun text _ => decode_encode text
    _ = texts := List.map_id texts

theorem decodeChars_step (fuel : Nat) (first : UInt8) (rest : Bytes) :
    ∃ head count, 0 < count ∧
      decodeChars (fuel + 1) (first :: rest) =
        head :: decodeChars fuel ((first :: rest).drop count) ∧
      (head = replacement ∨
        first :: rest = String.utf8EncodeChar head ++ (first :: rest).drop count) := by
  cases decoded : ByteArray.utf8DecodeChar? (first :: rest).toByteArray 0 with
  | some char =>
      refine ⟨char, char.utf8Size, char.utf8Size_pos, ?_, Or.inr ?_⟩
      · simp only [decodeChars, decoded]
      · exact eq_append_of_decodeChar decoded
  | none =>
      refine ⟨replacement, malformedLength (first :: rest), malformedLength_pos _, ?_,
        Or.inl rfl⟩
      simp only [decodeChars, decoded]

theorem decodeChars_eq_nil {fuel : Nat} {bytes : Bytes} (enough : bytes.length ≤ fuel)
    (empty : decodeChars fuel bytes = []) : bytes = [] := by
  cases bytes with
  | nil => rfl
  | cons first rest =>
      cases fuel with
      | zero => exact absurd enough (Nat.not_succ_le_zero _)
      | succ fuel =>
          obtain ⟨head, count, _, equality, _⟩ := decodeChars_step fuel first rest
          rw [equality] at empty
          contradiction

/-- A decoded text ends in a character that stood at the end of the bytes, or in a
replacement. -/
theorem eq_append_of_getLast?_decodeChars {char : Char} (actual : char ≠ replacement)
    (fuel : Nat) {bytes : Bytes} (enough : bytes.length ≤ fuel)
    (last : (decodeChars fuel bytes).getLast? = some char) :
    ∃ initial, bytes = initial ++ String.utf8EncodeChar char := by
  induction fuel generalizing bytes with
  | zero =>
      obtain rfl := List.length_eq_zero_iff.mp (Nat.le_zero.mp enough)
      cases last
  | succ fuel ih =>
      cases bytes with
      | nil => cases last
      | cons first rest =>
          obtain ⟨head, count, positive, equality, taken⟩ :=
            decodeChars_step fuel first rest
          have shorter : ((first :: rest).drop count).length ≤ fuel := by
            rw [List.length_drop]
            omega
          rw [equality] at last
          cases remaining : decodeChars fuel ((first :: rest).drop count) with
          | nil =>
              rw [remaining] at last
              obtain rfl : head = char := by simpa using last
              rw [decodeChars_eq_nil shorter remaining, List.append_nil] at taken
              exact ⟨[], taken.resolve_left actual⟩
          | cons next others =>
              rw [remaining, List.getLast?_cons_cons, ← remaining] at last
              obtain ⟨initial, ends⟩ := ih shorter last
              refine ⟨(first :: rest).take count ++ initial, ?_⟩
              rw [List.append_assoc, ← ends, List.take_append_drop]

theorem exists_encode_of_append {chars : List Char} {initial rest : Bytes} {char : Char}
    (equality : chars.flatMap String.utf8EncodeChar =
      initial ++ String.utf8EncodeChar char ++ rest) :
    ∃ before : List Char, initial = before.flatMap String.utf8EncodeChar := by
  induction chars generalizing initial with
  | nil =>
      rw [List.append_assoc] at equality
      exact ⟨[], (List.append_eq_nil_iff.mp equality.symm).1⟩
  | cons head chars ih =>
      rw [List.flatMap_cons, List.append_assoc] at equality
      rcases List.append_eq_append_iff.mp equality with
        ⟨more, longer, tail⟩ | ⟨more, longer, tail⟩
      · rw [← List.append_assoc] at tail
        obtain ⟨before, equality⟩ := ih tail
        exact ⟨head :: before, by rw [List.flatMap_cons, ← equality, longer]⟩
      · cases more with
        | nil => exact ⟨[head], by simp [longer]⟩
        | cons byte others =>
            have leads := @UInt8.isUTF8FirstByte_getElem_zero_utf8EncodeChar char
            have inside : initial.length < (String.utf8EncodeChar head).length := by
              rw [longer, List.length_append, List.length_cons]
              omega
            have found : (String.utf8EncodeChar head)[initial.length] = byte := by
              simp [longer]
            cases encoded : String.utf8EncodeChar char with
            | nil => exact absurd encoded String.utf8EncodeChar_ne_nil
            | cons first last =>
                rw [encoded, List.cons_append] at tail
                obtain ⟨rfl, _⟩ := List.cons.inj tail
                simp only [encoded, List.getElem_cons_zero, ← found,
                  UInt8.isUTF8FirstByte_getElem_utf8EncodeChar] at leads
                exact ⟨[], List.length_eq_zero_iff.mp leads⟩

/-- Bytes that a text starts with, and that are decoded to a text whose last
character is no replacement, are the encoding of that text. -/
theorem eq_encode_of_decode {bytes rest : Bytes} {whole text : String} {char : Char}
    (part : encode whole = bytes ++ rest) (decoded : decode bytes = text)
    (last : text.toList.getLast? = some char) (actual : char ≠ replacement) :
    bytes = encode text := by
  have chars : decodeChars bytes.length bytes = text.toList := by
    rw [← decoded, decode, String.toList_ofList]
  rw [← chars] at last
  obtain ⟨initial, ends⟩ :=
    eq_append_of_getLast?_decodeChars actual bytes.length (Nat.le_refl _) last
  rw [← @String.ofList_toList whole, encode_ofList, ends] at part
  obtain ⟨before, equality⟩ := exists_encode_of_append part
  have valid : bytes = encode (String.ofList (before ++ [char])) := by
    rw [encode_ofList, ends, equality, List.flatMap_append]
    simp
  rw [valid, decode_encode] at decoded
  rw [valid, decoded]

end Utf8

end AndroidMessenger.Library
