import Mathlib.Data.List.TakeWhile
import AndroidMessenger.Library.JsonShape
import AndroidMessenger.Msg.ChronoIo

namespace AndroidMessenger.Msg.Compact

open Library

/-! Codecs that run.  The layout that `pretty` asks for is not reproduced: it
only goes to the standard output of the server. -/

def readJson (bytes : Bytes) : Option Ptree :=
  (Utf8.decode? bytes).bind fun text => JsonText.parseRoot text.toList

def writeJson (tree : Ptree) : Option String :=
  if tree.Representable then
    some (String.ofList (JsonText.printRoot tree ++ [Char.ofNat 10]))
  else none

theorem writeJson_isSome (tree : Ptree) :
    (writeJson tree).isSome = true ↔ tree.Representable := by
  unfold writeJson
  split <;> simp_all

theorem writeJson_eq_some_iff {tree : Ptree} {text : String} :
    writeJson tree = some text ↔ tree.Representable ∧
      text = String.ofList (JsonText.printRoot tree ++ [Char.ofNat 10]) := by
  unfold writeJson
  split
  · rename_i hrepresentable
    rw [Option.some.injEq, and_iff_right hrepresentable, eq_comm]
  · rename_i hrepresentable
    simp [hrepresentable]

theorem parseRoot_writeJson {tree : Ptree} {text : String}
    (h : writeJson tree = some text) : JsonText.parseRoot text.toList = some tree := by
  obtain ⟨hrepresentable, rfl⟩ := writeJson_eq_some_iff.mp h
  rw [String.toList_ofList]
  exact JsonText.parseRoot_printRoot hrepresentable (by decide)

theorem getLast?_writeJson {tree : Ptree} {text : String}
    (h : writeJson tree = some text) : text.toList.getLast? = some (Char.ofNat 10) := by
  obtain ⟨_, rfl⟩ := writeJson_eq_some_iff.mp h
  simp

theorem parseRoot_writeJson_append {first second : Ptree} {left right : String}
    (hleft : writeJson first = some left) (hright : writeJson second = some right) :
    JsonText.parseRoot (left ++ right).toList = none := by
  obtain ⟨hrepresentable, rfl⟩ := writeJson_eq_some_iff.mp hleft
  obtain ⟨_, rfl⟩ := writeJson_eq_some_iff.mp hright
  rw [String.toList_append, String.toList_ofList, String.toList_ofList, List.append_assoc,
    JsonText.parseRoot_append hrepresentable, if_neg]
  exact JsonText.skipSpace_printRoot second [Char.ofNat 10]

theorem readJson_writeJson {tree : Ptree} {text : String}
    (h : writeJson tree = some text) : readJson (Utf8.encode text) = some tree := by
  rw [readJson, Utf8.decode?_encode, Option.bind_some, parseRoot_writeJson h]

theorem isObject_of_readJson {bytes : Bytes} {tree : Ptree} (read : readJson bytes = some tree)
    {key : String} (spelled : 'y' ∈ key.toList) (isMember : (tree.find? key).isSome = true) :
    JsonScan.IsObject bytes := by
  obtain ⟨text, decoded, parsed⟩ := Option.bind_eq_some_iff.mp read
  have object := JsonText.isObject_of_parseRoot parsed spelled isMember
  rwa [JsonText.encodeChars, ← Utf8.encode_ofList, String.ofList_toList,
    Utf8.encode_of_decode? decoded] at object

theorem readJson_newline {bytes : Bytes} {tree : Ptree} (read : readJson bytes = some tree) :
    readJson (10 :: bytes) = some tree := by
  obtain ⟨text, decoded, parsed⟩ := Option.bind_eq_some_iff.mp read
  have encoded : 10 :: bytes = Utf8.encode ("\n" ++ text) := by
    rw [Utf8.encode_append, Utf8.encode_of_decode? decoded]
    rfl
  rw [readJson, encoded, Utf8.decode?_encode, Option.bind_some, String.toList_append]
  exact JsonText.parseRoot_space (by decide) parsed

theorem readJson_printRoot {tree : Ptree} (h : tree.Representable) :
    readJson (Utf8.encode (String.ofList (JsonText.printRoot tree))) = some tree := by
  have hparse := @JsonText.parseRoot_printRoot tree h [] rfl
  rw [List.append_nil] at hparse
  rw [readJson, Utf8.decode?_encode, Option.bind_some, String.toList_ofList, hparse]

theorem getLast?_encode_printRoot (tree : Ptree) :
    (Utf8.encode (String.ofList (JsonText.printRoot tree))).getLast? = some 125 := by
  obtain ⟨initial, hbrace⟩ := List.getLast?_eq_some_iff.mp (JsonText.getLast?_printRoot tree)
  rw [hbrace, Utf8.encode_ofList, List.flatMap_append]
  exact List.getLast?_concat

def textOf (tree : Ptree) : String :=
  (writeJson tree).getD ""

theorem textOf_eq {tree : Ptree} (representable : tree.Representable) :
    textOf tree =
      String.ofList (JsonText.printRoot tree) ++ String.ofList [Char.ofNat 10] := by
  rw [← String.ofList_append]
  simp [textOf, writeJson, representable]

def putUInt16 (value : UInt16) : String :=
  Nat.repr value.toNat

def isSpace (char : Char) : Bool :=
  char == ' ' || (9 ≤ char.toNat && char.toNat ≤ 13)

/-- `>> unsigned short` on the whole text.  A minus sign wraps the number around. -/
def getUInt16 (text : String) : Option UInt16 :=
  let (factor, input) := ChronoIo.signed (text.toList.dropWhile isSpace)
  let digits := input.takeWhile Char.isDigit
  let value := Nat.ofDigitChars 10 digits 0
  if digits ≠ [] ∧ (input.dropWhile Char.isDigit).all isSpace = true ∧ value < 65536 then
    some (UInt16.ofInt (factor * value))
  else none

theorem signed_of_isDigit {char : Char} (digit : char.isDigit = true) (rest : List Char) :
    ChronoIo.signed (char :: rest) = (1, char :: rest) := by
  unfold ChronoIo.signed
  split
  · rename_i same
    obtain ⟨rfl, rfl⟩ : char = '-' ∧ rest = _ := by simpa using same
    cases digit
  · rename_i same
    obtain ⟨rfl, rfl⟩ : char = '+' ∧ rest = _ := by simpa using same
    cases digit
  · rfl

theorem isSpace_of_isDigit {char : Char} (digit : char.isDigit = true) :
    isSpace char = false := by
  have low : 48 ≤ char.toNat := by
    simp only [Char.isDigit, Bool.and_eq_true, decide_eq_true_eq] at digit
    exact digit.1
  have blank : char ≠ ' ' := by
    rintro rfl
    cases digit
  simp only [isSpace, beq_eq_false_iff_ne.mpr blank, Bool.false_or, Bool.and_eq_false_iff,
    decide_eq_false_iff_not]
  omega

theorem getUInt16_putUInt16 (value : UInt16) :
    getUInt16 (putUInt16 value) = some value := by
  have allDigits : ∀ char ∈ Nat.toDigits 10 value.toNat, char.isDigit = true :=
    fun _ mem => Nat.isDigit_of_mem_toDigits (by decide) (by decide) mem
  have text : (putUInt16 value).toList = Nat.toDigits 10 value.toNat :=
    Nat.toList_repr
  obtain ⟨first, rest, written⟩ :=
    List.exists_cons_of_ne_nil (@Nat.toDigits_ne_nil value.toNat 10)
  have firstDigit : first.isDigit = true := allDigits first (by simp [written])
  have unsigned : ChronoIo.signed (List.dropWhile isSpace (putUInt16 value).toList) =
      (1, Nat.toDigits 10 value.toNat) := by
    rw [text, written, List.dropWhile_cons_of_neg (by simp [isSpace_of_isDigit firstDigit])]
    exact signed_of_isDigit firstDigit rest
  have whole : UInt16.ofInt value.toNat = value := by
    have small := value.toNat_lt
    have same : ((value.toNat : Int) % 2 ^ 16).toNat = value.toNat := by omega
    rw [UInt16.ofInt, same, UInt16.ofNat_toNat]
  have taken := List.takeWhile_eq_self_iff.mpr allDigits
  have dropped := List.dropWhile_eq_nil_iff.mpr allDigits
  simp only [getUInt16, unsigned, taken, dropped]
  simp [Nat.toDigits_ne_nil, value.toNat_lt, whole]

end Compact

def Codecs.compact : Codecs where
  readJson := Compact.readJson
  writeJson tree _ := Compact.writeJson tree
  writeJson_isSome tree _ := Compact.writeJson_isSome tree
  readJson_writeJson := Compact.readJson_writeJson
  putUInt16 := Compact.putUInt16
  getUInt16 := Compact.getUInt16
  getUInt16_putUInt16 := Compact.getUInt16_putUInt16
  putTime := ChronoIo.put
  scanTime := ChronoIo.scan

example : Codecs.compact.getTime "2016-11-27 18:05:03.250000 -0500" =
    .ok (some 1480287903250000000) := by decide +kernel

example : Codecs.compact.getTime "1970-01-01 00:00:00.000000" = .error .pastTheEnd := by
  decide +kernel

theorem Codecs.scanTime_compact : Codecs.compact.scanTime = ChronoIo.scan := rfl

theorem Codecs.goesOn_put (time : TimePoint) :
    ¬ Codecs.compact.EndsAtSeconds (ChronoIo.put time) := by
  intro given
  rcases given with ⟨read, ended⟩
  exact ChronoIo.scan_put_ne time read ended

theorem Codecs.readJson_compact : Codecs.compact.readJson = Compact.readJson := rfl

end AndroidMessenger.Msg
