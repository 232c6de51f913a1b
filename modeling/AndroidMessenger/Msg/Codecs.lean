import AndroidMessenger.Library.PropertyTree
import AndroidMessenger.Library.Utf8

namespace AndroidMessenger.Msg

open Library

/-- `system_clock::time_point`, in nanoseconds since the epoch. -/
abbrev TimePoint := Int

/-- How a call can end without returning.  The last two are no exceptions: the process
reads where it may not. -/
inductive Exn where
  | runtimeError (what : String)
  | jsonParserError
  | ptreeBadData
  | unterminatedBuffer
  | pastTheEnd
  deriving DecidableEq

/-- What the code takes from Boost's property tree and from the streams of the standard
library.  `none` is a thrown exception or a failed stream.  `scanTime` stops behind the
seconds of a time point, with what it has not read. -/
structure Codecs where
  readJson : Bytes → Option Ptree
  writeJson : Ptree → Bool → Option String
  writeJson_isSome : ∀ tree pretty,
    (writeJson tree pretty).isSome = true ↔ tree.Representable
  readJson_writeJson : ∀ {tree pretty text}, writeJson tree pretty = some text →
    readJson (Utf8.encode text) = some tree
  putUInt16 : UInt16 → String
  getUInt16 : String → Option UInt16
  getUInt16_putUInt16 : ∀ value, getUInt16 (putUInt16 value) = some value
  putTime : TimePoint → String
  scanTime : String → Option (TimePoint × List Char)

namespace Codecs

variable (codecs : Codecs)

theorem exists_writeJson {tree : Ptree} (h : tree.Representable) (pretty : Bool) :
    ∃ text, codecs.writeJson tree pretty = some text :=
  Option.isSome_iff_exists.mp ((codecs.writeJson_isSome tree pretty).mpr h)

theorem writeJson_eq_none_iff (tree : Ptree) (pretty : Bool) :
    codecs.writeJson tree pretty = none ↔ ¬ tree.Representable := by
  rw [← codecs.writeJson_isSome tree pretty]
  cases codecs.writeJson tree pretty <;> simp

/-- `write_json(std::cerr, json, true)` followed by a `throw`: the dump may
throw first. -/
def dumpAndThrow (json : Ptree) (what : String) : Exn :=
  match codecs.writeJson json true with
  | some _ => .runtimeError what
  | none => .jsonParserError

end Codecs

end AndroidMessenger.Msg
