import AndroidMessenger.Msg.Compact
import AndroidMessenger.Msg.Json
import AndroidMessenger.Msg.Request
import AndroidMessenger.Msg.Response

namespace AndroidMessenger.Msg

open Library

variable {codecs : Codecs}

/-! Every instance survives its own text. -/

/-- `write_json` ends its text in a closing brace and a newline, and `read_json` takes
the text without that newline for the same tree. -/
def WritesLines (codecs : Codecs) : Prop :=
  ∀ tree pretty text, codecs.writeJson tree pretty = some text →
    ∃ document, Utf8.encode text = document ++ [Json.newline] ∧
      document.getLast? = some Json.closingBrace ∧ codecs.readJson document = some tree

def SameMicrosecond (read time : TimePoint) : Prop :=
  (read - time).natAbs < 1000

/-- The stream operators lose less than a microsecond of the time. -/
def Survives (codecs : Codecs) (time : TimePoint) : Prop :=
  ∃ read, codecs.getTime (codecs.putTime time) = .ok (some read) ∧
    SameMicrosecond read time

/-- The tree is written, cleaned, read and decoded into an instance that is as it
should be. -/
def RoundTrips {T : Type} (codecs : Codecs) (json : Ptree)
    (fromJson : Codecs → Ptree → Except Exn (Option T)) (same : T → Prop) : Prop :=
  ∀ pretty, ∃ text value, Json.toText codecs json pretty = .ok text ∧
    (Json.fromText codecs (Utf8.encode text)).bind
      (Instance.fromJson (fromJson codecs)) = .ok (some value) ∧ same value

theorem fromText_toText (lines : WritesLines codecs) {json : Ptree} {pretty : Bool}
    {text : String} (written : Json.toText codecs json pretty = .ok text) :
    Json.fromText codecs (Utf8.encode text) = .ok json := by
  unfold Json.toText at written
  split at written
  · rename_i content found
    obtain rfl := Except.ok.inj written
    obtain ⟨document, encoded, brace, read⟩ := lines json pretty content found
    rw [Json.fromText, encoded, Json.clean_line brace, read]
  · cases written

theorem roundTrips_toJson {T : Type} (lines : WritesLines codecs) (type : String)
    {object : Ptree} (data : object.data = "") (flat : object.children.flat = true)
    {fromJson : Codecs → Ptree → Except Exn (Option T)} {value : T} {same : T → Prop}
    (decoded : fromJson codecs object = .ok (some value)) (agrees : same value) :
    RoundTrips codecs (Instance.toJson type object) fromJson same := by
  intro pretty
  have representable := Instance.representable_toJson type data flat
  obtain ⟨text, written⟩ := Json.exists_toText codecs representable pretty
  refine ⟨text, value, written, ?_, agrees⟩
  rw [fromText_toText lines written]
  simp [Except.bind, Instance.fromJson, decoded]

/-! The five decoders against their encoders.  The time is the only field that may change
on the way, and the only one that can keep a decoder from returning. -/

section Decoders

variable (codecs : Codecs)

/-- The time as it comes back from its text. -/
def reread (time : TimePoint) : Except Exn TimePoint :=
  (codecs.getTime (codecs.putTime time)).map fun read => read.getD 0

theorem reread_of_survives {time : TimePoint} (survives : Survives codecs time) :
    ∃ read, reread codecs time = .ok read ∧ SameMicrosecond read time := by
  obtain ⟨read, got, same⟩ := survives
  exact ⟨read, by rw [reread, got]; rfl, same⟩

theorem extractCommonParams_of_carries {json : Ptree} {time : TimePoint} {sender : String}
    (carries : Instance.Carries json (codecs.putTime time) sender) :
    Instance.extractCommonParams codecs json =
      (reread codecs time).map fun read => (read, sender) := by
  rw [carries.extractCommonParams, reread]
  cases codecs.getTime (codecs.putTime time) <;> rfl

theorem Request.Login.fromJson_subToJson (req : Request.Login) :
    Request.Login.fromJson codecs (req.subToJson codecs) =
      (reread codecs req.dateTime).map fun read => some { req with dateTime := read } := by
  have params := extractCommonParams_of_carries codecs
    (Instance.carries_baseJson codecs req.dateTime req.sender)
  rw [fromJson, subToJson, params]
  cases reread codecs req.dateTime <;> rfl

theorem Request.Message.fromJson_subToJson (req : Request.Message) :
    Request.Message.fromJson codecs (req.subToJson codecs) =
      (reread codecs req.dateTime).map fun read => some { req with dateTime := read } := by
  have params := extractCommonParams_of_carries codecs
    ((Instance.carries_baseJson codecs req.dateTime req.sender).put propertyContent
      req.content (by decide) (by decide))
  obtain ⟨content, hasContent, data⟩ :=
    (Instance.baseJson codecs req.dateTime req.sender).exists_find?_put
      propertyContent req.content
  rw [← subToJson] at hasContent params
  rw [fromJson, params]
  cases reread codecs req.dateTime <;>
    simp [hasContent, data, bind, Except.bind, pure, Except.pure, Except.map]

theorem Response.Login.fromJson_subToJson (res : Response.Login) :
    Response.Login.fromJson codecs (res.subToJson codecs) =
      (reread codecs res.dateTime).map fun read =>
        some { res with dateTime := read, storedSender := res.sender } := by
  have params := extractCommonParams_of_carries codecs
    ((Instance.carries_baseJson codecs res.dateTime res.sender).put propertyJoiningUsername
      res.joiningUsername (by decide) (by decide))
  obtain ⟨joiningUser, hasJoiningUser, data⟩ :=
    (Instance.baseJson codecs res.dateTime res.sender).exists_find?_put
      propertyJoiningUsername res.joiningUsername
  rw [← subToJson] at hasJoiningUser params
  rw [fromJson, params]
  cases reread codecs res.dateTime <;>
    simp [hasJoiningUser, data, bind, Except.bind, pure, Except.pure, Except.map,
      joiningUsername]

theorem Response.Message.fromJson_subToJson (res : Response.Message) :
    Response.Message.fromJson codecs (res.subToJson codecs) =
      (reread codecs res.dateTime).map fun read => some { res with dateTime := read } := by
  let base := Instance.baseJson codecs res.dateTime res.sender
  have carries := (Instance.carries_baseJson codecs res.dateTime res.sender).put
    propertyOriginator res.originator (by decide) (by decide)
  have params := extractCommonParams_of_carries codecs
    (carries.put propertyContent res.content (by decide) (by decide))
  obtain ⟨orig, hasOrig, origData⟩ := base.exists_find?_put propertyOriginator res.originator
  obtain ⟨message, hasMessage, messageData⟩ :=
    (base.put propertyOriginator res.originator).exists_find?_put propertyContent res.content
  rw [← @Ptree.find?_put_of_ne _ propertyContent _ res.content (by decide),
    ← subToJson] at hasOrig
  rw [← subToJson] at hasMessage params
  rw [fromJson, params]
  cases reread codecs res.dateTime <;>
    simp [hasOrig, origData, hasMessage, messageData, bind, Except.bind, pure, Except.pure,
      Except.map]

theorem Response.Error.fromJson_subToJson (res : Response.Error) :
    Response.Error.fromJson codecs (res.subToJson codecs) =
      (reread codecs res.dateTime).map fun read => some { res with dateTime := read } := by
  let code := codecs.putUInt16 res.errorCode.value
  let base := Instance.baseJson codecs res.dateTime res.sender
  have carries := ((Instance.carries_baseJson codecs res.dateTime res.sender).put
    propertyCode code (by decide) (by decide)).put
      propertyMessage res.message (by decide) (by decide)
  have params := extractCommonParams_of_carries codecs
    (carries.put propertyOriginator res.originator (by decide) (by decide))
  obtain ⟨codeNode, hasCode, codeData⟩ := base.exists_find?_put propertyCode code
  obtain ⟨msg, hasMsg, msgData⟩ :=
    (base.put propertyCode code).exists_find?_put propertyMessage res.message
  obtain ⟨orig, hasOrig, origData⟩ :=
    ((base.put propertyCode code).put propertyMessage res.message).exists_find?_put
      propertyOriginator res.originator
  rw [← @Ptree.find?_put_of_ne _ propertyMessage _ res.message (by decide),
    ← @Ptree.find?_put_of_ne _ propertyOriginator _ res.originator (by decide),
    ← subToJson] at hasCode
  rw [← @Ptree.find?_put_of_ne _ propertyOriginator _ res.originator (by decide),
    ← subToJson] at hasMsg
  rw [← subToJson] at hasOrig params
  have value : codecs.getUInt16 codeNode.data = some res.errorCode.value := by
    rw [codeData]
    exact codecs.getUInt16_putUInt16 _
  rw [fromJson, params]
  cases reread codecs res.dateTime <;>
    simp [hasCode, value, hasMsg, msgData, hasOrig, origData, bind, Except.bind, pure,
      Except.pure, Except.map]

end Decoders

/-- Every instance of the five types comes back from its own text, compact or pretty,
with its sender, its fields and its time to the microsecond. -/
theorem instances_roundTrip (codecs : Codecs) (lines : WritesLines codecs) :
    (∀ req : Request.Login, Survives codecs req.dateTime →
      RoundTrips codecs (req.toJson codecs) Request.Login.fromJson fun read =>
        read.sender = req.sender ∧ SameMicrosecond read.dateTime req.dateTime) ∧
    (∀ req : Request.Message, Survives codecs req.dateTime →
      RoundTrips codecs (req.toJson codecs) Request.Message.fromJson fun read =>
        read.sender = req.sender ∧ SameMicrosecond read.dateTime req.dateTime ∧
          read.content = req.content) ∧
    (∀ res : Response.Login, Survives codecs res.dateTime →
      RoundTrips codecs ((Response.login res).toJson codecs) Response.Login.fromJson
        fun read =>
          read.sender = res.sender ∧ SameMicrosecond read.dateTime res.dateTime ∧
            read.joiningUsername = res.joiningUsername) ∧
    (∀ res : Response.Message, Survives codecs res.dateTime →
      RoundTrips codecs ((Response.message res).toJson codecs) Response.Message.fromJson
        fun read =>
          read.sender = res.sender ∧ SameMicrosecond read.dateTime res.dateTime ∧
            read.originator = res.originator ∧ read.content = res.content) ∧
    ∀ res : Response.Error, Survives codecs res.dateTime →
      RoundTrips codecs ((Response.error res).toJson codecs) Response.Error.fromJson
        fun read =>
          read.sender = res.sender ∧ SameMicrosecond read.dateTime res.dateTime ∧
            read.originator = res.originator ∧ read.errorCode = res.errorCode ∧
              read.message = res.message := by
  refine ⟨?_, ?_, ?_, ?_, ?_⟩
  · intro req survives
    obtain ⟨read, got, same⟩ := reread_of_survives codecs survives
    have decoded := req.fromJson_subToJson codecs
    rw [got] at decoded
    exact roundTrips_toJson lines _ rfl (Instance.flat_baseJson ..) decoded ⟨rfl, same⟩
  · intro req survives
    obtain ⟨read, got, same⟩ := reread_of_survives codecs survives
    have decoded := req.fromJson_subToJson codecs
    rw [got] at decoded
    have flat : (req.subToJson codecs).children.flat = true :=
      Children.flat_put _ _ (Instance.flat_baseJson ..)
    exact roundTrips_toJson lines _ rfl flat decoded ⟨rfl, same, rfl⟩
  · intro res survives
    obtain ⟨read, got, same⟩ := reread_of_survives codecs survives
    have decoded := res.fromJson_subToJson codecs
    rw [got] at decoded
    exact roundTrips_toJson lines _ rfl ((Response.login res).flat_subToJson codecs) decoded
      ⟨rfl, same, rfl⟩
  · intro res survives
    obtain ⟨read, got, same⟩ := reread_of_survives codecs survives
    have decoded := res.fromJson_subToJson codecs
    rw [got] at decoded
    exact roundTrips_toJson lines _ rfl ((Response.message res).flat_subToJson codecs) decoded
      ⟨rfl, same, rfl, rfl⟩
  · intro res survives
    obtain ⟨read, got, same⟩ := reread_of_survives codecs survives
    have decoded := res.fromJson_subToJson codecs
    rw [got] at decoded
    exact roundTrips_toJson lines _ rfl ((Response.error res).flat_subToJson codecs) decoded
      ⟨rfl, same, rfl, rfl, rfl⟩

/-! The codecs that run write lines, so an error with a text of every kind of
character comes back. -/

theorem writesLines_compact : WritesLines Codecs.compact := by
  intro tree _ text written
  obtain ⟨representable, rfl⟩ := Compact.writeJson_eq_some_iff.mp written
  refine ⟨Utf8.encode (String.ofList (JsonText.printRoot tree)), ?_,
    Compact.getLast?_encode_printRoot tree, Compact.readJson_printRoot representable⟩
  rw [Utf8.encode_ofList, Utf8.encode_ofList, List.flatMap_append]
  rfl

def oddError : Response.Error where
  dateTime := 1480287903250000000
  sender := ""
  originator := "\x7d \"\n"
  errorCode := ⟨65535⟩
  message := "\x7b\n\x7d"

theorem oddError_roundTrips :
    RoundTrips Codecs.compact ((Response.error oddError).toJson Codecs.compact)
      Response.Error.fromJson fun read =>
        read.sender = oddError.sender ∧
          SameMicrosecond read.dateTime oddError.dateTime ∧
          read.originator = oddError.originator ∧ read.errorCode = oddError.errorCode ∧
          read.message = oddError.message :=
  (instances_roundTrip Codecs.compact writesLines_compact).2.2.2.2 oddError
    ⟨1480287903250000000, by decide +kernel, by simp [SameMicrosecond, oddError]⟩

end AndroidMessenger.Msg
