import AndroidMessenger.Msg.Instance

namespace AndroidMessenger.Msg.Request

open Library

structure Login where
  dateTime : TimePoint
  sender : String
  deriving DecidableEq

structure Message where
  dateTime : TimePoint
  sender : String
  content : String
  deriving DecidableEq

def propertyContent : String := "content"

namespace Login

def type : String := "ca.uwo.eng.se3313.lab4.network.request.LoginRequest"

/-- The shared pointer that `fromJson` returns is an `Option`, though no branch
returns the null one. -/
def fromJson (codecs : Codecs) (json : Ptree) : Except Exn (Option Login) := do
  let (dateTime, sender) ← Instance.extractCommonParams codecs json
  return some { dateTime, sender }

def subToJson (codecs : Codecs) (req : Login) : Ptree :=
  Instance.baseJson codecs req.dateTime req.sender

def toJson (codecs : Codecs) (req : Login) : Ptree :=
  Instance.toJson type (req.subToJson codecs)

end Login

namespace Message

def type : String := "ca.uwo.eng.se3313.lab4.network.request.MessageRequest"

def fromJson (codecs : Codecs) (json : Ptree) : Except Exn (Option Message) := do
  let (dateTime, sender) ← Instance.extractCommonParams codecs json
  match json.find? propertyContent with
  | none => .error (.runtimeError "Could not get message")
  | some message => return some { dateTime, sender, content := message.data }

def subToJson (codecs : Codecs) (req : Message) : Ptree :=
  (Instance.baseJson codecs req.dateTime req.sender).put propertyContent req.content

def toJson (codecs : Codecs) (req : Message) : Ptree :=
  Instance.toJson type (req.subToJson codecs)

end Message

/-! A decoder throws exactly where a field that it needs is missing, and ends the process
where the datetime breaks off. -/

def HasCommonParams (object : Ptree) : Prop :=
  (∃ datetime, object.find? Instance.propertyDatetime = some datetime) ∧
    ∃ sender, object.find? Instance.propertySender = some sender

theorem Login.fromJson_isOk_iff (codecs : Codecs) (json : Ptree) :
    (∃ req, Login.fromJson codecs json = .ok (some req)) ↔
      HasCommonParams json ∧ ¬ Instance.EndsAtSeconds codecs json := by
  rw [HasCommonParams, ← Instance.extractCommonParams_isOk_iff codecs]
  unfold Login.fromJson
  cases Instance.extractCommonParams codecs json with
  | error exn => simp [bind, Except.bind]
  | ok params => simp [bind, Except.bind, pure, Except.pure]

theorem Message.fromJson_isOk_iff (codecs : Codecs) (json : Ptree) :
    (∃ req, Message.fromJson codecs json = .ok (some req)) ↔
      (HasCommonParams json ∧ ¬ Instance.EndsAtSeconds codecs json) ∧
        ∃ content, json.find? propertyContent = some content := by
  rw [HasCommonParams, ← Instance.extractCommonParams_isOk_iff codecs]
  unfold Message.fromJson
  cases Instance.extractCommonParams codecs json with
  | error exn => simp [bind, Except.bind]
  | ok params =>
      cases json.find? propertyContent <;>
        simp [bind, Except.bind, pure, Except.pure]

theorem Login.fromJson_ne_null (codecs : Codecs) (json : Ptree) :
    Login.fromJson codecs json ≠ .ok none := by
  unfold Login.fromJson
  cases Instance.extractCommonParams codecs json with
  | error exn => simp [bind, Except.bind]
  | ok params => simp [bind, Except.bind, pure, Except.pure]

theorem Message.fromJson_ne_null (codecs : Codecs) (json : Ptree) :
    Message.fromJson codecs json ≠ .ok none := by
  unfold Message.fromJson
  cases Instance.extractCommonParams codecs json with
  | error exn => simp [bind, Except.bind]
  | ok params =>
      cases json.find? propertyContent <;>
        simp [bind, Except.bind, pure, Except.pure]

end AndroidMessenger.Msg.Request
