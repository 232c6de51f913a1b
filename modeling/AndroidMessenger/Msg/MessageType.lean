import AndroidMessenger.Msg.Request
import AndroidMessenger.Msg.Response

namespace AndroidMessenger.Msg

open Library

/-! What the five decoders read, and what they make of it. -/

section Decoders

variable (codecs : Codecs) {json : Ptree}

theorem Request.Login.fromJson_eq_ok_iff {req : Request.Login} :
    fromJson codecs json = .ok (some req) ↔
      Instance.extractCommonParams codecs json = .ok (req.dateTime, req.sender) := by
  unfold fromJson
  cases Instance.extractCommonParams codecs json with
  | error exn => simp [bind, Except.bind]
  | ok params =>
      cases req
      simp [bind, Except.bind, pure, Except.pure, Prod.ext_iff]

theorem Request.Message.fromJson_eq_ok_iff {req : Request.Message} :
    fromJson codecs json = .ok (some req) ↔
      Instance.extractCommonParams codecs json = .ok (req.dateTime, req.sender) ∧
        (json.find? propertyContent).map Ptree.data = some req.content := by
  unfold fromJson
  cases Instance.extractCommonParams codecs json with
  | error exn => simp [bind, Except.bind]
  | ok params =>
      cases req
      cases json.find? propertyContent <;>
        simp [bind, Except.bind, pure, Except.pure, Prod.ext_iff, and_assoc]

theorem Response.Login.fromJson_eq_ok_iff {res : Response.Login} :
    fromJson codecs json = .ok (some res) ↔
      Instance.extractCommonParams codecs json = .ok (res.dateTime, res.storedSender) ∧
        (json.find? propertyJoiningUsername).map Ptree.data = some res.username := by
  unfold fromJson
  cases Instance.extractCommonParams codecs json with
  | error exn => simp [bind, Except.bind]
  | ok params =>
      cases res
      cases json.find? propertyJoiningUsername <;>
        simp [bind, Except.bind, pure, Except.pure, Prod.ext_iff, and_assoc]

theorem Response.Message.fromJson_eq_ok_iff {res : Response.Message} :
    fromJson codecs json = .ok (some res) ↔
      Instance.extractCommonParams codecs json = .ok (res.dateTime, res.sender) ∧
        (json.find? propertyContent).map Ptree.data = some res.content ∧
          (json.find? propertyOriginator).map Ptree.data = some res.originator := by
  unfold fromJson
  cases Instance.extractCommonParams codecs json with
  | error exn => simp [bind, Except.bind]
  | ok params =>
      cases res
      cases json.find? propertyContent with
      | none => simp [bind, Except.bind]
      | some message =>
          cases json.find? propertyOriginator with
          | none => simp [bind, Except.bind]
          | some orig =>
              simp only [bind, Except.bind, pure, Except.pure, Except.ok.injEq,
                Option.some.injEq, Message.mk.injEq, Prod.ext_iff, Option.map_some]
              simp only [and_assoc, and_comm]

theorem Response.Error.fromJson_eq_ok_iff {res : Response.Error} :
    fromJson codecs json = .ok (some res) ↔
      Instance.extractCommonParams codecs json = .ok (res.dateTime, res.sender) ∧
        (json.find? propertyCode).bind (fun code => codecs.getUInt16 code.data) =
          some res.errorCode.value ∧
        (json.find? propertyMessage).map Ptree.data = some res.message ∧
          (json.find? propertyOriginator).map Ptree.data = some res.originator := by
  unfold fromJson
  cases Instance.extractCommonParams codecs json with
  | error exn => simp [bind, Except.bind]
  | ok params =>
      obtain ⟨dateTime, sender, originator, errorCode, message⟩ := res
      obtain ⟨value⟩ := errorCode
      cases json.find? propertyCode with
      | none => simp [bind, Except.bind]
      | some code =>
          simp only [bind, Except.bind, Option.bind_some]
          cases codecs.getUInt16 code.data with
          | none => simp
          | some number =>
              cases json.find? propertyMessage with
              | none => simp
              | some msg =>
                  cases json.find? propertyOriginator with
                  | none => simp
                  | some orig =>
                      simp only [pure, Except.pure, Except.ok.injEq, Option.some.injEq,
                        Error.mk.injEq, ErrorCode.mk.injEq, Prod.ext_iff, Option.map_some]
                      simp only [and_assoc, and_comm]

end Decoders

/-- The classes that `instance::fromJson<T>` is there for. -/
inductive MessageType where
  | requestLogin
  | requestMessage
  | responseLogin
  | responseMessage
  | responseError
  deriving DecidableEq

namespace MessageType

abbrev Value : MessageType → Type
  | .requestLogin => Request.Login
  | .requestMessage => Request.Message
  | .responseLogin => Response.Login
  | .responseMessage => Response.Message
  | .responseError => Response.Error

/-- `T::TYPE`. -/
def type : MessageType → String
  | .requestLogin => Request.Login.type
  | .requestMessage => Request.Message.type
  | .responseLogin => Response.Login.type
  | .responseMessage => Response.Message.type
  | .responseError => Response.Error.type

/-- `T::fromJson`. -/
def fromJson (codecs : Codecs) : (T : MessageType) → Ptree → Except Exn (Option T.Value)
  | .requestLogin => Request.Login.fromJson codecs
  | .requestMessage => Request.Message.fromJson codecs
  | .responseLogin => Response.Login.fromJson codecs
  | .responseMessage => Response.Message.fromJson codecs
  | .responseError => Response.Error.fromJson codecs

def dateTime : (T : MessageType) → T.Value → TimePoint
  | .requestLogin => Request.Login.dateTime
  | .requestMessage => Request.Message.dateTime
  | .responseLogin => Response.Login.dateTime
  | .responseMessage => Response.Message.dateTime
  | .responseError => Response.Error.dateTime

/-- The fields of `T` besides the common ones.  A code is a number that fits. -/
def HasOwnFields (codecs : Codecs) : MessageType → Ptree → Prop
  | .requestLogin, _ => True
  | .requestMessage, obj => ∃ content, obj.find? Request.propertyContent = some content
  | .responseLogin, obj =>
      ∃ user, obj.find? Response.Login.propertyJoiningUsername = some user
  | .responseMessage, obj =>
      (∃ content, obj.find? Response.Message.propertyContent = some content) ∧
        ∃ orig, obj.find? Response.Message.propertyOriginator = some orig
  | .responseError, obj =>
      (∃ code value, obj.find? Response.Error.propertyCode = some code ∧
        codecs.getUInt16 code.data = some value) ∧
      (∃ msg, obj.find? Response.Error.propertyMessage = some msg) ∧
        ∃ orig, obj.find? Response.Error.propertyOriginator = some orig

def HasFields (codecs : Codecs) (T : MessageType) (obj : Ptree) : Prop :=
  Request.HasCommonParams obj ∧ T.HasOwnFields codecs obj

variable (codecs : Codecs) (T : MessageType) {obj : Ptree}

theorem extractCommonParams_of_fromJson {value : T.Value}
    (decoded : T.fromJson codecs obj = .ok (some value)) :
    ∃ sender, Instance.extractCommonParams codecs obj = .ok (T.dateTime value, sender) := by
  cases T with
  | requestLogin => exact ⟨_, (Request.Login.fromJson_eq_ok_iff codecs).mp decoded⟩
  | requestMessage => exact ⟨_, ((Request.Message.fromJson_eq_ok_iff codecs).mp decoded).1⟩
  | responseLogin => exact ⟨_, ((Response.Login.fromJson_eq_ok_iff codecs).mp decoded).1⟩
  | responseMessage =>
      exact ⟨_, ((Response.Message.fromJson_eq_ok_iff codecs).mp decoded).1⟩
  | responseError => exact ⟨_, ((Response.Error.fromJson_eq_ok_iff codecs).mp decoded).1⟩

theorem dateTime_of_fromJson {value : T.Value}
    (decoded : T.fromJson codecs obj = .ok (some value)) :
    ∃ datetime read, obj.find? Instance.propertyDatetime = some datetime ∧
      codecs.getTime datetime.data = .ok read ∧ T.dateTime value = read.getD 0 := by
  obtain ⟨sender, params⟩ := T.extractCommonParams_of_fromJson codecs decoded
  obtain ⟨datetime, _, read, found, _, got, time, _⟩ :=
    (Instance.extractCommonParams_eq_ok_iff codecs).mp params
  exact ⟨datetime, read, found, got, time.symm⟩

/-- A decoder yields an instance exactly for the objects that have its fields, whatever
their values, as long as the datetime does not break off. -/
theorem fromJson_isSome_iff (obj : Ptree) :
    (∃ value, T.fromJson codecs obj = .ok (some value)) ↔
      T.HasFields codecs obj ∧ ¬ Instance.EndsAtSeconds codecs obj := by
  have common : Request.HasCommonParams obj ∧ ¬ Instance.EndsAtSeconds codecs obj ↔
      ∃ params, Instance.extractCommonParams codecs obj = .ok params :=
    (Instance.extractCommonParams_isOk_iff codecs obj).symm
  rw [HasFields, and_right_comm, common]
  constructor
  · intro given
    rcases given with ⟨value, decoded⟩
    obtain ⟨sender, params⟩ := T.extractCommonParams_of_fromJson codecs decoded
    refine ⟨⟨_, params⟩, ?_⟩
    cases T with
    | requestLogin => trivial
    | requestMessage =>
        have own := ((Request.Message.fromJson_eq_ok_iff codecs).mp decoded).2
        obtain ⟨content, found, _⟩ := Option.map_eq_some_iff.mp own
        exact ⟨content, found⟩
    | responseLogin =>
        have own := ((Response.Login.fromJson_eq_ok_iff codecs).mp decoded).2
        obtain ⟨user, found, _⟩ := Option.map_eq_some_iff.mp own
        exact ⟨user, found⟩
    | responseMessage =>
        obtain ⟨_, content, orig⟩ :=
          (Response.Message.fromJson_eq_ok_iff codecs).mp decoded
        obtain ⟨contentNode, hasContent, _⟩ := Option.map_eq_some_iff.mp content
        obtain ⟨origNode, hasOrig, _⟩ := Option.map_eq_some_iff.mp orig
        exact ⟨⟨contentNode, hasContent⟩, origNode, hasOrig⟩
    | responseError =>
        obtain ⟨_, code, msg, orig⟩ := (Response.Error.fromJson_eq_ok_iff codecs).mp decoded
        obtain ⟨codeNode, hasCode, number⟩ := Option.bind_eq_some_iff.mp code
        obtain ⟨msgNode, hasMsg, _⟩ := Option.map_eq_some_iff.mp msg
        obtain ⟨origNode, hasOrig, _⟩ := Option.map_eq_some_iff.mp orig
        exact ⟨⟨codeNode, _, hasCode, number⟩, ⟨msgNode, hasMsg⟩, origNode, hasOrig⟩
  · intro given
    rcases given with ⟨⟨⟨time, sender⟩, params⟩, own⟩
    cases T with
    | requestLogin =>
        exact ⟨⟨time, sender⟩, (Request.Login.fromJson_eq_ok_iff codecs).mpr params⟩
    | requestMessage =>
        obtain ⟨content, found⟩ := own
        refine ⟨⟨time, sender, content.data⟩, ?_⟩
        exact (Request.Message.fromJson_eq_ok_iff codecs).mpr ⟨params, by simp [found]⟩
    | responseLogin =>
        obtain ⟨user, found⟩ := own
        refine ⟨⟨time, sender, user.data⟩, ?_⟩
        exact (Response.Login.fromJson_eq_ok_iff codecs).mpr ⟨params, by simp [found]⟩
    | responseMessage =>
        obtain ⟨⟨content, hasContent⟩, orig, hasOrig⟩ := own
        refine ⟨⟨time, sender, orig.data, content.data⟩, ?_⟩
        exact (Response.Message.fromJson_eq_ok_iff codecs).mpr
          ⟨params, by simp [hasContent], by simp [hasOrig]⟩
    | responseError =>
        obtain ⟨⟨code, number, hasCode, fits⟩, ⟨msg, hasMsg⟩, orig, hasOrig⟩ := own
        refine ⟨⟨time, sender, orig.data, ⟨number⟩, msg.data⟩, ?_⟩
        exact (Response.Error.fromJson_eq_ok_iff codecs).mpr
          ⟨params, by simp [hasCode, fits], by simp [hasMsg], by simp [hasOrig]⟩

end MessageType

end AndroidMessenger.Msg
