import AndroidMessenger.Msg.Instance

namespace AndroidMessenger.Msg

open Library

/-- `enum class ErrorCode: uint16_t`, which may hold any 16-bit value. -/
structure ErrorCode where
  value : UInt16
  deriving DecidableEq

namespace ErrorCode

def none : ErrorCode := ⟨0⟩
def invalidRequestFromClient : ErrorCode := ⟨50⟩
def userNameInUse : ErrorCode := ⟨1⟩
def invalidUserName : ErrorCode := ⟨2⟩
def malformedRequestUnknwn : ErrorCode := ⟨200⟩
def malformedRequestNoType : ErrorCode := ⟨201⟩
def malformedRequestUnknownType : ErrorCode := ⟨202⟩
def malformedRequestBadObjectDef : ErrorCode := ⟨203⟩
def malformedRequestNoObj : ErrorCode := ⟨210⟩

end ErrorCode

namespace Response

structure Login where
  dateTime : TimePoint
  storedSender : String
  username : String
  deriving DecidableEq

structure Message where
  dateTime : TimePoint
  sender : String
  originator : String
  content : String
  deriving DecidableEq

structure Error where
  dateTime : TimePoint
  sender : String
  originator : String
  errorCode : ErrorCode
  message : String
  deriving DecidableEq

namespace Login

def type : String := "ca.uwo.eng.se3313.lab4.network.response.LoginResponse"

def propertyJoiningUsername : String := "joiningUsername"

/-- `login(username)`, built at the time `now`. -/
def ofUsername (now : TimePoint) (username : String) : Login :=
  { dateTime := now, storedSender := Instance.serverSender, username }

/-- The override, which does not read the stored sender. -/
def sender (_ : Login) : String := Instance.serverSender

def joiningUsername (res : Login) : String := res.username

def subToJson (codecs : Codecs) (res : Login) : Ptree :=
  (Instance.baseJson codecs res.dateTime res.sender).put
    propertyJoiningUsername res.joiningUsername

def fromJson (codecs : Codecs) (json : Ptree) : Except Exn (Option Login) := do
  let (dateTime, sender) ← Instance.extractCommonParams codecs json
  match json.find? propertyJoiningUsername with
  | none => .error (.runtimeError "Can not get joining username from JSON")
  | some joiningUser =>
      return some { dateTime, storedSender := sender, username := joiningUser.data }

end Login

namespace Message

def type : String := "ca.uwo.eng.se3313.lab4.network.response.MessageResponse"

def propertyContent : String := "content"

def propertyOriginator : String := "originator"

def ofContent (now : TimePoint) (originator content : String) : Message :=
  { dateTime := now, sender := Instance.serverSender, originator, content }

def subToJson (codecs : Codecs) (res : Message) : Ptree :=
  ((Instance.baseJson codecs res.dateTime res.sender).put
    propertyOriginator res.originator).put propertyContent res.content

def fromJson (codecs : Codecs) (json : Ptree) : Except Exn (Option Message) := do
  let (dateTime, sender) ← Instance.extractCommonParams codecs json
  match json.find? propertyContent with
  | none => .error (.runtimeError "Could not get message.")
  | some message =>
      match json.find? propertyOriginator with
      | none => .error (.runtimeError "Could not get originator.")
      | some orig =>
          return some { dateTime, sender, originator := orig.data, content := message.data }

end Message

namespace Error

def type : String := "ca.uwo.eng.se3313.lab4.network.response.ServerError"

def propertyCode : String := "code"

def propertyMessage : String := "message"

def propertyOriginator : String := "originator"

def ofCode (now : TimePoint) (originator : String) (errorCode : ErrorCode)
    (message : String) : Error :=
  { dateTime := now, sender := Instance.serverSender, originator, errorCode, message }

def subToJson (codecs : Codecs) (res : Error) : Ptree :=
  (((Instance.baseJson codecs res.dateTime res.sender).put
    propertyCode (codecs.putUInt16 res.errorCode.value)).put
      propertyMessage res.message).put propertyOriginator res.originator

def fromJson (codecs : Codecs) (json : Ptree) : Except Exn (Option Error) := do
  let (dateTime, sender) ← Instance.extractCommonParams codecs json
  match json.find? propertyCode with
  | none => .error (.runtimeError "Can not get error code from JSON")
  | some code =>
      match codecs.getUInt16 code.data with
      | none => .error .ptreeBadData
      | some value =>
          match json.find? propertyMessage with
          | none => .error (.runtimeError "Can not get message from JSON")
          | some msg =>
              match json.find? propertyOriginator with
              | none => .error (.runtimeError "Can not get originator from JSON")
              | some orig =>
                  return some {
                    dateTime, sender, originator := orig.data, errorCode := ⟨value⟩
                    message := msg.data }

end Error

end Response

inductive Response where
  | login (res : Response.Login)
  | message (res : Response.Message)
  | error (res : Response.Error)
  deriving DecidableEq

namespace Response

def type : Response → String
  | .login _ => Login.type
  | .message _ => Message.type
  | .error _ => Error.type

def subToJson (codecs : Codecs) : Response → Ptree
  | .login res => res.subToJson codecs
  | .message res => res.subToJson codecs
  | .error res => res.subToJson codecs

def toJson (codecs : Codecs) (res : Response) : Ptree :=
  Instance.toJson res.type (res.subToJson codecs)

/-- The text of the instance, which always exists. -/
def text (codecs : Codecs) (res : Response) : String :=
  (codecs.writeJson (res.toJson codecs) false).getD ""

def dateTime : Response → TimePoint
  | .login res => res.dateTime
  | .message res => res.dateTime
  | .error res => res.dateTime

theorem flat_subToJson (codecs : Codecs) (res : Response) :
    (res.subToJson codecs).children.flat = true := by
  cases res with
  | login res => exact Children.flat_put _ _ (Instance.flat_baseJson ..)
  | message res =>
      apply Children.flat_put
      apply Children.flat_put
      exact Instance.flat_baseJson ..
  | error res =>
      apply Children.flat_put
      apply Children.flat_put
      apply Children.flat_put
      exact Instance.flat_baseJson ..

theorem representable_toJson (codecs : Codecs) (res : Response) :
    (res.toJson codecs).Representable := by
  apply Instance.representable_toJson
  · cases res <;> rfl
  · exact res.flat_subToJson codecs

theorem writeJson_toJson (codecs : Codecs) (res : Response) :
    codecs.writeJson (res.toJson codecs) false = some (res.text codecs) := by
  obtain ⟨content, written⟩ := codecs.exists_writeJson (res.representable_toJson codecs) false
  simp [text, written]

end Response

end AndroidMessenger.Msg
