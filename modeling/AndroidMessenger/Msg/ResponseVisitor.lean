import AndroidMessenger.Msg.AbstractVisitor
import AndroidMessenger.Msg.RoundTrip

namespace AndroidMessenger.Msg

open Library

/-- The virtual methods of `response::abstract_message_visitor`. -/
structure ResponseVisitor (State Result : Type) where
  visitLogin : Response.Login → State → Result × State
  visitMessage : Response.Message → State → Result × State
  error : String → ErrorCode → String → State → Result × State

namespace ResponseVisitor

section Visit

variable {State Result : Type} (codecs : Codecs) (visitor : ResponseVisitor State Result)

/-- There is no entry for `response::error`. -/
def propMap (type : String) : Option (Ptree → State → Except Exn (Result × State)) :=
  if type = Response.Login.type then
    some (AbstractVisitor.propMapEntry codecs visitor.error Response.Login.fromJson
      visitor.visitLogin "login")
  else if type = Response.Message.type then
    some (AbstractVisitor.propMapEntry codecs visitor.error Response.Message.fromJson
      visitor.visitMessage "message")
  else none

def visit (json : Ptree) (state : State) : Except Exn (Result × State) :=
  AbstractVisitor.visit codecs visitor.error (visitor.propMap codecs)
    "Invalid response specified (json=\"" json state

end Visit

/-- One call of a visitor method, with its arguments. -/
inductive Call where
  | visitLogin (res : Response.Login)
  | visitMessage (res : Response.Message)
  | error (originator : String) (code : ErrorCode) (message : String)
  deriving DecidableEq

namespace Call

variable {State Result : Type}

def dispatch (visitor : ResponseVisitor State Result) (state : State) :
    Call → Result × State
  | .visitLogin res => visitor.visitLogin res state
  | .visitMessage res => visitor.visitMessage res state
  | .error originator code message => visitor.error originator code message state

def recorder : ResponseVisitor Unit Call where
  visitLogin res state := (.visitLogin res, state)
  visitMessage res state := (.visitMessage res, state)
  error originator code message state := (.error originator code message, state)

def ofJson (codecs : Codecs) (json : Ptree) : Except Exn Call :=
  (recorder.visit codecs json ()).map Prod.fst

theorem visit_eq_dispatch (codecs : Codecs) (visitor : ResponseVisitor State Result)
    (json : Ptree) (state : State) :
    visitor.visit codecs json state =
      (ofJson codecs json).map fun call => call.dispatch visitor state := by
  have maps : visitor.visit codecs json state =
      (recorder.visit codecs json ()).map fun result => result.1.dispatch visitor state := by
    apply AbstractVisitor.visit_map (fun _ _ _ => rfl)
    intro type obj
    unfold propMap
    split
    · exact congrArg some (AbstractVisitor.propMapEntry_map (fun _ _ _ => rfl)
        Response.Login.fromJson (fun _ => rfl) "login" obj)
    · split
      · exact congrArg some (AbstractVisitor.propMapEntry_map (fun _ _ _ => rfl)
          Response.Message.fromJson (fun _ => rfl) "message" obj)
      · rfl
  rw [maps, ofJson]
  cases recorder.visit codecs json () <;> rfl

/-- The report of a type that the table does not have. -/
def unknownType (type : String) : Call :=
  .error Instance.unknownSender ErrorCode.malformedRequestNoType
    ("Invalid object type tag specified (type=\"" ++ type ++ "\")")

variable {codecs : Codecs} {json obj : Ptree}

theorem ofJson_login {res : Response.Login}
    (params : Instance.extractFrom json = some (Response.Login.type, obj))
    (decoded : Response.Login.fromJson codecs obj = .ok (some res)) :
    ofJson codecs json = .ok (.visitLogin res) := by
  simp only [ofJson, visit, AbstractVisitor.visit, params, propMap, if_pos]
  simp [AbstractVisitor.propMapEntry, decoded, bind, Except.bind, pure, Except.pure,
    Except.map, recorder]

theorem ofJson_message {res : Response.Message}
    (params : Instance.extractFrom json = some (Response.Message.type, obj))
    (decoded : Response.Message.fromJson codecs obj = .ok (some res)) :
    ofJson codecs json = .ok (.visitMessage res) := by
  have other : Response.Message.type ≠ Response.Login.type := by decide
  simp only [ofJson, visit, AbstractVisitor.visit, params, propMap, if_neg other, if_pos]
  simp [AbstractVisitor.propMapEntry, decoded, bind, Except.bind, pure, Except.pure,
    Except.map, recorder]

theorem ofJson_login_error {exn : Exn}
    (params : Instance.extractFrom json = some (Response.Login.type, obj))
    (thrown : Response.Login.fromJson codecs obj = .error exn) :
    ofJson codecs json = .error exn := by
  simp only [ofJson, visit, AbstractVisitor.visit, params, propMap, if_pos]
  simp [AbstractVisitor.propMapEntry, thrown, bind, Except.bind, Except.map]

theorem ofJson_message_error {exn : Exn}
    (params : Instance.extractFrom json = some (Response.Message.type, obj))
    (thrown : Response.Message.fromJson codecs obj = .error exn) :
    ofJson codecs json = .error exn := by
  have other : Response.Message.type ≠ Response.Login.type := by decide
  simp only [ofJson, visit, AbstractVisitor.visit, params, propMap, if_neg other, if_pos]
  simp [AbstractVisitor.propMapEntry, thrown, bind, Except.bind, Except.map]

theorem ofJson_unknownType {type : String}
    (params : Instance.extractFrom json = some (type, obj))
    (notLogin : type ≠ Response.Login.type) (notMessage : type ≠ Response.Message.type) :
    ofJson codecs json = .ok (unknownType type) := by
  simp only [ofJson, visit, AbstractVisitor.visit, params, propMap, if_neg notLogin,
    if_neg notMessage]
  rfl

theorem ofJson_error
    (params : Instance.extractFrom json = some (Response.Error.type, obj)) :
    ofJson codecs json = .ok (unknownType Response.Error.type) :=
  ofJson_unknownType params (by decide) (by decide)

/-- The call is the one for the type of the response, with its data. -/
def IsOwn : Response → Call → Prop
  | .login res, .visitLogin read =>
      read.sender = res.sender ∧ SameMicrosecond read.dateTime res.dateTime ∧
        read.joiningUsername = res.joiningUsername
  | .message res, .visitMessage read =>
      read.sender = res.sender ∧ SameMicrosecond read.dateTime res.dateTime ∧
        read.originator = res.originator ∧ read.content = res.content
  | .error res, .error originator code message =>
      originator = res.originator ∧ code = res.errorCode ∧ message = res.message
  | _, _ => False

end Call

/-- Every visitor gets the response back from its tree. -/
def Delivers (codecs : Codecs) (res : Response) : Prop :=
  ∃ call : Call, call.IsOwn res ∧
    ∀ (State Result : Type) (visitor : ResponseVisitor State Result) (state : State),
      visitor.visit codecs (res.toJson codecs) state = .ok (call.dispatch visitor state)

theorem delivers_iff_ofJson (codecs : Codecs) (res : Response) :
    Delivers codecs res ↔ ∃ call : Call, call.IsOwn res ∧
      Call.ofJson codecs (res.toJson codecs) = .ok call := by
  constructor
  · intro given
    rcases given with ⟨call, own, visits⟩
    refine ⟨call, own, ?_⟩
    rw [Call.ofJson, visits Unit Call Call.recorder ()]
    cases call <;> rfl
  · intro given
    rcases given with ⟨call, own, visits⟩
    refine ⟨call, own, ?_⟩
    intro State Result visitor state
    rw [Call.visit_eq_dispatch, visits]
    rfl

/-- The report of the missing entry happens to say what the error says. -/
def LooksUnknown (res : Response.Error) : Prop :=
  Call.unknownType Response.Error.type =
    .error res.originator res.errorCode res.message

theorem delivers_error_iff (codecs : Codecs) (error : Response.Error) :
    Delivers codecs (.error error) ↔ LooksUnknown error := by
  have visits := @Call.ofJson_error codecs _ _
    (Instance.extractFrom_toJson Response.Error.type (error.subToJson codecs))
  rw [delivers_iff_ofJson]
  constructor
  · intro given
    rcases given with ⟨call, own, called⟩
    obtain rfl := Except.ok.inj (visits.symm.trans called)
    obtain ⟨originator, code, message⟩ := own
    rw [LooksUnknown, ← originator, ← code, ← message]
    rfl
  · intro looks
    refine ⟨_, ?_, visits⟩
    rw [looks]
    exact ⟨rfl, rfl, rfl⟩

/-- The time of a response is the time that its text is read as, which is the epoch for a
text that the stream refuses. -/
def ComesBack (codecs : Codecs) (time : TimePoint) : Prop :=
  ∃ read, codecs.getTime (codecs.putTime time) = .ok read ∧ SameMicrosecond (read.getD 0) time

theorem comesBack_iff (codecs : Codecs) (time : TimePoint) :
    ComesBack codecs time ↔
      ∃ read, reread codecs time = .ok read ∧ SameMicrosecond read time := by
  unfold ComesBack reread
  cases codecs.getTime (codecs.putTime time) <;> simp [Except.map]

theorem delivers_login_iff (codecs : Codecs) (login : Response.Login) :
    Delivers codecs (.login login) ↔ ComesBack codecs login.dateTime := by
  have params := Instance.extractFrom_toJson Response.Login.type (login.subToJson codecs)
  have decoded := login.fromJson_subToJson codecs
  rw [delivers_iff_ofJson, comesBack_iff]
  cases got : reread codecs login.dateTime with
  | error exn =>
      rw [got] at decoded
      have visits := Call.ofJson_login_error params decoded
      simp [Response.toJson, Response.type, Response.subToJson, visits]
  | ok read =>
      rw [got] at decoded
      have visits := Call.ofJson_login params decoded
      simp [Response.toJson, Response.type, Response.subToJson, visits, Call.IsOwn,
        Response.Login.sender, Response.Login.joiningUsername]

theorem delivers_message_iff (codecs : Codecs) (message : Response.Message) :
    Delivers codecs (.message message) ↔ ComesBack codecs message.dateTime := by
  have params := Instance.extractFrom_toJson Response.Message.type (message.subToJson codecs)
  have decoded := message.fromJson_subToJson codecs
  rw [delivers_iff_ofJson, comesBack_iff]
  cases got : reread codecs message.dateTime with
  | error exn =>
      rw [got] at decoded
      have visits := Call.ofJson_message_error params decoded
      simp [Response.toJson, Response.type, Response.subToJson, visits]
  | ok read =>
      rw [got] at decoded
      have visits := Call.ofJson_message params decoded
      simp [Response.toJson, Response.type, Response.subToJson, visits, Call.IsOwn]

/-- Logins and messages reach their callbacks, with their own times if these come back from
their texts.  An error does not, and is replaced by a report that its type is unknown. -/
theorem delivers_iff (codecs : Codecs) (res : Response) :
    Delivers codecs res ↔
      (∀ error, res = .error error → LooksUnknown error) ∧
      ((∀ error, res ≠ .error error) → ComesBack codecs res.dateTime) := by
  cases res with
  | login login => simp [delivers_login_iff, Response.dateTime]
  | message message => simp [delivers_message_iff, Response.dateTime]
  | error error => simp [delivers_error_iff]

/-! The refusal of a name that is in use, and a login before the epoch. -/

def refusal : Response.Error :=
  Response.Error.ofCode 1480287903250000000 Instance.serverSender ErrorCode.userNameInUse
    "You dun goofed. Username is in use. (Server Error)"

def early : Response.Login :=
  Response.Login.ofUsername (-300000000) "bob"

/-- The visitor is told of a request without a known type, and of a login at the epoch. -/
theorem refusal_reported_unknown :
    Call.ofJson Codecs.compact ((Response.error refusal).toJson Codecs.compact) =
      .ok (.error Instance.unknownSender ErrorCode.malformedRequestNoType
        ("Invalid object type tag specified (type=\"" ++
          "ca.uwo.eng.se3313.lab4.network.response.ServerError" ++ "\")")) ∧
    ¬ Delivers Codecs.compact (.error refusal) ∧
    Call.ofJson Codecs.compact ((Response.login early).toJson Codecs.compact) =
      .ok (.visitLogin { early with dateTime := 0 }) ∧
    ¬ Delivers Codecs.compact (.login early) := by
  refine ⟨?_, ?_, by decide +kernel, ?_⟩
  · exact Call.ofJson_error (Instance.extractFrom_toJson _ _)
  · rw [delivers_error_iff]
    unfold LooksUnknown
    decide
  · rw [delivers_login_iff]
    intro given
    rcases given with ⟨read, got, same⟩
    have refused : Codecs.compact.getTime (Codecs.compact.putTime early.dateTime) =
        .ok none := by decide +kernel
    obtain rfl := Except.ok.inj (got.symm.trans refused)
    exact absurd same (by simp [SameMicrosecond, early, Response.Login.ofUsername])

end ResponseVisitor

end AndroidMessenger.Msg
