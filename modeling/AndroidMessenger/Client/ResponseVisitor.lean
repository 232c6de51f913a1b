import AndroidMessenger.Client.Gson
import AndroidMessenger.Msg.Response

namespace AndroidMessenger.Client

open Library Msg

variable {codecs : Codecs}

def propertyType : String := "type"

def propertyObject : String := "object"

/-! The response classes.  Gson leaves a field null when its member is missing. -/

structure LoginResponse where
  dateTime : Option DateTime
  sender : Option String
  joiningUsername : Option String
  deriving DecidableEq

structure MessageResponse where
  dateTime : Option DateTime
  sender : Option String
  content : Option String
  originator : Option String
  deriving DecidableEq

structure ServerError where
  dateTime : Option DateTime
  sender : Option String
  code : ErrorCode
  message : Option String
  deriving DecidableEq

def LoginResponse.className : String :=
  "ca.uwo.eng.se3313.lab4.network.response.LoginResponse"

def MessageResponse.className : String :=
  "ca.uwo.eng.se3313.lab4.network.response.MessageResponse"

inductive ResponseCall where
  | visitLogin (login : Option LoginResponse)
  | visitMessage (message : Option MessageResponse)
  | visitError (error : ServerError)
  deriving DecidableEq

def stringField (obj : JsonObject) (name : String) : Except JavaExn (Option String) :=
  match obj.get name with
  | none => .ok none
  | some .null => .ok none
  | some (.primitive text) => .ok (some text)
  | some _ => .error .jsonSyntaxException

def dateTimeField (platform : Platform codecs) (obj : JsonObject) (name : String) :
    Except JavaExn (Option DateTime) :=
  match obj.get name with
  | none => .ok none
  | some .null => .ok none
  | some element => do
      let dateString ← element.getAsString
      match platform.parseDateTime dateString with
      | some time => return some time
      | none => .error (.illegalArgumentException dateString)

/-- `mGson.fromJson(jsonObject, …)` for a class that is read from an object. -/
def fromJson {α : Type} (read : JsonObject → Except JavaExn α)
    (jsonObject : Option JsonElement) : Except JavaExn (Option α) :=
  match jsonObject with
  | none => .ok none
  | some .null => .ok none
  | some (.object members) => (read members).map some
  | some _ => .error .jsonSyntaxException

def LoginResponse.read (platform : Platform codecs) (obj : JsonObject) :
    Except JavaExn LoginResponse := do
  let dateTime ← dateTimeField platform obj "datetime"
  let sender ← stringField obj "sender"
  let joiningUsername ← stringField obj "joiningUsername"
  return { dateTime, sender, joiningUsername }

def MessageResponse.read (platform : Platform codecs) (obj : JsonObject) :
    Except JavaExn MessageResponse := do
  let dateTime ← dateTimeField platform obj "datetime"
  let sender ← stringField obj "sender"
  let content ← stringField obj "content"
  let originator ← stringField obj "originator"
  return { dateTime, sender, content, originator }

/-- `AbstractResponseVisitor.visit`, up to the method that it calls. -/
def visit (platform : Platform codecs) (json : String) : Except JavaExn ResponseCall :=
  match platform.readObject json with
  | none => .error .jsonSyntaxException
  | some obj =>
      match obj.get propertyType with
      | none => .error .nullPointerException
      | some typeElement => do
          let typeStr ← typeElement.getAsString
          if platform.forName typeStr then
            let jsonObject := obj.get propertyObject
            if typeStr = LoginResponse.className then
              return .visitLogin (← fromJson (LoginResponse.read platform) jsonObject)
            else if typeStr = MessageResponse.className then
              return .visitMessage (← fromJson (MessageResponse.read platform) jsonObject)
            else .error (.illegalStateException
              ("Could not visit json argument: " ++ platform.toString obj))
          else .error (.illegalArgumentException
            ("Invalid formatted json object, type was invalid (type=" ++ typeStr ++ ")."))

/-- The call hands over what the response holds. -/
def Matches : ResponseCall → Response → Prop
  | .visitLogin (some login), .login res =>
      login.joiningUsername = some res.joiningUsername
  | .visitMessage (some message), .message res =>
      message.originator = some res.originator ∧ message.content = some res.content
  | .visitError error, .error res =>
      error.code = res.errorCode ∧ error.message = some res.message
  | _, _ => False

def Accepts (platform : Platform codecs) (res : Response) : Prop :=
  ∃ call, visit platform (res.text codecs) = .ok call ∧ Matches call res

theorem readObject_text (platform : Platform codecs) (res : Response) :
    platform.readObject (res.text codecs) =
      some [(propertyType, .primitive res.type),
        (propertyObject, JsonElement.ofPtree (res.subToJson codecs))] := by
  rw [platform.readObject_writeJson (res.writeJson_toJson codecs)]
  rfl

section Fields

variable {obj : JsonObject} {name text : String}

theorem stringField_primitive (found : obj.get name = some (.primitive text)) :
    stringField obj name = .ok (some text) := by
  simp [stringField, found]

theorem dateTimeField_primitive {platform : Platform codecs} {time : DateTime}
    (found : obj.get name = some (.primitive text))
    (parsed : platform.parseDateTime text = some time) :
    dateTimeField platform obj name = .ok (some time) := by
  simp [dateTimeField, found, JsonElement.getAsString, bind, Except.bind, parsed, pure,
    Except.pure]

theorem dateTimeField_unparsed {platform : Platform codecs}
    (found : obj.get name = some (.primitive text))
    (unparsed : platform.parseDateTime text = none) :
    dateTimeField platform obj name = .error (.illegalArgumentException text) := by
  simp [dateTimeField, found, JsonElement.getAsString, bind, Except.bind, unparsed]

end Fields

theorem read_login (platform : Platform codecs) (res : Response.Login) :
    fromJson (LoginResponse.read platform)
        (some (JsonElement.ofPtree (res.subToJson codecs))) =
      match platform.parseDateTime (codecs.putTime res.dateTime) with
      | some time => .ok (some {
          dateTime := some time
          sender := some res.sender
          joiningUsername := some res.joiningUsername })
      | none => .error (.illegalArgumentException (codecs.putTime res.dateTime)) := by
  change (LoginResponse.read platform
    [("datetime", .primitive (codecs.putTime res.dateTime)),
      ("sender", .primitive res.sender),
      ("joiningUsername", .primitive res.joiningUsername)]).map some = _
  rw [LoginResponse.read]
  cases parsed : platform.parseDateTime (codecs.putTime res.dateTime) with
  | none =>
      rw [dateTimeField_unparsed rfl parsed]
      rfl
  | some time =>
      rw [dateTimeField_primitive rfl parsed, stringField_primitive rfl,
        stringField_primitive rfl]
      rfl

theorem read_message (platform : Platform codecs) (res : Response.Message) :
    fromJson (MessageResponse.read platform)
        (some (JsonElement.ofPtree (res.subToJson codecs))) =
      match platform.parseDateTime (codecs.putTime res.dateTime) with
      | some time => .ok (some {
          dateTime := some time
          sender := some res.sender
          content := some res.content
          originator := some res.originator })
      | none => .error (.illegalArgumentException (codecs.putTime res.dateTime)) := by
  change (MessageResponse.read platform
    [("datetime", .primitive (codecs.putTime res.dateTime)),
      ("sender", .primitive res.sender),
      ("originator", .primitive res.originator),
      ("content", .primitive res.content)]).map some = _
  rw [MessageResponse.read]
  cases parsed : platform.parseDateTime (codecs.putTime res.dateTime) with
  | none =>
      rw [dateTimeField_unparsed rfl parsed]
      rfl
  | some time =>
      rw [dateTimeField_primitive rfl parsed, stringField_primitive rfl,
        stringField_primitive rfl, stringField_primitive rfl]
      rfl

theorem visit_error_text (platform : Platform codecs) (res : Response.Error) :
    visit platform ((Response.error res).text codecs) =
      .error (.illegalStateException ("Could not visit json argument: " ++
        platform.toString [(propertyType, .primitive Response.Error.type),
          (propertyObject, JsonElement.ofPtree (res.subToJson codecs))])) := by
  have known := platform.forName_response Response.Error.type (by decide)
  rw [visit, readObject_text]
  change (if platform.forName Response.Error.type = true then _ else _) = _
  rw [if_pos known]
  rfl

theorem visit_login_text (platform : Platform codecs) (res : Response.Login) :
    visit platform ((Response.login res).text codecs) =
      (fromJson (LoginResponse.read platform)
        (some (JsonElement.ofPtree (res.subToJson codecs)))).map .visitLogin := by
  have known := platform.forName_response LoginResponse.className (by decide)
  rw [visit, readObject_text]
  change (if platform.forName LoginResponse.className = true then _ else _) = _
  rw [if_pos known]
  rfl

theorem visit_message_text (platform : Platform codecs) (res : Response.Message) :
    visit platform ((Response.message res).text codecs) =
      (fromJson (MessageResponse.read platform)
        (some (JsonElement.ofPtree (res.subToJson codecs)))).map .visitMessage := by
  have known := platform.forName_response MessageResponse.className (by decide)
  rw [visit, readObject_text]
  change (if platform.forName MessageResponse.className = true then _ else _) = _
  rw [if_pos known]
  rfl

/-- The method that `visit` calls for a response with a date that parses. -/
def callOf (time : DateTime) : Response → Option ResponseCall
  | .login res => some (.visitLogin (some {
      dateTime := some time
      sender := some res.sender
      joiningUsername := some res.joiningUsername }))
  | .message res => some (.visitMessage (some {
      dateTime := some time
      sender := some res.sender
      content := some res.content
      originator := some res.originator }))
  | .error _ => none

theorem visit_text_eq_ok_iff (platform : Platform codecs) (res : Response)
    (call : ResponseCall) :
    visit platform (res.text codecs) = .ok call ↔
      ∃ time, platform.parseDateTime (codecs.putTime res.dateTime) = some time ∧
        callOf time res = some call := by
  cases res with
  | login res =>
      rw [visit_login_text, read_login, Response.dateTime]
      cases platform.parseDateTime (codecs.putTime res.dateTime) with
      | none => simp [Except.map]
      | some time => simp [Except.map, callOf]
  | message res =>
      rw [visit_message_text, read_message, Response.dateTime]
      cases platform.parseDateTime (codecs.putTime res.dateTime) with
      | none => simp [Except.map]
      | some time => simp [Except.map, callOf]
  | error res => simp [visit_error_text, callOf]

theorem visit_text_isOk_iff (platform : Platform codecs) (res : Response) :
    (∃ call, visit platform (res.text codecs) = .ok call) ↔
      (∀ err, res ≠ .error err) ∧
        (platform.parseDateTime (codecs.putTime res.dateTime)).isSome = true := by
  simp only [visit_text_eq_ok_iff]
  constructor
  · intro given
    rcases given with ⟨call, time, parsed, called⟩
    refine ⟨?_, by rw [parsed]; rfl⟩
    intro err same
    subst same
    cases called
  · intro given
    rcases given with ⟨noError, parsed⟩
    obtain ⟨time, parsed⟩ := Option.isSome_iff_exists.mp parsed
    cases res with
    | login res => exact ⟨_, time, parsed, rfl⟩
    | message res => exact ⟨_, time, parsed, rfl⟩
    | error res => exact absurd rfl (noError res)

/-- The client takes every response but an error. -/
theorem accepts_iff (platform : Platform codecs) {res : Response}
    (parsed : (platform.parseDateTime (codecs.putTime res.dateTime)).isSome = true) :
    Accepts platform res ↔ ∀ err, res ≠ .error err := by
  constructor
  · intro given
    rcases given with ⟨call, accepted, _⟩
    exact ((visit_text_isOk_iff platform res).mp ⟨call, accepted⟩).1
  · intro noError
    obtain ⟨call, accepted⟩ := (visit_text_isOk_iff platform res).mpr ⟨noError, parsed⟩
    obtain ⟨time, _, called⟩ := (visit_text_eq_ok_iff platform res call).mp accepted
    refine ⟨call, accepted, ?_⟩
    cases res with
    | login res =>
        obtain rfl := Option.some.inj called
        rfl
    | message res =>
        obtain rfl := Option.some.inj called
        exact ⟨rfl, rfl⟩
    | error res => cases called

end AndroidMessenger.Client
