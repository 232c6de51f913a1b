import AndroidMessenger.Client.Compact
import AndroidMessenger.Client.MainActivity
import AndroidMessenger.Msg.MessageType
import AndroidMessenger.Msg.Visitor

namespace AndroidMessenger.Client

open Library Msg

variable {codecs : Codecs} {platform : Platform codecs}

/-! The texts of the requests, and what the server makes of them. -/

namespace JsonElement

mutual
/-- The tree that Boost reads from the text of an element. -/
def toPtree : JsonElement → Ptree
  | .null => .leaf "null"
  | .primitive text => .leaf text
  | .array elements => .node "" (itemsOf elements)
  | .object members => .node "" (childrenOf members)

def itemsOf : List JsonElement → Children
  | [] => .nil
  | element :: rest => .cons "" element.toPtree (itemsOf rest)

def childrenOf : List (String × JsonElement) → Children
  | [] => .nil
  | (name, element) :: rest => .cons name element.toPtree (childrenOf rest)
end

mutual
theorem exclusive_toPtree : ∀ element : JsonElement, element.toPtree.exclusive = true
  | .null => by rw [toPtree, Ptree.exclusive_leaf]
  | .primitive text => by rw [toPtree, Ptree.exclusive_leaf]
  | .array elements => by simp [toPtree, Ptree.exclusive, exclusive_itemsOf elements]
  | .object members => by simp [toPtree, Ptree.exclusive, exclusive_childrenOf members]

theorem exclusive_itemsOf : ∀ elements : List JsonElement,
    (itemsOf elements).exclusive = true
  | [] => rfl
  | element :: rest => by
      simp [itemsOf, Children.exclusive, exclusive_toPtree element, exclusive_itemsOf rest]

theorem exclusive_childrenOf : ∀ members : List (String × JsonElement),
    (childrenOf members).exclusive = true
  | [] => rfl
  | (name, element) :: rest => by
      simp [childrenOf, Children.exclusive, exclusive_toPtree element,
        exclusive_childrenOf rest]
end

end JsonElement

/-- The writing side of Joda and Gson.  A date that Joda prints goes on with its zone
behind the seconds.  Boost reads a text that Gson has written as Gson meant it, and that
text ends in its closing brace. -/
structure GsonWriter (platform : Platform codecs) where
  printDateTime : DateTime → String
  goesOn_printDateTime : ∀ time, ¬ codecs.EndsAtSeconds (printDateTime time)
  readJson_toString : ∀ obj : JsonObject,
    codecs.readJson (Utf8.encode (platform.toString obj)) =
      some (.node "" (JsonElement.childrenOf obj))
  getLast?_toString : ∀ obj : JsonObject,
    (Utf8.encode (platform.toString obj)).getLast? = some Json.closingBrace

def LoginRequest.className : String :=
  "ca.uwo.eng.se3313.lab4.network.request.LoginRequest"

def MessageRequest.className : String :=
  "ca.uwo.eng.se3313.lab4.network.request.MessageRequest"

/-! `mGson.toJsonTree(this)` takes the fields of the class before the inherited ones,
and leaves out what is null. -/

def stringMember (name : String) : Option String → JsonObject
  | some text => [(name, .primitive text)]
  | none => []

def LoginRequest.toJsonTree (writer : GsonWriter platform) (req : LoginRequest) :
    JsonObject :=
  ("datetime", .primitive (writer.printDateTime req.dateTime)) ::
    stringMember "sender" (some req.sender)

def MessageRequest.toJsonTree (writer : GsonWriter platform) (req : MessageRequest) :
    JsonObject :=
  stringMember "content" (some req.content) ++
    ("datetime", .primitive (writer.printDateTime req.dateTime)) ::
      stringMember "sender" req.sender

namespace NetworkRequest

/-- `AbstractNetworkInstance.toJson`. -/
def toJson (writer : GsonWriter platform) : NetworkRequest → JsonObject
  | .login req =>
      [(propertyType, .primitive LoginRequest.className),
        (propertyObject, .object (req.toJsonTree writer))]
  | .message req =>
      [(propertyType, .primitive MessageRequest.className),
        (propertyObject, .object (req.toJsonTree writer))]

/-- What `output.println(message.toJson().toString())` writes. -/
def line (writer : GsonWriter platform) (req : NetworkRequest) : String :=
  platform.toString (req.toJson writer) ++ "\n"

variable (writer : GsonWriter platform)

theorem fromText_line (req : NetworkRequest) :
    Json.fromText codecs (Utf8.encode (req.line writer)) =
      .ok (.node "" (JsonElement.childrenOf (req.toJson writer))) := by
  have newline : Utf8.encode "\n" = [Json.newline] := by decide
  rw [Json.fromText, line, Utf8.encode_append, newline,
    Json.clean_line (writer.getLast?_toString _), writer.readJson_toString]

theorem representable_toJson (req : NetworkRequest) :
    (Ptree.node "" (JsonElement.childrenOf (req.toJson writer))).Representable :=
  ⟨rfl, JsonElement.exclusive_childrenOf _⟩

theorem ofJson_login (sent : DateTime) (user : String) :
    ∃ time, Call.ofJson codecs (.node "" (JsonElement.childrenOf
        (toJson writer (.login { dateTime := sent, sender := user })))) =
      .ok (.visitLogin { dateTime := time, sender := user }) := by
  have params : Instance.extractFrom (.node "" (JsonElement.childrenOf
      (toJson writer (.login { dateTime := sent, sender := user })))) =
        some (Request.Login.type, .node "" (JsonElement.childrenOf
          (LoginRequest.toJsonTree writer { dateTime := sent, sender := user }))) := rfl
  obtain ⟨read, got⟩ := (codecs.getTime_isOk_iff _).mpr (writer.goesOn_printDateTime sent)
  refine ⟨read.getD 0, ?_⟩
  have fields : Request.Login.fromJson codecs (.node "" (JsonElement.childrenOf
      (LoginRequest.toJsonTree writer { dateTime := sent, sender := user }))) =
        .ok (some { dateTime := read.getD 0, sender := user }) := by
    refine (Request.Login.fromJson_eq_ok_iff codecs).mpr ?_
    exact (Instance.extractCommonParams_eq_ok_iff codecs).mpr
      ⟨_, _, read, rfl, rfl, got, rfl, rfl⟩
  rw [Call.ofJson_eq, params]
  simp only [if_pos, fields]
  rfl

theorem ofJson_message (sent : DateTime) (user content : String) :
    ∃ time, Call.ofJson codecs (.node "" (JsonElement.childrenOf
        (toJson writer (.message { dateTime := sent, sender := some user, content })))) =
      .ok (.visitMessage { dateTime := time, sender := user, content }) := by
  have params : Instance.extractFrom (.node "" (JsonElement.childrenOf
      (toJson writer (.message { dateTime := sent, sender := some user, content })))) =
        some (Request.Message.type, .node "" (JsonElement.childrenOf
          (MessageRequest.toJsonTree writer
            { dateTime := sent, sender := some user, content }))) := rfl
  obtain ⟨read, got⟩ := (codecs.getTime_isOk_iff _).mpr (writer.goesOn_printDateTime sent)
  refine ⟨read.getD 0, ?_⟩
  have fields : Request.Message.fromJson codecs (.node "" (JsonElement.childrenOf
      (MessageRequest.toJsonTree writer { dateTime := sent, sender := some user, content }))) =
        .ok (some { dateTime := read.getD 0, sender := user, content }) := by
    refine (Request.Message.fromJson_eq_ok_iff codecs).mpr ⟨?_, rfl⟩
    exact (Instance.extractCommonParams_eq_ok_iff codecs).mpr
      ⟨_, _, read, rfl, rfl, got, rfl, rfl⟩
  have other : Request.Message.type ≠ Request.Login.type := by decide
  rw [Call.ofJson_eq, params]
  simp only [if_neg other, if_pos, fields]
  rfl

end NetworkRequest

/-! A platform whose Gson escapes the solidus as Boost does, which makes no difference
to a text without one. -/

def Platform.escaping : Platform Codecs.compact :=
  { Platform.compact with
    toString := fun obj =>
      String.ofList (JsonText.printRoot (.node "" (JsonElement.childrenOf obj))) }

def GsonWriter.escaping : GsonWriter Platform.escaping where
  printDateTime time := ChronoIo.put (time * 1000000)
  goesOn_printDateTime time := Codecs.goesOn_put (time * 1000000)
  readJson_toString obj :=
    Compact.readJson_printRoot ⟨rfl, JsonElement.exclusive_childrenOf obj⟩
  getLast?_toString _ := Compact.getLast?_encode_printRoot _

def bobSays : NetworkRequest :=
  .message { dateTime := 0, sender := some "bob", content := "hi \x7d\n" }

example : Platform.escaping.toString (bobSays.toJson GsonWriter.escaping) =
    Platform.compact.toString (bobSays.toJson GsonWriter.escaping) := by decide +kernel

end AndroidMessenger.Client
