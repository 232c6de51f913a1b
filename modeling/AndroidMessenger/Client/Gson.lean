import AndroidMessenger.Library.JsonText
import AndroidMessenger.Msg.Codecs

namespace AndroidMessenger.Client

open Library Msg

inductive JavaExn where
  | jsonSyntaxException
  | nullPointerException
  | unsupportedOperationException
  | illegalArgumentException (message : String)
  | illegalStateException (message : String)
  deriving DecidableEq

/-- `com.google.gson.JsonElement`.  A primitive is kept as what `getAsString`
returns, and an object as the members of its text. -/
inductive JsonElement where
  | null
  | primitive (text : String)
  | array (elements : List JsonElement)
  | object (members : List (String × JsonElement))

abbrev JsonObject := List (String × JsonElement)

/-- `JsonObject.get`, where a later member replaces an earlier one. -/
def JsonObject.get (obj : JsonObject) (name : String) : Option JsonElement :=
  (obj.reverse.find? fun member => member.1 = name).map Prod.snd

namespace JsonElement

def getAsString : JsonElement → Except JavaExn String
  | .primitive text => .ok text
  | .array [.primitive text] => .ok text
  | .array _ => .error (.illegalStateException "")
  | .null => .error .unsupportedOperationException
  | .object _ => .error .unsupportedOperationException

mutual
/-- The element that Boost writes for a tree below the root. -/
def ofPtree : Ptree → JsonElement
  | .node data .nil => .primitive data
  | .node _ (.cons key child rest) =>
      if JsonText.allUnnamed (.cons key child rest) then
        .array (ofPtree child :: elementsOf rest)
      else .object ((key, ofPtree child) :: membersOf rest)

def elementsOf : Children → List JsonElement
  | .nil => []
  | .cons _ child rest => ofPtree child :: elementsOf rest

def membersOf : Children → List (String × JsonElement)
  | .nil => []
  | .cons key child rest => (key, ofPtree child) :: membersOf rest
end

end JsonElement

/-- `org.joda.time.DateTime`, in milliseconds. -/
abbrev DateTime := Int

/-- What the client takes from Gson, Joda and the class loader.  Gson reads a
text that Boost has written as Boost meant it, and the class loader knows the
classes of the application. -/
structure Platform (codecs : Codecs) where
  readObject : String → Option JsonObject
  readObject_writeJson : ∀ {tree pretty text}, codecs.writeJson tree pretty = some text →
    readObject text = some (JsonElement.membersOf tree.children)
  toString : JsonObject → String
  parseDateTime : String → Option DateTime
  forName : String → Bool
  forName_response : ∀ name ∈
    ["ca.uwo.eng.se3313.lab4.network.response.LoginResponse",
      "ca.uwo.eng.se3313.lab4.network.response.MessageResponse",
      "ca.uwo.eng.se3313.lab4.network.response.ServerError"], forName name = true

end AndroidMessenger.Client
