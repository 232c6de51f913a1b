import AndroidMessenger.Client.Gson
import AndroidMessenger.Msg.Compact

namespace AndroidMessenger.Client

open Library Msg

/-! A platform that runs, for the codecs that do. -/

namespace Compact

def quote (text : String) : List Char :=
  JsonText.quotationMark ::
    text.toList.flatMap (fun char => if char = '/' then ['/'] else JsonText.escape char) ++
      [JsonText.quotationMark]

mutual
def print : JsonElement → List Char
  | .null => ['n', 'u', 'l', 'l']
  | .primitive text => quote text
  | .array elements => '[' :: printElements elements
  | .object members => '{' :: printMembers members

def printElements : List JsonElement → List Char
  | [] => [']']
  | [element] => print element ++ [']']
  | element :: rest => print element ++ ',' :: printElements rest

def printMembers : List (String × JsonElement) → List Char
  | [] => ['}']
  | [(name, element)] => quote name ++ ':' :: print element ++ ['}']
  | (name, element) :: rest => quote name ++ ':' :: print element ++ ',' :: printMembers rest
end

def readObject (text : String) : Option JsonObject :=
  (JsonText.parseRoot text.toList).map fun tree => JsonElement.membersOf tree.children

theorem readObject_writeJson {tree : Ptree} {text : String}
    (written : Compact.writeJson tree = some text) :
    readObject text = some (JsonElement.membersOf tree.children) := by
  rw [readObject, Compact.parseRoot_writeJson written]
  rfl

theorem readObject_append {first second : Ptree} {left right : String}
    (hleft : Compact.writeJson first = some left)
    (hright : Compact.writeJson second = some right) :
    readObject (left ++ right) = none := by
  rw [readObject, Compact.parseRoot_writeJson_append hleft hright]
  rfl

/-- The text is read as the server does it. -/
def parseDateTime (text : String) : Option DateTime :=
  match Codecs.compact.getTime text with
  | .ok (some time) => some (time / 1000000)
  | _ => none

def classNames : List String :=
  ["ca.uwo.eng.se3313.lab4.network.request.LoginRequest",
    "ca.uwo.eng.se3313.lab4.network.request.MessageRequest",
    "ca.uwo.eng.se3313.lab4.network.response.LoginResponse",
    "ca.uwo.eng.se3313.lab4.network.response.MessageResponse",
    "ca.uwo.eng.se3313.lab4.network.response.ServerError"]

end Compact

def Platform.compact : Platform Codecs.compact where
  readObject := Compact.readObject
  readObject_writeJson := Compact.readObject_writeJson
  toString obj := String.ofList (Compact.print (.object obj))
  parseDateTime := Compact.parseDateTime
  forName name := Compact.classNames.contains name
  forName_response := by decide

theorem Platform.parseDateTime_compact :
    Platform.compact.parseDateTime = Compact.parseDateTime := rfl

end AndroidMessenger.Client
