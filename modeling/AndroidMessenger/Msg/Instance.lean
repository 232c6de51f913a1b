import AndroidMessenger.Msg.ChronoIo

namespace AndroidMessenger.Msg.Instance

open Library

def propertyType : String := "type"

def propertyObject : String := "object"

def propertySender : String := "sender"

def propertyDatetime : String := "datetime"

def serverSender : String := "@server"

def unknownSender : String := "@unknown"

def extractFrom (json : Ptree) : Option (String × Ptree) :=
  match json.find? propertyType with
  | none => none
  | some type =>
      match json.find? propertyObject with
      | none => none
      | some object => some (type.data, object)

/-- A value that the stream refuses leaves the caller's default constructed time
point. -/
def extractCommonParams (codecs : Codecs) (json : Ptree) :
    Except Exn (TimePoint × String) :=
  match json.find? propertyDatetime with
  | none => .error (codecs.dumpAndThrow json "Could not get datetime property.")
  | some datetime =>
      match json.find? propertySender with
      | none => .error (codecs.dumpAndThrow json "Could not get sender property.")
      | some sender =>
          (codecs.getTime datetime.data).map fun time => (time.getD 0, sender.data)

def baseJson (codecs : Codecs) (dateTime : TimePoint) (sender : String) : Ptree :=
  (Ptree.empty.put propertyDatetime (codecs.putTime dateTime)).put
    propertySender sender

def toJson (type : String) (subToJson : Ptree) : Ptree :=
  (Ptree.empty.put propertyType type).putChild propertyObject subToJson

/-- `instance::fromJson<T>`, with the decoder of `T`.  The null pointer is `none`. -/
def fromJson {T : Type} (decode : Ptree → Except Exn (Option T)) (json : Ptree) :
    Except Exn (Option T) :=
  match extractFrom json with
  | none => .ok none
  | some (_, obj) => decode obj

theorem extractFrom_eq_some_iff (json : Ptree) (type : String) (object : Ptree) :
    extractFrom json = some (type, object) ↔
      (json.find? propertyType).map Ptree.data = some type ∧
        json.find? propertyObject = some object := by
  unfold extractFrom
  cases json.find? propertyType <;> cases json.find? propertyObject <;> simp

@[simp] theorem extractFrom_toJson (type : String) (object : Ptree) :
    extractFrom (toJson type object) = some (type, object) := by
  rw [extractFrom_eq_some_iff]
  constructor
  · rw [toJson, Ptree.find?_putChild_of_ne _ _ (by decide)]
    exact Ptree.find?_put_self _ _ _
  · exact Ptree.find?_putChild_self _ _ _

theorem representable_toJson (type : String) {object : Ptree}
    (hdata : object.data = "") (hflat : object.children.flat = true) :
    (toJson type object).Representable := by
  have hobject : object.exclusive = true := by
    cases object with
    | node data children =>
        simp only [Ptree.data_node] at hdata
        simp only [Ptree.children_node] at hflat
        simp [Ptree.exclusive, hdata, Children.exclusive_of_flat hflat]
  refine ⟨rfl, ?_⟩
  apply Children.exclusive_putChild hobject
  exact Children.exclusive_of_flat (Children.flat_put _ _ rfl)

theorem flat_baseJson (codecs : Codecs) (dateTime : TimePoint) (sender : String) :
    (baseJson codecs dateTime sender).children.flat = true :=
  Children.flat_put _ _ (Children.flat_put _ _ rfl)

theorem extractCommonParams_eq_ok_iff (codecs : Codecs) {json : Ptree} {time : TimePoint}
    {sender : String} :
    extractCommonParams codecs json = .ok (time, sender) ↔
      ∃ datetimeNode senderNode read, json.find? propertyDatetime = some datetimeNode ∧
        json.find? propertySender = some senderNode ∧
          codecs.getTime datetimeNode.data = .ok read ∧ read.getD 0 = time ∧
            senderNode.data = sender := by
  unfold extractCommonParams
  cases json.find? propertyDatetime with
  | none => simp
  | some datetimeNode =>
      cases json.find? propertySender with
      | none => simp
      | some senderNode => cases got : codecs.getTime datetimeNode.data <;> simp [got, Except.map]

structure Carries (json : Ptree) (datetime sender : String) : Prop where
  datetime : (json.find? propertyDatetime).map Ptree.data = some datetime
  sender : (json.find? propertySender).map Ptree.data = some sender

theorem carries_baseJson (codecs : Codecs) (dateTime : TimePoint) (sender : String) :
    Carries (baseJson codecs dateTime sender) (codecs.putTime dateTime) sender where
  datetime := by
    rw [baseJson, Ptree.find?_put_of_ne _ _ (by decide)]
    exact Ptree.find?_put_self ..
  sender := Ptree.find?_put_self ..

theorem Carries.put {json : Ptree} {datetime sender : String}
    (carries : Carries json datetime sender) (key value : String)
    (notDatetime : key ≠ propertyDatetime) (notSender : key ≠ propertySender) :
    Carries (json.put key value) datetime sender where
  datetime := by
    rw [Ptree.find?_put_of_ne _ _ notDatetime]
    exact carries.datetime
  sender := by
    rw [Ptree.find?_put_of_ne _ _ notSender]
    exact carries.sender

theorem Carries.extractCommonParams (codecs : Codecs) {json : Ptree}
    {datetime sender : String} (carries : Carries json datetime sender) :
    extractCommonParams codecs json =
      (codecs.getTime datetime).map fun time => (time.getD 0, sender) := by
  obtain ⟨datetimeNode, hasDatetime, rfl⟩ := Option.map_eq_some_iff.mp carries.datetime
  obtain ⟨senderNode, hasSender, rfl⟩ := Option.map_eq_some_iff.mp carries.sender
  rw [Instance.extractCommonParams, hasDatetime, hasSender]

/-- The datetime breaks off behind its seconds. -/
def EndsAtSeconds (codecs : Codecs) (json : Ptree) : Prop :=
  ∃ datetime, json.find? propertyDatetime = some datetime ∧
    codecs.EndsAtSeconds datetime.data

theorem extractCommonParams_isOk_iff (codecs : Codecs) (json : Ptree) :
    (∃ params, extractCommonParams codecs json = .ok params) ↔
      ((∃ datetime, json.find? propertyDatetime = some datetime) ∧
        ∃ sender, json.find? propertySender = some sender) ∧
      ¬ EndsAtSeconds codecs json := by
  unfold extractCommonParams EndsAtSeconds
  cases json.find? propertyDatetime with
  | none => simp
  | some datetime =>
      cases json.find? propertySender with
      | none => simp
      | some sender =>
          have goesOn := codecs.getTime_isOk_iff datetime.data
          cases got : codecs.getTime datetime.data <;> simp_all [Except.map]

end AndroidMessenger.Msg.Instance
