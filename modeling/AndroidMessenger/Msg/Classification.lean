import AndroidMessenger.Msg.Compact
import AndroidMessenger.Msg.Visitor

namespace AndroidMessenger.Msg.Call

open Library

/-! The calls that the error codes ask for. -/

def HasParams (json : Ptree) (type : String) (obj : Ptree) : Prop :=
  (json.find? Instance.propertyType).map Ptree.data = some type ∧
    json.find? Instance.propertyObject = some obj

def IsRequestType (type : String) : Prop :=
  type = Request.Login.type ∨ type = Request.Message.type

/-- The fields that the decoder of a request type reads. -/
def HasFields (type : String) (obj : Ptree) : Prop :=
  Request.HasCommonParams obj ∧
    (type = Request.Message.type → ∃ content, obj.find? Request.propertyContent = some content)

/-- One case for each malformed request, and one for each request, with the fields of
the object as its arguments. -/
inductive Prescribed (codecs : Codecs) (json : Ptree) : Call → Prop where
  | noType (originator message : String)
      (missing : json.find? Instance.propertyType = none) :
      Prescribed codecs json (.error originator ErrorCode.malformedRequestNoType message)
  | noObj (originator message : String)
      (present : json.find? Instance.propertyType ≠ none)
      (missing : json.find? Instance.propertyObject = none) :
      Prescribed codecs json (.error originator ErrorCode.malformedRequestNoObj message)
  | unknownType (originator message : String) {type : String} {obj : Ptree}
      (params : HasParams json type obj) (unknown : ¬ IsRequestType type) :
      Prescribed codecs json
        (.error originator ErrorCode.malformedRequestUnknownType message)
  | badObjectDef (originator message : String) {type : String} {obj : Ptree}
      (params : HasParams json type obj) (known : IsRequestType type)
      (missing : ¬ HasFields type obj) :
      Prescribed codecs json
        (.error originator ErrorCode.malformedRequestBadObjectDef message)
  | login {obj datetime sender : Ptree} {read : Option TimePoint}
      (params : HasParams json Request.Login.type obj)
      (hasDatetime : obj.find? Instance.propertyDatetime = some datetime)
      (hasSender : obj.find? Instance.propertySender = some sender)
      (hasTime : codecs.getTime datetime.data = .ok read) :
      Prescribed codecs json (.visitLogin {
        dateTime := read.getD 0
        sender := sender.data })
  | message {obj datetime sender content : Ptree} {read : Option TimePoint}
      (params : HasParams json Request.Message.type obj)
      (hasDatetime : obj.find? Instance.propertyDatetime = some datetime)
      (hasSender : obj.find? Instance.propertySender = some sender)
      (hasContent : obj.find? Request.propertyContent = some content)
      (hasTime : codecs.getTime datetime.data = .ok read) :
      Prescribed codecs json (.visitMessage {
        dateTime := read.getD 0
        sender := sender.data
        content := content.data })

/-- `visit` calls one method, and that is the one prescribed. -/
def Classifies (codecs : Codecs) (json : Ptree) : Prop :=
  ∃ call, Prescribed codecs json call ∧
    ∀ (State Result : Type) (visitor : RequestVisitor State Result) (state : State),
      visitor.visit codecs json state = .ok (call.dispatch visitor state)

theorem classifies_iff_ofJson (codecs : Codecs) (json : Ptree) :
    Classifies codecs json ↔ ∃ call, Prescribed codecs json call ∧
      ofJson codecs json = .ok call := by
  constructor
  · intro given
    rcases given with ⟨call, prescribed, visits⟩
    refine ⟨call, prescribed, ?_⟩
    rw [ofJson, visits Unit Call recorder ()]
    cases call <;> rfl
  · intro given
    rcases given with ⟨call, prescribed, visits⟩
    refine ⟨call, prescribed, ?_⟩
    intro State Result visitor state
    rw [visit_eq_dispatch, visits]
    rfl

theorem hasParams_iff {json : Ptree} {type : String} {obj : Ptree} :
    HasParams json type obj ↔ Instance.extractFrom json = some (type, obj) :=
  (Instance.extractFrom_eq_some_iff json type obj).symm

theorem HasParams.unique {json : Ptree} {type type' : String} {obj obj' : Ptree}
    (left : HasParams json type obj) (right : HasParams json type' obj') :
    type = type' ∧ obj = obj' := by
  have same := left.1.symm.trans right.1
  have same' := left.2.symm.trans right.2
  exact ⟨Option.some.inj same, Option.some.inj same'⟩

/-- A request with all its fields, whose time can be read or refused. -/
def IsComplete (codecs : Codecs) (json : Ptree) : Prop :=
  ∃ type obj, HasParams json type obj ∧ IsRequestType type ∧ HasFields type obj ∧
    ¬ Instance.EndsAtSeconds codecs obj

theorem not_endsAtSeconds {codecs : Codecs} {obj datetime : Ptree} {read : Option TimePoint}
    (hasDatetime : obj.find? Instance.propertyDatetime = some datetime)
    (hasTime : codecs.getTime datetime.data = .ok read) :
    ¬ Instance.EndsAtSeconds codecs obj := by
  intro given
  rcases given with ⟨other, hasOther, ends⟩
  obtain rfl : datetime = other := by simpa [hasDatetime] using hasOther
  exact (codecs.getTime_isOk_iff datetime.data).mp ⟨read, hasTime⟩ ends

theorem Prescribed.isComplete {codecs : Codecs} {json : Ptree} {call : Call}
    (prescribed : Prescribed codecs json call) :
    (∀ originator code message, call ≠ .error originator code message) →
      IsComplete codecs json := by
  intro noError
  cases prescribed with
  | noType originator message missing => exact absurd rfl (noError _ _ _)
  | noObj originator message present missing => exact absurd rfl (noError _ _ _)
  | unknownType originator message params unknown => exact absurd rfl (noError _ _ _)
  | badObjectDef originator message params known missing => exact absurd rfl (noError _ _ _)
  | login params hasDatetime hasSender hasTime =>
      refine ⟨_, _, params, Or.inl rfl, ⟨⟨⟨_, hasDatetime⟩, ⟨_, hasSender⟩⟩, ?_⟩,
        not_endsAtSeconds hasDatetime hasTime⟩
      intro same
      exact absurd same (by decide)
  | message params hasDatetime hasSender hasContent hasTime =>
      exact ⟨_, _, params, Or.inr rfl,
        ⟨⟨⟨_, hasDatetime⟩, ⟨_, hasSender⟩⟩, fun _ => ⟨_, hasContent⟩⟩,
        not_endsAtSeconds hasDatetime hasTime⟩

theorem classifies_of_isComplete (codecs : Codecs) {json : Ptree}
    (complete : IsComplete codecs json) : Classifies codecs json := by
  obtain ⟨type, obj, params, known, fields, goesOn⟩ := complete
  obtain ⟨⟨⟨datetime, hasDatetime⟩, ⟨sender, hasSender⟩⟩, message⟩ := fields
  have timed : ¬ codecs.EndsAtSeconds datetime.data :=
    fun ends => goesOn ⟨datetime, hasDatetime, ends⟩
  obtain ⟨read, hasTime⟩ := (codecs.getTime_isOk_iff datetime.data).mpr timed
  rw [classifies_iff_ofJson]
  rcases known with rfl | rfl
  · refine ⟨_, Prescribed.login params hasDatetime hasSender hasTime, ?_⟩
    rw [ofJson_eq, hasParams_iff.mp params]
    simp [Request.Login.fromJson, Instance.extractCommonParams, hasDatetime, hasSender,
      hasTime, bind, Except.bind, pure, Except.pure, Except.map]
  · obtain ⟨content, hasContent⟩ := message rfl
    refine ⟨_, Prescribed.message params hasDatetime hasSender hasContent hasTime, ?_⟩
    have other : Request.Message.type ≠ Request.Login.type := by decide
    rw [ofJson_eq, hasParams_iff.mp params]
    simp [Request.Message.fromJson, Instance.extractCommonParams, hasDatetime, hasSender,
      hasContent, hasTime, bind, Except.bind, pure, Except.pure, Except.map, other]

theorem classifies_of_noType (codecs : Codecs) {json : Ptree}
    (missing : json.find? Instance.propertyType = none) :
    Classifies codecs json ↔ json.Representable := by
  have absent : Instance.extractFrom json = none := by simp [Instance.extractFrom, missing]
  rw [classifies_iff_ofJson, ofJson_eq, absent, ← codecs.writeJson_isSome json false]
  constructor
  · intro given
    rcases given with ⟨call, _, visits⟩
    cases written : codecs.writeJson json false with
    | none => simp [Json.toText, written, Except.map] at visits
    | some text => rfl
  · intro written
    obtain ⟨text, written⟩ := Option.isSome_iff_exists.mp written
    refine ⟨_, Prescribed.noType Instance.unknownSender
      ("Invalid request specified (json=\"" ++ text ++ "\")") missing, ?_⟩
    simp [Json.toText, written, Except.map]

theorem isComplete_of_classifies {codecs : Codecs} {json : Ptree}
    (classifies : Classifies codecs json)
    (present : json.find? Instance.propertyType ≠ none) : IsComplete codecs json := by
  obtain ⟨call, prescribed, visits⟩ := (classifies_iff_ofJson codecs json).mp classifies
  apply prescribed.isComplete
  intro originator code message same
  subst same
  rcases ofJson_cases visits with ⟨_, _, _, _, same⟩ | ⟨_, _, _, _, same⟩ |
    ⟨text, same, _⟩
  · cases same
  · cases same
  · -- Only a missing type prescribes the code that `visit` uses.
    obtain ⟨-, rfl, -⟩ : originator = _ ∧ code = _ ∧ message = _ := by simpa using same
    cases prescribed with
    | noType _ _ missing => exact present missing

/-- `visit` returns the prescribed classification exactly for the trees without a type
that have a JSON form and for complete requests. -/
theorem classifies_iff (codecs : Codecs) (json : Ptree) :
    Classifies codecs json ↔
      (json.find? Instance.propertyType = none ∧ json.Representable) ∨
      IsComplete codecs json := by
  constructor
  · intro classifies
    by_cases missing : json.find? Instance.propertyType = none
    · exact Or.inl ⟨missing, (classifies_of_noType codecs missing).mp classifies⟩
    · exact Or.inr (isComplete_of_classifies classifies missing)
  · intro given
    rcases given with ⟨missing, representable⟩ | complete
    · exact (classifies_of_noType codecs missing).mpr representable
    · exact classifies_of_isComplete codecs complete

/-! A login request without its object, one without a sender, and one whose time has no
zone. -/

def noObject : Ptree :=
  Ptree.empty.put Instance.propertyType Request.Login.type

def noSender : Ptree :=
  Instance.toJson Request.Login.type (Ptree.empty.put Instance.propertyDatetime "")

def noZone : Ptree :=
  Instance.toJson Request.Login.type ((Ptree.empty.put Instance.propertyDatetime
    "1970-01-01 00:00:00.000000").put Instance.propertySender "bob")

theorem malformed_requests_are_misclassified :
    (∃ message, ofJson Codecs.compact noObject = .ok (.error Instance.unknownSender
      ErrorCode.malformedRequestNoType message)) ∧
    ofJson Codecs.compact noSender =
      .error (.runtimeError "Could not get sender property.") ∧
    ofJson Codecs.compact noZone = .error .pastTheEnd ∧
    ¬ Classifies Codecs.compact noObject ∧ ¬ Classifies Codecs.compact noSender ∧
    ¬ Classifies Codecs.compact noZone := by
  have crashes : ofJson Codecs.compact noZone = .error .pastTheEnd := by decide +kernel
  refine ⟨⟨_, rfl⟩, by decide +kernel, crashes, ?_, ?_, ?_⟩
  · intro classifies
    obtain ⟨type, obj, params, _⟩ := isComplete_of_classifies classifies (by decide)
    have absent : noObject.find? Instance.propertyObject = none := by decide
    rw [HasParams, absent] at params
    cases params.2
  · intro classifies
    obtain ⟨type, obj, params, _, fields, _⟩ :=
      isComplete_of_classifies classifies (by decide)
    have here : HasParams noSender Request.Login.type
        (Ptree.empty.put Instance.propertyDatetime "") := ⟨by decide, by decide⟩
    obtain ⟨_, rfl⟩ := params.unique here
    obtain ⟨sender, hasSender⟩ := fields.1.2
    have absent : (Ptree.empty.put Instance.propertyDatetime "").find?
        Instance.propertySender = none := by decide
    rw [absent] at hasSender
    cases hasSender
  · intro classifies
    obtain ⟨call, _, visits⟩ := (classifies_iff_ofJson _ _).mp classifies
    rw [crashes] at visits
    cases visits

end AndroidMessenger.Msg.Call
