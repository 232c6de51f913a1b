import AndroidMessenger.Msg.Compact
import AndroidMessenger.Msg.MessageType
import AndroidMessenger.Msg.ResponseVisitor
import AndroidMessenger.Msg.Visitor

namespace AndroidMessenger.Msg

open Library

/-! The two ways from a tree to an instance: asking for a type, and visiting. -/

namespace ResponseVisitor.Call

theorem ofJson_cases {codecs : Codecs} {json : Ptree} {call : Call}
    (h : ofJson codecs json = .ok call) :
    (∃ obj res, Instance.extractFrom json = some (Response.Login.type, obj) ∧
      Response.Login.fromJson codecs obj = .ok (some res) ∧ call = .visitLogin res) ∨
    (∃ obj res, Instance.extractFrom json = some (Response.Message.type, obj) ∧
      Response.Message.fromJson codecs obj = .ok (some res) ∧ call = .visitMessage res) ∨
    ∃ code text, call = .error Instance.unknownSender code text := by
  obtain ⟨result, visited, rfl⟩ := AbstractVisitor.exists_of_map_eq_ok h
  rcases AbstractVisitor.visit_cases visited with
    ⟨type, obj, visitEntry, params, entry, visited⟩ | ⟨_, text, rfl⟩
  · unfold propMap at entry
    split at entry
    · rename_i login
      obtain rfl := Option.some.inj entry
      rcases AbstractVisitor.propMapEntry_cases visited with
        ⟨res, decoded, rfl⟩ | ⟨_, text, rfl⟩
      · exact Or.inl ⟨obj, res, by rw [params, login], decoded, rfl⟩
      · exact Or.inr (Or.inr ⟨_, text, rfl⟩)
    · split at entry
      · rename_i message
        obtain rfl := Option.some.inj entry
        rcases AbstractVisitor.propMapEntry_cases visited with
          ⟨res, decoded, rfl⟩ | ⟨_, text, rfl⟩
        · exact Or.inr (Or.inl ⟨obj, res, by rw [params, message], decoded, rfl⟩)
        · exact Or.inr (Or.inr ⟨_, text, rfl⟩)
      · cases entry
  · exact Or.inr (Or.inr ⟨_, text, rfl⟩)

end ResponseVisitor.Call

namespace MessageType

/-- `instance::fromJson<T>`. -/
def instanceFromJson (codecs : Codecs) (T : MessageType) (json : Ptree) :
    Except Exn (Option T.Value) :=
  Instance.fromJson (T.fromJson codecs) json

def IsTagged (T : MessageType) (json : Ptree) : Prop :=
  ∃ obj, Instance.extractFrom json = some (T.type, obj)

/-- The type field is `T::TYPE` and the object has the fields of `T`. -/
def IsA (codecs : Codecs) (T : MessageType) (json : Ptree) : Prop :=
  ∃ obj, Instance.extractFrom json = some (T.type, obj) ∧ T.HasFields codecs obj

/-- The visitor calls the callback of `T` with the fields of an instance.  The callback
for errors also reports trees of other types, which is no call for an error. -/
def Calls (codecs : Codecs) (json : Ptree) : (T : MessageType) → T.Value → Prop
  | .requestLogin, req => Call.ofJson codecs json = .ok (.visitLogin req)
  | .requestMessage, req => Call.ofJson codecs json = .ok (.visitMessage req)
  | .responseLogin, res => ResponseVisitor.Call.ofJson codecs json = .ok (.visitLogin res)
  | .responseMessage, res =>
      ResponseVisitor.Call.ofJson codecs json = .ok (.visitMessage res)
  | .responseError, res =>
      responseError.IsTagged json ∧ ResponseVisitor.Call.ofJson codecs json =
        .ok (.error res.originator res.errorCode res.message)

/-- An instance comes out exactly for the trees of the type, exactly when the visitor
calls its callback, and with the same fields. -/
def Agrees (codecs : Codecs) (T : MessageType) (json : Ptree) : Prop :=
  ((∃ value, T.instanceFromJson codecs json = .ok (some value)) ↔ T.IsA codecs json) ∧
  ((∃ value, Calls codecs json T value) ↔ T.IsA codecs json) ∧
  ∀ value, T.instanceFromJson codecs json = .ok (some value) → Calls codecs json T value

/-- The object of an error that says what the visitor reports about every error. -/
def SaysUnknown (codecs : Codecs) (obj : Ptree) : Prop :=
  Request.HasCommonParams obj ∧
    (obj.find? Response.Error.propertyOriginator).map Ptree.data =
      some Instance.unknownSender ∧
    (obj.find? Response.Error.propertyCode).bind (fun code => codecs.getUInt16 code.data) =
      some ErrorCode.malformedRequestNoType.value ∧
    (obj.find? Response.Error.propertyMessage).map Ptree.data =
      some ("Invalid object type tag specified (type=\"" ++ Response.Error.type ++ "\")")

/-- The fields of `T` are there under the type of `T` with a datetime that does not break
off, and under other types with one that does; those of an error are there only if they
are what the visitor reports anyhow. -/
def FieldsFollowType (codecs : Codecs) (T : MessageType) (json : Ptree) : Prop :=
  ∀ type obj, Instance.extractFrom json = some (type, obj) →
    (T.HasFields codecs obj → (type = T.type ↔ ¬ Instance.EndsAtSeconds codecs obj)) ∧
    (T = .responseError → type = T.type → SaysUnknown codecs obj)

section Agreement

variable (codecs : Codecs) (T : MessageType) {json obj : Ptree} {type : String}

theorem instanceFromJson_isSome_iff
    (params : Instance.extractFrom json = some (type, obj)) :
    (∃ value, T.instanceFromJson codecs json = .ok (some value)) ↔
      T.HasFields codecs obj ∧ ¬ Instance.EndsAtSeconds codecs obj := by
  rw [← T.fromJson_isSome_iff codecs obj, instanceFromJson, Instance.fromJson, params]

theorem isA_iff (params : Instance.extractFrom json = some (type, obj)) :
    T.IsA codecs json ↔ type = T.type ∧ T.HasFields codecs obj := by
  simp [IsA, params, and_assoc]

theorem decoded_of_calls (own : T ≠ .responseError) {value : T.Value}
    (calls : Calls codecs json T value) :
    ∃ obj, Instance.extractFrom json = some (T.type, obj) ∧
      T.fromJson codecs obj = .ok (some value) := by
  cases T with
  | requestLogin =>
      rcases Call.ofJson_cases calls with
        ⟨obj, req, params, decoded, same⟩ | ⟨_, _, _, _, same⟩ | ⟨_, same, _⟩
      · obtain rfl := Call.visitLogin.inj same
        exact ⟨obj, params, decoded⟩
      · cases same
      · cases same
  | requestMessage =>
      rcases Call.ofJson_cases calls with
        ⟨_, _, _, _, same⟩ | ⟨obj, req, params, decoded, same⟩ | ⟨_, same, _⟩
      · cases same
      · obtain rfl := Call.visitMessage.inj same
        exact ⟨obj, params, decoded⟩
      · cases same
  | responseLogin =>
      rcases ResponseVisitor.Call.ofJson_cases calls with
        ⟨obj, res, params, decoded, same⟩ | ⟨_, _, _, _, same⟩ | ⟨_, _, same⟩
      · obtain rfl := ResponseVisitor.Call.visitLogin.inj same
        exact ⟨obj, params, decoded⟩
      · cases same
      · cases same
  | responseMessage =>
      rcases ResponseVisitor.Call.ofJson_cases calls with
        ⟨_, _, _, _, same⟩ | ⟨obj, res, params, decoded, same⟩ | ⟨_, _, same⟩
      · cases same
      · obtain rfl := ResponseVisitor.Call.visitMessage.inj same
        exact ⟨obj, params, decoded⟩
      · cases same
  | responseError => exact absurd rfl own

theorem calls_of_decoded (own : T ≠ .responseError)
    (params : Instance.extractFrom json = some (T.type, obj)) {value : T.Value}
    (decoded : T.fromJson codecs obj = .ok (some value)) :
    Calls codecs json T value := by
  cases T with
  | requestLogin =>
      have decoded : Request.Login.fromJson codecs obj = .ok (some value) := decoded
      rw [Calls, Call.ofJson_eq, params]
      simp [type, decoded, Except.bind]
  | requestMessage =>
      have decoded : Request.Message.fromJson codecs obj = .ok (some value) := decoded
      have other : Request.Message.type ≠ Request.Login.type := by decide
      rw [Calls, Call.ofJson_eq, params]
      simp [type, decoded, other, Except.bind]
  | responseLogin => exact ResponseVisitor.Call.ofJson_login params decoded
  | responseMessage => exact ResponseVisitor.Call.ofJson_message params decoded
  | responseError => exact absurd rfl own

theorem isTagged_of_calls {value : T.Value} (calls : Calls codecs json T value) :
    T.IsTagged json := by
  by_cases own : T = .responseError
  · subst own
    exact calls.1
  · obtain ⟨obj, params, _⟩ := T.decoded_of_calls codecs own calls
    exact ⟨obj, params⟩

theorem agrees_of_own (own : T ≠ .responseError)
    (params : Instance.extractFrom json = some (T.type, obj)) :
    Agrees codecs T json ↔
      (T.HasFields codecs obj → ¬ Instance.EndsAtSeconds codecs obj) := by
  have accepted := T.instanceFromJson_isSome_iff codecs params
  have fields : T.IsA codecs json ↔ T.HasFields codecs obj := by
    simp [isA_iff codecs T params]
  have calls : ∀ value, Calls codecs json T value ↔
      T.fromJson codecs obj = .ok (some value) := by
    intro value
    constructor
    · intro called
      obtain ⟨other, params', decoded⟩ := T.decoded_of_calls codecs own called
      obtain rfl : obj = other := by simpa [params] using params'
      exact decoded
    · exact T.calls_of_decoded codecs own params
  have called : (∃ value, Calls codecs json T value) ↔
      T.HasFields codecs obj ∧ ¬ Instance.EndsAtSeconds codecs obj := by
    rw [← T.fromJson_isSome_iff codecs obj]
    exact exists_congr calls
  have same : ∀ value, T.instanceFromJson codecs json = .ok (some value) →
      Calls codecs json T value := by
    intro value decoded
    rw [instanceFromJson, Instance.fromJson, params] at decoded
    exact (calls value).mpr decoded
  rw [Agrees, accepted, called, fields]
  constructor
  · intro agrees complete
    exact (agrees.1.mpr complete).2
  · intro goesOn
    have both : T.HasFields codecs obj ∧ ¬ Instance.EndsAtSeconds codecs obj ↔
        T.HasFields codecs obj := and_iff_left_of_imp goesOn
    exact ⟨both, both, same⟩

theorem saysUnknown_iff :
    SaysUnknown codecs obj ∧ ¬ Instance.EndsAtSeconds codecs obj ↔
    ∃ res, Response.Error.fromJson codecs obj = .ok (some res) ∧
      ResponseVisitor.LooksUnknown res := by
  constructor
  · intro given
    rcases given with ⟨⟨common, orig, code, msg⟩, goesOn⟩
    obtain ⟨⟨time, sender⟩, params⟩ :=
      (Instance.extractCommonParams_isOk_iff codecs obj).mpr ⟨common, goesOn⟩
    refine ⟨⟨time, sender, _, ⟨_⟩, _⟩, ?_, rfl⟩
    exact (Response.Error.fromJson_eq_ok_iff codecs).mpr ⟨params, code, msg, orig⟩
  · intro given
    rcases given with ⟨res, decoded, looks⟩
    obtain ⟨params, code, msg, orig⟩ := (Response.Error.fromJson_eq_ok_iff codecs).mp decoded
    obtain ⟨sameOrig, sameCode, sameMsg⟩ := ResponseVisitor.Call.error.inj looks
    obtain ⟨common, goesOn⟩ :=
      (Instance.extractCommonParams_isOk_iff codecs obj).mp ⟨_, params⟩
    refine ⟨⟨common, ?_, ?_, ?_⟩, goesOn⟩
    · rw [orig, ← sameOrig]
    · rw [code, ← sameCode]
    · rw [msg, ← sameMsg]

theorem SaysUnknown.hasFields (unknown : SaysUnknown codecs obj) :
    responseError.HasFields codecs obj := by
  obtain ⟨common, orig, code, msg⟩ := unknown
  obtain ⟨origNode, hasOrig, _⟩ := Option.map_eq_some_iff.mp orig
  obtain ⟨codeNode, hasCode, number⟩ := Option.bind_eq_some_iff.mp code
  obtain ⟨msgNode, hasMsg, _⟩ := Option.map_eq_some_iff.mp msg
  exact ⟨common, ⟨codeNode, _, hasCode, number⟩, ⟨msgNode, hasMsg⟩, origNode, hasOrig⟩

theorem agrees_error_iff
    (params : Instance.extractFrom json = some (Response.Error.type, obj)) :
    Agrees codecs .responseError json ↔
      SaysUnknown codecs obj ∧ ¬ Instance.EndsAtSeconds codecs obj := by
  have reported := @ResponseVisitor.Call.ofJson_error codecs _ _ params
  have calls : ∀ res : Response.Error, Calls codecs json .responseError res ↔
      ResponseVisitor.LooksUnknown res := by
    intro res
    simp only [Calls, reported, Except.ok.injEq, ResponseVisitor.LooksUnknown]
    exact and_iff_right ⟨obj, params⟩
  have always : ∃ res : Response.Error, Calls codecs json .responseError res :=
    ⟨⟨0, "", _, _, _⟩, (calls _).mpr rfl⟩
  rw [saysUnknown_iff]
  constructor
  · intro agrees
    obtain ⟨value, accepted⟩ := agrees.1.mpr (agrees.2.1.mp always)
    refine ⟨value, ?_, (calls value).mp (agrees.2.2 value accepted)⟩
    rw [instanceFromJson, Instance.fromJson, params] at accepted
    exact accepted
  · intro given
    rcases given with ⟨res, decoded, looks⟩
    have accepted := responseError.instanceFromJson_isSome_iff codecs params
    have fields : responseError.IsA codecs json :=
      (isA_iff codecs .responseError params).mpr
        ⟨rfl, ((fromJson_isSome_iff codecs .responseError obj).mp ⟨res, decoded⟩).1⟩
    refine ⟨⟨fun _ => fields, fun _ => ?_⟩, ⟨fun _ => fields, fun _ => always⟩, ?_⟩
    · exact accepted.mpr ((fromJson_isSome_iff codecs .responseError obj).mp ⟨res, decoded⟩)
    · intro value accepted
      rw [instanceFromJson, Instance.fromJson, params] at accepted
      obtain rfl := Option.some.inj (Except.ok.inj (accepted.symm.trans decoded))
      exact (calls value).mpr looks

theorem agrees_of_other (params : Instance.extractFrom json = some (type, obj))
    (other : type ≠ T.type) :
    Agrees codecs T json ↔
      ¬ (T.HasFields codecs obj ∧ ¬ Instance.EndsAtSeconds codecs obj) := by
  have isNot : ¬ T.IsA codecs json := by simp [isA_iff codecs T params, other]
  have uncalled : ∀ value, ¬ Calls codecs json T value := by
    intro value calls
    obtain ⟨obj', params'⟩ := T.isTagged_of_calls codecs calls
    rw [params] at params'
    exact other (by simpa using congrArg (Option.map Prod.fst) params')
  rw [← T.instanceFromJson_isSome_iff codecs params]
  constructor
  · intro agrees accepted
    exact isNot (agrees.1.mp accepted)
  · intro rejected
    refine ⟨⟨fun accepted => absurd accepted rejected, fun is => absurd is isNot⟩,
      ⟨fun calls => ?_, fun is => absurd is isNot⟩, ?_⟩
    · obtain ⟨value, calls⟩ := calls
      exact absurd calls (uncalled value)
    · intro value accepted
      exact absurd ⟨value, accepted⟩ rejected

theorem agrees_of_none (params : Instance.extractFrom json = none) :
    Agrees codecs T json := by
  have isNot : ¬ T.IsA codecs json := by simp [IsA, params]
  have rejected : ∀ value, T.instanceFromJson codecs json ≠ .ok (some value) := by
    simp [instanceFromJson, Instance.fromJson, params]
  have uncalled : ∀ value, ¬ Calls codecs json T value := by
    intro value calls
    obtain ⟨obj, tagged⟩ := T.isTagged_of_calls codecs calls
    simp [params] at tagged
  simp [Agrees, isNot, rejected, uncalled]

/-- The two ways agree on a tree exactly when its fields follow its type. -/
theorem agrees_iff (json : Ptree) :
    Agrees codecs T json ↔ FieldsFollowType codecs T json := by
  unfold FieldsFollowType
  cases params : Instance.extractFrom json with
  | none => simp [agrees_of_none codecs T params]
  | some given =>
      obtain ⟨type, obj⟩ := given
      have here : (∀ type' obj', some (type, obj) = some (type', obj') →
          (T.HasFields codecs obj' →
            (type' = T.type ↔ ¬ Instance.EndsAtSeconds codecs obj')) ∧
          (T = .responseError → type' = T.type → SaysUnknown codecs obj')) ↔
          (T.HasFields codecs obj → (type = T.type ↔ ¬ Instance.EndsAtSeconds codecs obj)) ∧
          (T = .responseError → type = T.type → SaysUnknown codecs obj) := by
        constructor
        · intro all
          exact all type obj rfl
        · intro one type' obj' same
          obtain ⟨rfl, rfl⟩ : type = type' ∧ obj = obj' := by simpa using same
          exact one
      rw [here]
      by_cases tag : type = T.type
      · by_cases own : T = .responseError
        · subst own tag
          have fields := @SaysUnknown.hasFields codecs obj
          rw [agrees_error_iff codecs params]
          simp only [true_iff, true_implies]
          tauto
        · subst tag
          simp [agrees_of_own codecs T own params, own]
      · simp [agrees_of_other codecs T params tag, tag]

/-! A message that is taken for a login. -/

def greeting : Request.Message where
  dateTime := 1480287903250000000
  sender := "bob"
  content := "hi"

theorem greeting_accepted_as_login :
    instanceFromJson Codecs.compact .requestLogin (greeting.toJson Codecs.compact) =
      .ok (some { dateTime := 1480287903250000000, sender := "bob" }) ∧
    ¬ Agrees Codecs.compact .requestLogin (greeting.toJson Codecs.compact) := by
  have accepted :
      instanceFromJson Codecs.compact .requestLogin (greeting.toJson Codecs.compact) =
        .ok (some { dateTime := 1480287903250000000, sender := "bob" }) := by
    decide +kernel
  refine ⟨accepted, ?_⟩
  intro agrees
  obtain ⟨obj, params, _⟩ := agrees.1.mp ⟨_, accepted⟩
  rw [Request.Message.toJson, Instance.extractFrom_toJson] at params
  have same := congrArg Prod.fst (Option.some.inj params)
  exact absurd same (by decide : Request.Message.type ≠ requestLogin.type)

end Agreement

end MessageType

end AndroidMessenger.Msg
