import AndroidMessenger.Msg.Compact
import AndroidMessenger.Msg.MessageType

namespace AndroidMessenger.Msg.MessageType

open Library

/-! The times of decoded instances. -/

def ReportsFailure {T : Type} (result : Except Exn (Option T)) : Prop :=
  result = .ok none ∨ ∃ exn, result = .error exn ∧ exn ≠ .pastTheEnd

/-- A text that is not a timestamp is reported as a failure, and the time of an instance is
the one in the tree. -/
def TellsTime (codecs : Codecs) (T : MessageType) (obj : Ptree) : Prop :=
  (∀ datetime, obj.find? Instance.propertyDatetime = some datetime →
    (∀ time, codecs.getTime datetime.data ≠ .ok (some time)) →
      ReportsFailure (T.fromJson codecs obj)) ∧
  ∀ value, T.fromJson codecs obj = .ok (some value) →
    ∃ datetime, obj.find? Instance.propertyDatetime = some datetime ∧
      codecs.getTime datetime.data = .ok (some (T.dateTime value))

def HasTimestamp (codecs : Codecs) (obj : Ptree) : Prop :=
  ∃ datetime time, obj.find? Instance.propertyDatetime = some datetime ∧
    codecs.getTime datetime.data = .ok (some time)

variable (codecs : Codecs) (T : MessageType) {obj : Ptree}

theorem HasTimestamp.tellsTime (stamped : HasTimestamp codecs obj) :
    TellsTime codecs T obj := by
  obtain ⟨datetime, time, found, got⟩ := stamped
  constructor
  · intro other found' bad
    obtain rfl : datetime = other := by simpa [found] using found'
    exact absurd got (bad time)
  · intro value decoded
    obtain ⟨other, read, found', got', told⟩ := T.dateTime_of_fromJson codecs decoded
    obtain rfl : datetime = other := by simpa [found] using found'
    obtain rfl := Except.ok.inj (got'.symm.trans got)
    refine ⟨datetime, found, ?_⟩
    rw [told, got]
    rfl

theorem extractCommonParams_pastTheEnd_iff :
    Instance.extractCommonParams codecs obj = .error .pastTheEnd ↔
      Request.HasCommonParams obj ∧ Instance.EndsAtSeconds codecs obj := by
  have dumped : ∀ what, codecs.dumpAndThrow obj what ≠ .pastTheEnd := by
    intro what
    unfold Codecs.dumpAndThrow
    split <;> simp
  unfold Instance.extractCommonParams Request.HasCommonParams Instance.EndsAtSeconds
  cases obj.find? Instance.propertyDatetime with
  | none => simp [dumped]
  | some datetime =>
      cases obj.find? Instance.propertySender with
      | none => simp [dumped]
      | some sender =>
          have thrown := @codecs.getTime_eq_error_iff datetime.data .pastTheEnd
          cases got : codecs.getTime datetime.data <;> simp_all [Except.map]

theorem fromJson_pastTheEnd_iff :
    T.fromJson codecs obj = .error .pastTheEnd ↔
      Request.HasCommonParams obj ∧ Instance.EndsAtSeconds codecs obj := by
  rw [← extractCommonParams_pastTheEnd_iff codecs]
  cases T with
  | requestLogin =>
      change Request.Login.fromJson codecs obj = _ ↔ _
      unfold Request.Login.fromJson
      cases Instance.extractCommonParams codecs obj <;>
        simp [bind, Except.bind, pure, Except.pure]
  | requestMessage =>
      change Request.Message.fromJson codecs obj = _ ↔ _
      unfold Request.Message.fromJson
      cases Instance.extractCommonParams codecs obj <;>
        cases obj.find? Request.propertyContent <;>
          simp [bind, Except.bind, pure, Except.pure]
  | responseLogin =>
      change Response.Login.fromJson codecs obj = _ ↔ _
      unfold Response.Login.fromJson
      cases Instance.extractCommonParams codecs obj <;>
        cases obj.find? Response.Login.propertyJoiningUsername <;>
          simp [bind, Except.bind, pure, Except.pure]
  | responseMessage =>
      change Response.Message.fromJson codecs obj = _ ↔ _
      unfold Response.Message.fromJson
      cases Instance.extractCommonParams codecs obj with
      | error exn => simp [bind, Except.bind]
      | ok params =>
          cases obj.find? Response.Message.propertyContent <;>
            cases obj.find? Response.Message.propertyOriginator <;>
              simp [bind, Except.bind, pure, Except.pure]
  | responseError =>
      change Response.Error.fromJson codecs obj = _ ↔ _
      unfold Response.Error.fromJson
      cases Instance.extractCommonParams codecs obj with
      | error exn => simp [bind, Except.bind]
      | ok params =>
          cases obj.find? Response.Error.propertyCode with
          | none => simp [bind, Except.bind]
          | some code =>
              simp only [bind, Except.bind]
              cases codecs.getUInt16 code.data <;>
                cases obj.find? Response.Error.propertyMessage <;>
                  cases obj.find? Response.Error.propertyOriginator <;>
                    simp [pure, Except.pure]

theorem reportsFailure_iff :
    ReportsFailure (T.fromJson codecs obj) ↔
      (Request.HasCommonParams obj →
        ¬ T.HasOwnFields codecs obj ∧ ¬ Instance.EndsAtSeconds codecs obj) := by
  have decodes := T.fromJson_isSome_iff codecs obj
  have ends := @fromJson_pastTheEnd_iff codecs T obj
  rw [HasFields] at decodes
  cases result : T.fromJson codecs obj with
  | error exn =>
      have failed : ReportsFailure (.error exn : Except Exn (Option T.Value)) ↔
          exn ≠ .pastTheEnd := by simp [ReportsFailure]
      rw [failed]
      simp only [result, reduceCtorEq, exists_false, Except.error.injEq] at decodes ends
      rw [ne_eq, ends]
      tauto
  | ok read =>
      simp only [result, reduceCtorEq, false_iff, Except.ok.injEq] at decodes ends
      cases read with
      | none =>
          have failed : ReportsFailure (.ok none : Except Exn (Option T.Value)) := Or.inl rfl
          simp only [reduceCtorEq, exists_false] at decodes
          tauto
      | some value =>
          have decoded : ¬ ReportsFailure (.ok (some value) : Except Exn (Option T.Value)) := by
            simp [ReportsFailure]
          have fields := decodes.mp ⟨value, rfl⟩
          tauto

/-- The stream is never asked whether it took the text, so the times are right exactly
where a text is a timestamp or the decoder fails for another reason. -/
theorem tellsTime_iff (obj : Ptree) :
    TellsTime codecs T obj ↔
      (Request.HasCommonParams obj → HasTimestamp codecs obj ∨
        ¬ T.HasOwnFields codecs obj ∧ ¬ Instance.EndsAtSeconds codecs obj) := by
  constructor
  · intro tells common
    by_cases stamped : HasTimestamp codecs obj
    · exact Or.inl stamped
    · right
      obtain ⟨datetime, found⟩ := common.1
      have bad : ∀ time, codecs.getTime datetime.data ≠ .ok (some time) :=
        fun time got => stamped ⟨datetime, time, found, got⟩
      exact (reportsFailure_iff codecs T).mp (tells.1 datetime found bad) common
  · intro enough
    by_cases stamped : HasTimestamp codecs obj
    · exact stamped.tellsTime codecs T
    · have fails : ReportsFailure (T.fromJson codecs obj) :=
        (reportsFailure_iff codecs T).mpr fun common =>
          (enough common).resolve_left stamped
      refine ⟨fun _ _ _ => fails, fun value decoded => ?_⟩
      -- Nothing is decoded, so there is no time to be wrong.
      rw [decoded] at fails
      rcases fails with null | ⟨_, thrown, _⟩
      · cases null
      · cases thrown

/-- An object with the fields of every type, and no time. -/
def timeless : Ptree :=
  ((((((Ptree.empty.put Instance.propertyDatetime "").put
    Instance.propertySender "bob").put Request.propertyContent "hi").put
      Response.Login.propertyJoiningUsername "bob").put
        Response.Message.propertyOriginator "bob").put
          Response.Error.propertyCode "1").put Response.Error.propertyMessage "in use"

theorem timeless_decoded :
    (∀ T : MessageType, ∃ value, T.fromJson Codecs.compact timeless = .ok (some value) ∧
      T.dateTime value = 0) ∧
    ∀ T : MessageType, ¬ TellsTime Codecs.compact T timeless := by
  have bad : (timeless.find? Instance.propertyDatetime).map Ptree.data = some "" ∧
      Codecs.compact.getTime "" = .ok none := by decide +kernel
  obtain ⟨datetime, found, empty⟩ := Option.map_eq_some_iff.mp bad.1
  have decoded : ∀ T : MessageType,
      ∃ value, T.fromJson Codecs.compact timeless = .ok (some value) := by
    intro T
    rw [T.fromJson_isSome_iff]
    refine ⟨⟨⟨⟨datetime, found⟩, _, rfl⟩, ?_⟩, ?_⟩
    · cases T with
      | requestLogin => trivial
      | requestMessage => exact ⟨_, rfl⟩
      | responseLogin => exact ⟨_, rfl⟩
      | responseMessage => exact ⟨⟨_, rfl⟩, _, rfl⟩
      | responseError => exact ⟨⟨_, 1, rfl, by decide +kernel⟩, ⟨_, rfl⟩, _, rfl⟩
    · intro given
      rcases given with ⟨other, found', ends⟩
      obtain rfl : datetime = other := by simpa [found] using found'
      rw [empty] at ends
      exact (Codecs.compact.getTime_isOk_iff "").mp ⟨_, bad.2⟩ ends
  constructor
  · intro T
    obtain ⟨value, decoded⟩ := decoded T
    obtain ⟨other, read, found', got, told⟩ := T.dateTime_of_fromJson Codecs.compact decoded
    obtain rfl : datetime = other := by simpa [found] using found'
    rw [empty] at got
    obtain rfl := Except.ok.inj (got.symm.trans bad.2)
    exact ⟨value, decoded, told⟩
  · intro T tells
    obtain ⟨value, decoded⟩ := decoded T
    obtain ⟨other, found', got⟩ := tells.2 value decoded
    obtain rfl : datetime = other := by simpa [found] using found'
    rw [empty, bad.2] at got
    cases got

end AndroidMessenger.Msg.MessageType
