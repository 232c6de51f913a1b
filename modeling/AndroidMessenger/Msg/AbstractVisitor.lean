import AndroidMessenger.Msg.Json
import AndroidMessenger.Msg.Response

namespace AndroidMessenger.Msg.AbstractVisitor

open Library

/-! `abstract_message_visitor` is written out twice, for requests and for responses.
The two differ in their methods, in their tables and in one text. -/

section Definitions

variable {State Result : Type} (codecs : Codecs)
  (error : String → ErrorCode → String → State → Result × State)

def onError (type : String) (json : Ptree) (state : State) :
    Except Exn (Result × State) := do
  let text ← Json.toText codecs json false
  return error Instance.unknownSender ErrorCode.malformedRequestBadObjectDef
    ("Object was incorrectly defined for " ++ type ++ ", json=" ++ text) state

/-- The closure that the constructor stores for one type. -/
def propMapEntry {T : Type} (fromJson : Codecs → Ptree → Except Exn (Option T))
    (visitT : T → State → Result × State) (type : String) (json : Ptree) (state : State) :
    Except Exn (Result × State) := do
  match ← fromJson codecs json with
  | some oVal => return visitT oVal state
  | none => onError codecs error type json state

def visit (propMap : String → Option (Ptree → State → Except Exn (Result × State)))
    (invalid : String) (json : Ptree) (state : State) : Except Exn (Result × State) :=
  match Instance.extractFrom json with
  | none => do
      let text ← Json.toText codecs json false
      return error Instance.unknownSender ErrorCode.malformedRequestNoType
        (invalid ++ text ++ "\")") state
  | some (type, obj) =>
      match propMap type with
      | some visitEntry => visitEntry obj state
      | none =>
          .ok (error Instance.unknownSender ErrorCode.malformedRequestNoType
            ("Invalid object type tag specified (type=\"" ++ type ++ "\")") state)

end Definitions

theorem exists_of_map_eq_ok {Value Image : Type} {image : Value → Image}
    {result : Except Exn Value} {value : Image} (mapped : result.map image = .ok value) :
    ∃ origin, result = .ok origin ∧ image origin = value := by
  cases result with
  | error exn => cases mapped
  | ok origin => exact ⟨origin, rfl, Except.ok.inj mapped⟩

/-! Two visitors whose methods correspond do corresponding things. -/

section Map

variable {State Result State' Result' : Type} {codecs : Codecs}
  {error : String → ErrorCode → String → State → Result × State}
  {error' : String → ErrorCode → String → State' → Result' × State'}
  {f : Result × State → Result' × State'} {state : State} {state' : State'}
  (onErrors : ∀ originator code message,
    error' originator code message state' = f (error originator code message state))

include onErrors

theorem onError_map (type : String) (json : Ptree) :
    onError codecs error' type json state' =
      (onError codecs error type json state).map f := by
  simp only [onError, bind, Except.bind]
  cases Json.toText codecs json false with
  | error exn => rfl
  | ok text => exact congrArg Except.ok (onErrors _ _ _)

theorem propMapEntry_map {T : Type} (fromJson : Codecs → Ptree → Except Exn (Option T))
    {visitT : T → State → Result × State} {visitT' : T → State' → Result' × State'}
    (onVisits : ∀ oVal, visitT' oVal state' = f (visitT oVal state)) (type : String)
    (json : Ptree) :
    propMapEntry codecs error' fromJson visitT' type json state' =
      (propMapEntry codecs error fromJson visitT type json state).map f := by
  simp only [propMapEntry, bind, Except.bind]
  cases fromJson codecs json with
  | error exn => rfl
  | ok value =>
      cases value with
      | none => exact onError_map onErrors type json
      | some oVal => exact congrArg Except.ok (onVisits oVal)

theorem visit_map
    {propMap : String → Option (Ptree → State → Except Exn (Result × State))}
    {propMap' : String → Option (Ptree → State' → Except Exn (Result' × State'))}
    (entries : ∀ type obj, (propMap' type).map (fun visitEntry => visitEntry obj state') =
      (propMap type).map fun visitEntry => (visitEntry obj state).map f)
    (invalid : String) (json : Ptree) :
    visit codecs error' propMap' invalid json state' =
      (visit codecs error propMap invalid json state).map f := by
  unfold visit
  cases Instance.extractFrom json with
  | none =>
      simp only [bind, Except.bind]
      cases Json.toText codecs json false with
      | error exn => rfl
      | ok text => exact congrArg Except.ok (onErrors _ _ _)
  | some params =>
      obtain ⟨type, obj⟩ := params
      have same := entries type obj
      cases left : propMap type with
      | none =>
          have right : propMap' type = none := by simpa [left] using same
          simp only [left, right]
          exact congrArg Except.ok (onErrors _ _ _)
      | some visitEntry =>
          simp only [left, Option.map_some, Option.map_eq_some_iff] at same
          obtain ⟨visitEntry', right, same⟩ := same
          simp only [left, right]
          exact same

end Map

/-! What a visit that does not throw comes from. -/

section Cases

variable {State Result : Type} {codecs : Codecs}
  {error : String → ErrorCode → String → State → Result × State}
  {json : Ptree} {state : State} {result : Result × State}

theorem propMapEntry_cases {T : Type} {fromJson : Codecs → Ptree → Except Exn (Option T)}
    {visitT : T → State → Result × State} {type : String}
    (visited : propMapEntry codecs error fromJson visitT type json state = .ok result) :
    (∃ oVal, fromJson codecs json = .ok (some oVal) ∧ result = visitT oVal state) ∨
      (fromJson codecs json = .ok none ∧ ∃ text, result =
        error Instance.unknownSender ErrorCode.malformedRequestBadObjectDef text state) := by
  simp only [propMapEntry, bind, Except.bind] at visited
  cases decoded : fromJson codecs json with
  | error exn => simp [decoded] at visited
  | ok value =>
      cases value with
      | some oVal =>
          left
          simp only [decoded, pure, Except.pure, Except.ok.injEq] at visited
          exact ⟨oVal, rfl, visited.symm⟩
      | none =>
          right
          simp only [decoded, onError, bind, Except.bind] at visited
          cases written : Json.toText codecs json false with
          | error exn => simp [written] at visited
          | ok text =>
              simp only [written, pure, Except.pure, Except.ok.injEq] at visited
              exact ⟨rfl, _, visited.symm⟩

theorem visit_cases
    {propMap : String → Option (Ptree → State → Except Exn (Result × State))}
    {invalid : String} (visited : visit codecs error propMap invalid json state = .ok result) :
    (∃ type obj visitEntry, Instance.extractFrom json = some (type, obj) ∧
      propMap type = some visitEntry ∧ visitEntry obj state = .ok result) ∨
    ((∀ type obj, Instance.extractFrom json = some (type, obj) → propMap type = none) ∧
      ∃ text, result =
        error Instance.unknownSender ErrorCode.malformedRequestNoType text state) := by
  unfold visit at visited
  cases params : Instance.extractFrom json with
  | none =>
      right
      simp only [params, bind, Except.bind] at visited
      cases written : Json.toText codecs json false with
      | error exn => simp [written] at visited
      | ok text =>
          simp only [written, pure, Except.pure, Except.ok.injEq] at visited
          exact ⟨by simp, _, visited.symm⟩
  | some given =>
      obtain ⟨type, obj⟩ := given
      simp only [params] at visited
      cases entry : propMap type with
      | some visitEntry =>
          left
          simp only [entry] at visited
          exact ⟨type, obj, visitEntry, rfl, entry, visited⟩
      | none =>
          right
          simp only [entry, Except.ok.injEq] at visited
          refine ⟨?_, _, visited.symm⟩
          intro other _ same
          obtain ⟨rfl, _⟩ : type = other ∧ obj = _ := by simpa using same
          exact entry

end Cases

end AndroidMessenger.Msg.AbstractVisitor
