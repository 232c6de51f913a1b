import AndroidMessenger.Msg.AbstractVisitor
import AndroidMessenger.Msg.Request

namespace AndroidMessenger.Msg

open Library

/-- The virtual methods of `request::abstract_message_visitor`, each of which
may change the state of the object it is called on. -/
structure RequestVisitor (State Result : Type) where
  visitLogin : Request.Login → State → Result × State
  visitMessage : Request.Message → State → Result × State
  error : String → ErrorCode → String → State → Result × State

namespace RequestVisitor

variable {State Result : Type} (codecs : Codecs)
  (visitor : RequestVisitor State Result)

def onError (type : String) (json : Ptree) (state : State) :
    Except Exn (Result × State) := do
  let text ← Json.toText codecs json false
  return visitor.error Instance.unknownSender ErrorCode.malformedRequestBadObjectDef
    ("Object was incorrectly defined for " ++ type ++ ", json=" ++ text) state

/-- The closure that the constructor stores for one type. -/
def propMapEntry {Req : Type} (fromJson : Codecs → Ptree → Except Exn (Option Req))
    (visitReq : Req → State → Result × State) (type : String)
    (json : Ptree) (state : State) : Except Exn (Result × State) := do
  match ← fromJson codecs json with
  | some oVal => return visitReq oVal state
  | none => visitor.onError codecs type json state

def propMap (type : String) : Option (Ptree → State → Except Exn (Result × State)) :=
  if type = Request.Login.type then
    some (visitor.propMapEntry codecs Request.Login.fromJson visitor.visitLogin "login")
  else if type = Request.Message.type then
    some (visitor.propMapEntry codecs Request.Message.fromJson visitor.visitMessage
      "message")
  else none

def visit (json : Ptree) (state : State) : Except Exn (Result × State) :=
  match Instance.extractFrom json with
  | none => do
      let text ← Json.toText codecs json false
      return visitor.error Instance.unknownSender ErrorCode.malformedRequestNoType
        ("Invalid request specified (json=\"" ++ text ++ "\")") state
  | some (type, obj) =>
      match visitor.propMap codecs type with
      | some visitEntry => visitEntry obj state
      | none =>
          .ok (visitor.error Instance.unknownSender ErrorCode.malformedRequestNoType
            ("Invalid object type tag specified (type=\"" ++ type ++ "\")") state)

theorem visit_eq_abstract (json : Ptree) (state : State) :
    visitor.visit codecs json state =
      AbstractVisitor.visit codecs visitor.error (visitor.propMap codecs)
        "Invalid request specified (json=\"" json state := rfl

theorem propMap_eq_none_iff (type : String) :
    visitor.propMap codecs type = none ↔
      type ≠ Request.Login.type ∧ type ≠ Request.Message.type := by
  unfold propMap
  split
  · rename_i login
    simp [login]
  · rename_i login
    split
    · rename_i message
      simp [message]
    · rename_i message
      simp [login, message]

end RequestVisitor

/-- One call of a visitor method, with its arguments. -/
inductive Call where
  | visitLogin (req : Request.Login)
  | visitMessage (req : Request.Message)
  | error (originator : String) (code : ErrorCode) (message : String)
  deriving DecidableEq

namespace Call

variable {State Result : Type}

def dispatch (visitor : RequestVisitor State Result) (state : State) :
    Call → Result × State
  | .visitLogin req => visitor.visitLogin req state
  | .visitMessage req => visitor.visitMessage req state
  | .error originator code message => visitor.error originator code message state

def recorder : RequestVisitor Unit Call where
  visitLogin req state := (.visitLogin req, state)
  visitMessage req state := (.visitMessage req, state)
  error originator code message state := (.error originator code message, state)

/-- The method that `visit` calls on a tree, or the exception it throws first. -/
def ofJson (codecs : Codecs) (json : Ptree) : Except Exn Call :=
  (recorder.visit codecs json ()).map Prod.fst

theorem visit_eq_dispatch (codecs : Codecs)
    (visitor : RequestVisitor State Result) (json : Ptree) (state : State) :
    visitor.visit codecs json state =
      (ofJson codecs json).map fun call => call.dispatch visitor state := by
  have maps : visitor.visit codecs json state =
      (recorder.visit codecs json ()).map fun result => result.1.dispatch visitor state := by
    rw [RequestVisitor.visit_eq_abstract, RequestVisitor.visit_eq_abstract]
    apply AbstractVisitor.visit_map (fun _ _ _ => rfl)
    intro type obj
    unfold RequestVisitor.propMap
    split
    · exact congrArg some (AbstractVisitor.propMapEntry_map (fun _ _ _ => rfl)
        Request.Login.fromJson (fun _ => rfl) "login" obj)
    · split
      · exact congrArg some (AbstractVisitor.propMapEntry_map (fun _ _ _ => rfl)
          Request.Message.fromJson (fun _ => rfl) "message" obj)
      · rfl
  rw [maps, ofJson]
  cases recorder.visit codecs json () <;> rfl

theorem ofJson_eq (codecs : Codecs) (json : Ptree) :
    ofJson codecs json =
      match Instance.extractFrom json with
      | none =>
          (Json.toText codecs json false).map fun text =>
            .error Instance.unknownSender ErrorCode.malformedRequestNoType
              ("Invalid request specified (json=\"" ++ text ++ "\")")
      | some (type, obj) =>
          if type = Request.Login.type then
            (Request.Login.fromJson codecs obj).bind fun
              | some req => .ok (.visitLogin req)
              | none => (recorder.onError codecs "login" obj ()).map Prod.fst
          else if type = Request.Message.type then
            (Request.Message.fromJson codecs obj).bind fun
              | some req => .ok (.visitMessage req)
              | none => (recorder.onError codecs "message" obj ()).map Prod.fst
          else
            .ok (.error Instance.unknownSender ErrorCode.malformedRequestNoType
              ("Invalid object type tag specified (type=\"" ++ type ++ "\")")) := by
  unfold ofJson RequestVisitor.visit
  cases Instance.extractFrom json with
  | none =>
      simp only [bind, Except.bind]
      cases Json.toText codecs json false <;> rfl
  | some params =>
      obtain ⟨type, obj⟩ := params
      simp only [RequestVisitor.propMap]
      by_cases hlogin : type = Request.Login.type
      · simp only [if_pos hlogin, RequestVisitor.propMapEntry]
        cases Request.Login.fromJson codecs obj with
        | error exn => rfl
        | ok value => cases value <;> rfl
      · by_cases hmessage : type = Request.Message.type
        · simp only [if_neg hlogin, if_pos hmessage, RequestVisitor.propMapEntry]
          cases Request.Message.fromJson codecs obj with
          | error exn => rfl
          | ok value => cases value <;> rfl
        · simp only [if_neg hlogin, if_neg hmessage]
          rfl

theorem ofJson_cases {codecs : Codecs} {json : Ptree} {call : Call}
    (h : ofJson codecs json = .ok call) :
    (∃ obj req, Instance.extractFrom json = some (Request.Login.type, obj) ∧
      Request.Login.fromJson codecs obj = .ok (some req) ∧ call = .visitLogin req) ∨
    (∃ obj req, Instance.extractFrom json = some (Request.Message.type, obj) ∧
      Request.Message.fromJson codecs obj = .ok (some req) ∧
        call = .visitMessage req) ∨
    (∃ text, call = .error Instance.unknownSender ErrorCode.malformedRequestNoType text ∧
      ∀ type obj, Instance.extractFrom json = some (type, obj) →
        type ≠ Request.Login.type ∧ type ≠ Request.Message.type) := by
  obtain ⟨result, visited, rfl⟩ := AbstractVisitor.exists_of_map_eq_ok h
  rcases AbstractVisitor.visit_cases visited with
    ⟨type, obj, visitEntry, params, entry, visited⟩ | ⟨absent, text, rfl⟩
  · unfold RequestVisitor.propMap at entry
    split at entry
    · left
      rename_i hlogin
      obtain rfl := Option.some.inj entry
      rcases AbstractVisitor.propMapEntry_cases visited with ⟨req, hreq, rfl⟩ | ⟨null, _⟩
      · exact ⟨obj, req, by rw [params, hlogin], hreq, rfl⟩
      · exact absurd null (Request.Login.fromJson_ne_null codecs obj)
    · split at entry
      · right
        left
        rename_i hmessage
        obtain rfl := Option.some.inj entry
        rcases AbstractVisitor.propMapEntry_cases visited with ⟨req, hreq, rfl⟩ | ⟨null, _⟩
        · exact ⟨obj, req, by rw [params, hmessage], hreq, rfl⟩
        · exact absurd null (Request.Message.fromJson_ne_null codecs obj)
      · cases entry
  · right
    right
    refine ⟨text, rfl, ?_⟩
    intro type obj params
    exact (RequestVisitor.propMap_eq_none_iff codecs recorder type).mp
      (absent type obj params)

end Call

/-- The object has the fields of the request that the type names, if it names one, and
its datetime does not break off. -/
def Decodable (codecs : Codecs) (json : Ptree) : Prop :=
  ∀ type obj, Instance.extractFrom json = some (type, obj) →
    (type = Request.Login.type →
      Request.HasCommonParams obj ∧ ¬ Instance.EndsAtSeconds codecs obj) ∧
    (type = Request.Message.type →
      (Request.HasCommonParams obj ∧ ¬ Instance.EndsAtSeconds codecs obj) ∧
        ∃ content, obj.find? Request.propertyContent = some content)

/-- On a tree with a JSON form `visit` returns unless a decoder misses a field or reads
past the end of the datetime. -/
theorem Call.ofJson_isOk_iff (codecs : Codecs) {json : Ptree}
    (hjson : json.Representable) :
    (∃ call, Call.ofJson codecs json = .ok call) ↔ Decodable codecs json := by
  constructor
  · intro given type obj hparams
    rcases given with ⟨call, hcall⟩
    rcases Call.ofJson_cases hcall with
      ⟨object, req, hobject, hreq, _⟩ | ⟨object, req, hobject, hreq, _⟩ | ⟨_, _, hother⟩
    · obtain ⟨rfl, rfl⟩ : Request.Login.type = type ∧ object = obj := by
        simpa [hparams] using hobject.symm
      exact ⟨fun _ => (Request.Login.fromJson_isOk_iff codecs object).mp ⟨req, hreq⟩,
        fun hsame => absurd hsame (by decide)⟩
    · obtain ⟨rfl, rfl⟩ : Request.Message.type = type ∧ object = obj := by
        simpa [hparams] using hobject.symm
      exact ⟨fun hsame => absurd hsame (by decide), fun _ =>
        (Request.Message.fromJson_isOk_iff codecs object).mp ⟨req, hreq⟩⟩
    · obtain ⟨hlogin, hmessage⟩ := hother type obj hparams
      exact ⟨fun hsame => absurd hsame hlogin, fun hsame => absurd hsame hmessage⟩
  · intro hdecodable
    rw [Call.ofJson_eq]
    cases hparams : Instance.extractFrom json with
    | none =>
        obtain ⟨text, htext⟩ := Json.exists_toText codecs hjson false
        simp [htext, Except.map]
    | some params =>
        obtain ⟨type, obj⟩ := params
        obtain ⟨hlogin, hmessage⟩ := hdecodable type obj hparams
        simp only
        split
        · rename_i hsame
          obtain ⟨req, hreq⟩ :=
            (Request.Login.fromJson_isOk_iff codecs obj).mpr (hlogin hsame)
          exact ⟨.visitLogin req, by simp [hreq, Except.bind]⟩
        · split
          · rename_i hsame
            obtain ⟨req, hreq⟩ :=
              (Request.Message.fromJson_isOk_iff codecs obj).mpr (hmessage hsame)
            exact ⟨.visitMessage req, by simp [hreq, Except.bind]⟩
          · exact ⟨_, rfl⟩

end AndroidMessenger.Msg
