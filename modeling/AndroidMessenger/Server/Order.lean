import AndroidMessenger.Server.Delivery

namespace AndroidMessenger.Server

open Library Msg Networking

variable {codecs : Codecs}

/-! A listed socket has been written the last part of the responses. -/

theorem accepted_of_wrote (codecs : Codecs) (events : List Event) {ptr : SocketPtr}
    {text : String} {outcome : WriteOutcome}
    (wrote : .wrote ptr text outcome ∈ (machine codecs).trace events) :
    .accepted ptr ∈ (machine codecs).trace events := by
  obtain ⟨before, event, after, rfl, emitted⟩ := (machine codecs).exists_of_mem_trace wrote
  obtain ⟨_, inside⟩ := mem_emits emitted
  have listed := (answered_of_wrote inside).1
  rw [Machine.trace_append]
  exact List.mem_append_left _ (((registry codecs before).listed ptr).mp listed).1

theorem react_of_accepted {server : Server} {event : Event} {ptr : SocketPtr}
    (accepted : .accepted ptr ∈ (server.react codecs event).actions) :
    server.nextPtr = ptr ∧ (server.react codecs event).actions = [.accepted ptr] := by
  have effect := @effect_react codecs server event
  generalize server.react codecs event = reaction at effect accepted ⊢
  cases effect with
  | accepts fd =>
      cases List.mem_singleton.mp accepted
      exact ⟨rfl, rfl⟩
  | answers thrown visit dispatched same wrote =>
      rcases List.mem_cons.mp accepted with equality | inside
      · cases equality
      · obtain ⟨_, _, _, equality, _⟩ := wrote _ inside
        cases equality
  | removes registered same =>
      rcases mem_actions_removeSocketConnection _ _ accepted with equality | equality
      · cases equality
      · cases equality
  | exits =>
      obtain ⟨other, equality | equality⟩ := mem_actions_exit accepted
      · cases equality
      · cases equality
  | rests event thrown same => exact absurd accepted List.not_mem_nil

theorem exists_acceptance (codecs : Codecs) (events : List Event) {ptr : SocketPtr}
    (accepted : .accepted ptr ∈ (machine codecs).trace events) :
    ∃ before during, events = before ++ during ∧
      .accepted ptr ∈ (machine codecs).trace before ∧
      textsTo ptr ((machine codecs).trace before) = [] := by
  induction events using List.reverseRecOn with
  | nil => exact absurd accepted List.not_mem_nil
  | append_singleton events event ih =>
      have split := accepted
      rw [Machine.trace_concat, List.mem_append] at split
      rcases split with early | last
      · obtain ⟨before, during, rfl, given⟩ := ih early
        exact ⟨before, during ++ [event], by rw [List.append_assoc], given⟩
      · refine ⟨events ++ [event], [], (List.append_nil _).symm, accepted, ?_⟩
        obtain ⟨running, inside⟩ := mem_emits last
        obtain ⟨same, reaction⟩ := react_of_accepted inside
        rw [Machine.trace_concat, emits_of_running running, reaction]
        apply textsTo_eq_nil
        intro text outcome wrote
        have early : .wrote ptr text outcome ∈ (machine codecs).trace events := by
          simpa using wrote
        have fresh := (registry codecs events).fresh ptr (accepted_of_wrote codecs events early)
        rw [same] at fresh
        exact Nat.lt_irrefl _ fresh

theorem responses_append (first second : List Action) :
    responses (first ++ second) = responses first ++ responses second := by
  rw [responses, history_append, Group.published_append]
  rfl

theorem textsTo_suffix {events : List Event}
    (meets : (machine codecs).Meets (Orderly codecs) events) {ptr : SocketPtr}
    (listed : ptr ∈ ((machine codecs).run events).server.socketList) :
    textsTo ptr ((machine codecs).trace events) <:+
      (responses ((machine codecs).trace events)).map (wire codecs) := by
  obtain ⟨accepted, kept⟩ := ((registry codecs events).listed ptr).mp listed
  obtain ⟨before, during, rfl, accepted, none⟩ := exists_acceptance codecs events accepted
  have early : ptr ∈ ((machine codecs).run before).server.socketList := by
    refine ((registry codecs before).listed ptr).mpr ⟨accepted, ?_⟩
    intro removed
    apply kept
    rw [Machine.trace_append]
    exact List.mem_append_left _ removed
  rw [Machine.trace_append, textsTo_append, none, List.nil_append,
    textsTo_of_listed before meets early listed, responses_append, List.map_append]
  exact List.suffix_append _ _

theorem whole_of_orderly {events : List Event}
    (meets : (machine codecs).Meets (Orderly codecs) events) {ptr : SocketPtr}
    {text : String} {outcome : WriteOutcome}
    (wrote : .wrote ptr text outcome ∈ (machine codecs).trace events) : outcome = .whole := by
  obtain ⟨before, event, after, rfl, emitted⟩ := (machine codecs).exists_of_mem_trace wrote
  obtain ⟨_, inside⟩ := mem_emits emitted
  have effect := orderlyEffect_react (registry codecs before).waiter
    (opened_of_orderly meets.of_append) (meets before event after rfl)
  generalize ((machine codecs).run before).server.react codecs event = reaction
    at effect inside
  cases effect with
  | accepts fd => cases List.mem_singleton.mp inside
  | answers asker json res dispatched =>
      rcases List.mem_cons.mp inside with equality | written
      · cases equality
      · obtain ⟨other, _, equality⟩ := List.mem_map.mp written
        cases equality
        rfl
  | leaves listed sock => cases List.mem_singleton.mp inside
  | rests thrown => exact absurd inside List.not_mem_nil

end AndroidMessenger.Server
