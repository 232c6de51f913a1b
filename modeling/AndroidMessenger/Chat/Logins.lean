import AndroidMessenger.Chat.Broadcast
import AndroidMessenger.Client.RoomFragment

namespace AndroidMessenger.Chat

open Library Msg Networking Client

variable {codecs : Codecs} {platform : Platform codecs}

/-! A client gets the login response of a name once at most. -/

theorem length_textsTo_wrote (head ptr : SocketPtr) (text : String) (outcome : WriteOutcome)
    (tail : List Action) :
    (textsTo (.wrote head text outcome :: tail) ptr).length ≤
      (textsTo tail ptr).length + if head = ptr then 1 else 0 := by
  cases outcome with
  | whole =>
      by_cases same : head = ptr
      · simp [textsTo, same]
      · simp [textsTo, same]
  | failed => exact Nat.le_add_right ..
  | short count => exact Nat.le_add_right ..

theorem length_textsTo_writeLoop (json : Ptree) (writes : Nat → WriteOutcome)
    (ptr : SocketPtr) (i : Nat) (list : List SocketPtr) (server : Server) :
    (textsTo (Server.writeLoop codecs json writes i list server).actions ptr).length ≤
      list.count ptr := by
  induction list generalizing i server with
  | nil => exact Nat.zero_le _
  | cons head rest ih =>
      unfold Server.writeLoop
      cases Json.toText codecs json false with
      | error exn => exact Nat.zero_le _
      | ok text =>
          simp only
          cases (server.heap head).write (Utf8.encode text) (writes i) with
          | error exn => exact Nat.zero_le _
          | ok result =>
              rw [List.count_cons]
              have first := length_textsTo_wrote head ptr text (writes i)
                (Server.writeLoop codecs json writes (i + 1) rest
                  (server.setSocket head result.2)).actions
              have later := ih (i + 1) (server.setSocket head result.2)
              simp only [beq_iff_eq]
              omega

theorem length_textsTo_react {server : Server} (nodup : server.socketList.Nodup)
    (event : Event) (ptr : SocketPtr) :
    (textsTo (server.react codecs event).actions ptr).length ≤ 1 := by
  cases texts : textsTo (server.react codecs event).actions ptr with
  | nil => exact Nat.zero_le 1
  | cons text rest =>
      have wrote : .wrote ptr text .whole ∈ (server.react codecs event).actions := by
        rw [← mem_textsTo_iff, texts]
        exact List.mem_cons_self
      obtain ⟨_, _, asker, json, res, answered⟩ := Server.answered_of_wrote wrote
      obtain ⟨chunk, now, writes, call, granted, rfl, visit, dispatched⟩ :=
        Server.visit_of_answered answered
      rw [← texts, Server.react_of_visit visit now writes dispatched,
        Server.broadcast_eq_writeLoop, Server.dispatch_frame dispatched]
      refine Nat.le_trans ?_ (List.nodup_iff_count_le_one.mp nodup ptr)
      exact length_textsTo_writeLoop _ writes ptr 0 server.socketList _

theorem grants_of_ownLogin {server : Server} {event : Event} {ptr : SocketPtr}
    {text name : String} (inside : text ∈ textsTo (server.react codecs event).actions ptr)
    (own : ownLogin platform (some name) text = true) :
    ∃ asker, Server.Granted codecs (server.react codecs event).actions asker name := by
  have wrote := mem_textsTo_iff.mp inside
  obtain ⟨_, _, asker, json, res, answered⟩ := Server.answered_of_wrote wrote
  obtain rfl := wrote_text answered wrote
  unfold ownLogin at own
  split at own
  · cases own
  · rename_i call visited
    obtain ⟨time, _, called⟩ := (visit_text_eq_ok_iff platform res call).mp visited
    cases res with
    | login login =>
        cases called
        have same : login.joiningUsername = name := by
          simpa [ResponseCall.joins] using own
        exact ⟨asker, same ▸ (granted_of_answered answered).1⟩
    | message message =>
        cases called
        cases own
    | error error => cases called

theorem count_ownLogin_react (platform : Platform codecs) {server : Server}
    (nodup : server.socketList.Nodup) (event : Event) (ptr : SocketPtr) (name : String) :
    (textsTo (server.react codecs event).actions ptr).countP
        (ownLogin platform (some name)) ≤
      ((Server.grants codecs (server.react codecs event).actions).map Prod.snd).count name := by
  have single : (textsTo (server.react codecs event).actions ptr).length ≤ 1 :=
    length_textsTo_react nodup event ptr
  have bound : (textsTo (server.react codecs event).actions ptr).countP
      (ownLogin platform (some name)) ≤
        (textsTo (server.react codecs event).actions ptr).length :=
    List.countP_le_length
  cases none : (textsTo (server.react codecs event).actions ptr).countP
      (ownLogin platform (some name)) with
  | zero => exact Nat.zero_le _
  | succ count =>
      have some : 0 < (textsTo (server.react codecs event).actions ptr).countP
          (ownLogin platform (some name)) := by
        rw [none]
        exact Nat.succ_pos count
      obtain ⟨text, inside, own⟩ := List.countP_pos_iff.mp some
      obtain ⟨asker, granted⟩ := grants_of_ownLogin inside own
      have given : 0 < ((Server.grants codecs (server.react codecs event).actions).map
          Prod.snd).count name :=
        List.count_pos_iff.mpr (List.mem_map.mpr ⟨_, granted, rfl⟩)
      omega

/-- Whatever happens to its connection, a socket is written the login response of a name
once at most. -/
theorem count_ownLogin_le_one (platform : Platform codecs) (events : List Event)
    (ptr : SocketPtr) (name : String) :
    (textsTo ((Server.machine codecs).trace events) ptr).countP
      (ownLogin platform (some name)) ≤ 1 := by
  have granted : (textsTo ((Server.machine codecs).trace events) ptr).countP
      (ownLogin platform (some name)) ≤
        ((Server.grants codecs ((Server.machine codecs).trace events)).map
          Prod.snd).count name := by
    induction events using List.reverseRecOn with
    | nil => exact Nat.zero_le _
    | append_singleton events event ih =>
        rw [Machine.trace_concat, System.textsTo_append, List.countP_append,
          Server.grants_append, List.map_append, List.count_append]
        apply Nat.add_le_add ih
        cases running : ((Server.machine codecs).run events).running with
        | false =>
            rw [Server.emits_of_stopped running]
            exact Nat.zero_le _
        | true =>
            rw [Server.emits_of_running running]
            exact count_ownLogin_react platform (Server.registry codecs events).nodup event ptr
              name
  refine Nat.le_trans granted ?_
  rw [← Server.clientNames_eq_grants]
  exact List.nodup_iff_count_le_one.mp (Server.nodup_clientNames codecs events) name

/-- A client gets the login response of a name once at most, in any run. -/
theorem System.ownLogin_got_once (platform : Platform codecs) (events : List SystemEvent)
    (client : Nat) (name : String) :
    (System.got platform events client).countP (ownLogin platform (some name)) ≤ 1 := by
  rw [System.got, System.texts_in_turn]
  cases (((System.machine platform).run events).clients client).sock with
  | none => exact Nat.zero_le 1
  | some ptr =>
      rw [(System.refines platform).trace events]
      exact count_ownLogin_le_one platform _ ptr name

end AndroidMessenger.Chat
