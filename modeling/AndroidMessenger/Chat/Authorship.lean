import AndroidMessenger.Chat.Answers

namespace AndroidMessenger.Chat.System

open Library Msg Networking Client

variable {codecs : Codecs} {platform : Platform codecs}

/-! Who is behind what the clients get. -/

theorem wrote_answers {writer : GsonWriter platform} {events : List SystemEvent}
    {trace : List Action} {event : SystemEvent} {ptr : SocketPtr} {text : String}
    {outcome : WriteOutcome}
    (line : ReadsLines writer trace ((machine platform).run events) event)
    (wrote : .wrote ptr text outcome ∈
      (machine platform).emits ((machine platform).run events) event) :
    ∃ author request rest res,
      (((machine platform).run events).clients author).outgoing = request :: rest ∧
        Answers request res ∧ text = res.text codecs := by
  change _ ∈ ((machine platform).run events).emits codecs event at wrote
  unfold emits at wrote
  split at wrote
  · cases prepares : ((machine platform).run events).serverEvent codecs event with
    | none =>
        rw [prepares] at wrote
        cases wrote
    | some pair =>
        obtain ⟨served, prepared⟩ := pair
        rw [prepares] at wrote
        obtain ⟨_, written⟩ := Server.mem_emits wrote
        obtain ⟨_, _, asker, json, res, answered⟩ := Server.answered_of_wrote written
        obtain ⟨chunk, now, writes, call, granted, rfl, visit, dispatched⟩ :=
          Server.visit_of_answered answered
        have visited := Server.visits_eq_some_iff.mpr ⟨chunk, now, writes, rfl, visit⟩
        rcases serverEvent_cases prepares with
          ⟨_, _, other, _⟩ | ⟨author, recv, _, _, _, rfl, _⟩ | ⟨other, _⟩
        · cases other
        · obtain ⟨_, _, equality, _⟩ := serverEvent_onSocket prepares
          cases equality
          obtain ⟨request, rest, waiting, readAs⟩ := next_of_visits line visited
          exact ⟨author, request, rest, res, waiting, answers_of_dispatch readAs dispatched,
            wrote_text answered written⟩
        · exact absurd rfl (other _ _ _ _)
  · cases wrote

theorem asked_of_got {writer : GsonWriter platform} {events : List SystemEvent}
    (lines : (machine platform).Meets (ReadsLines writer) events) {client : Nat}
    {text : String} (inside : text ∈ got platform events client) :
    ∃ author before event after request res, events = before ++ event :: after ∧
      request ∈ ((machine platform).run before).asked author event ∧
      Answers request res ∧ text = res.text codecs := by
  rw [got, texts_in_turn] at inside
  cases listens : (((machine platform).run events).clients client).sock with
  | none =>
      rw [listens] at inside
      cases inside
  | some ptr =>
      rw [listens] at inside
      obtain ⟨before, event, after, rfl, wrote⟩ :=
        (machine platform).exists_of_mem_trace (mem_textsTo_iff.mp inside)
      obtain ⟨author, request, rest, res, waiting, answers, same⟩ :=
        wrote_answers (lines before event after rfl) wrote
      have waits : request ∈ (((machine platform).run before).clients author).outgoing := by
        rw [waiting]
        exact List.mem_cons_self
      obtain ⟨early, other, between, rfl, asked⟩ := asked_of_outgoing waits
      exact ⟨author, early, other, between ++ event :: after, request, res,
        by simp, asked, answers, same⟩

/-- Every message that a client gets has been typed by the user it names, who was logged
in then, and every login that it gets has been asked for by a client with that name. -/
theorem texts_have_authors (writer : GsonWriter platform) {events : List SystemEvent}
    (lines : (machine platform).Meets (ReadsLines writer) events) {client : Nat}
    {text : String} (inside : text ∈ got platform events client) :
    (∀ message, visit platform text = .ok (.visitMessage (some message)) →
      ∃ before author now content originator after,
        events = before ++ .onMsgSend author now content :: after ∧
        LoggedInAs ((machine platform).run before) author originator ∧
        message.content = some content ∧ message.originator = some originator) ∧
    ∀ login, visit platform text = .ok (.visitLogin (some login)) →
      ∃ before author now user after, events = before ++ .sendLogin author now :: after ∧
        (((machine platform).run before).clients author).alive = true ∧
        (((machine platform).run before).clients author).login = .sending user ∧
        login.joiningUsername = some user := by
  obtain ⟨author, before, event, after, request, res, rfl, asks, answers, rfl⟩ :=
    asked_of_got lines inside
  constructor
  · intro message visited
    obtain ⟨time, _, called⟩ := (visit_text_eq_ok_iff platform res _).mp visited
    cases answers with
    | granted same => cases called
    | refused req inUse => cases called
    | told sender content =>
        cases called
        obtain ⟨now, rfl, alive, loggedIn, user⟩ := asked_message asks
        exact ⟨before, author, now, _, _, after, rfl, ⟨alive, loggedIn, user ▸ sender⟩,
          congrArg some content, rfl⟩
  · intro login visited
    obtain ⟨time, _, called⟩ := (visit_text_eq_ok_iff platform res _).mp visited
    cases answers with
    | granted same =>
        cases called
        obtain ⟨now, rfl, alive, sending⟩ := asked_login asks
        exact ⟨before, author, now, _, after, rfl, alive, sending, congrArg some same⟩
    | refused req inUse => cases called
    | told sender content => cases called

/-! The answer that another client finds comes from Bob's login. -/

theorem readsLines_bobLine : (machine Platform.escaping).Meets (ReadsLines GsonWriter.escaping)
    (bothAsk ++ [reads 0 bobLine 0]) := by
  apply Machine.Meets.concat
  · apply Machine.Meets.of_forall
    intro event inside trace system
    simp only [bothAsk, bobBegins, List.cons_append, List.nil_append, List.mem_cons,
      List.not_mem_nil, or_false] at inside
    rcases inside with rfl | rfl | rfl | rfl | rfl | rfl | rfl | rfl | rfl | rfl
    all_goals trivial
  · exact ⟨bobAsks, [], rfl, stored_bobLine⟩

theorem got_bobLine : Server.bobGranted.text Codecs.compact ∈
    got Platform.escaping (bothAsk ++ [reads 0 bobLine 0]) 1 := by
  decide +kernel

theorem bobGranted_has_author :
    ∃ before author now user after,
      bothAsk ++ [reads 0 bobLine 0] = before ++ .sendLogin author now :: after ∧
        (((machine Platform.escaping).run before).clients author).alive = true ∧
        (((machine Platform.escaping).run before).clients author).login = .sending user ∧
        some "bob" = some user := by
  have visited : visit Platform.escaping (Server.bobGranted.text Codecs.compact) =
      .ok (.visitLogin (some {
        dateTime := some 0
        sender := some Instance.serverSender
        joiningUsername := some "bob" })) :=
    (visit_text_eq_ok_iff Platform.escaping Server.bobGranted _).mpr
      ⟨0, by decide +kernel, rfl⟩
  exact (texts_have_authors GsonWriter.escaping readsLines_bobLine got_bobLine).2 _ visited

end AndroidMessenger.Chat.System
