import AndroidMessenger.Server.Handlers

namespace AndroidMessenger.Server

open Library Msg Networking

/-! What each handler can change.  Later modules reason from these statements
and do not unfold the handlers. -/

structure SameTables (before after : Server) : Prop where
  inActivity : after.inActivity = before.inActivity
  socketList : after.socketList = before.socketList
  flexWaiter : after.flexWaiter = before.flexWaiter
  clientNames : after.clientNames = before.clientNames
  nextPtr : after.nextPtr = before.nextPtr

namespace SameTables

theorem refl (server : Server) : SameTables server server :=
  ⟨rfl, rfl, rfl, rfl, rfl⟩

theorem trans {first second third : Server} (left : SameTables first second)
    (right : SameTables second third) : SameTables first third :=
  ⟨right.inActivity.trans left.inActivity,
    right.socketList.trans left.socketList,
    right.flexWaiter.trans left.flexWaiter,
    right.clientNames.trans left.clientNames,
    right.nextPtr.trans left.nextPtr⟩

end SameTables

theorem sameTables_setSocket (server : Server) (ptr : SocketPtr) (sock : Socket) :
    SameTables server (server.setSocket ptr sock) :=
  ⟨rfl, rfl, rfl, rfl, rfl⟩

@[simp] theorem socketList_setSocket (server : Server) (ptr : SocketPtr)
    (sock : Socket) : (server.setSocket ptr sock).socketList = server.socketList := rfl

@[simp] theorem clientNames_setSocket (server : Server) (ptr : SocketPtr)
    (sock : Socket) : (server.setSocket ptr sock).clientNames = server.clientNames := rfl

@[simp] theorem heap_setSocket_self (server : Server) (ptr : SocketPtr)
    (sock : Socket) : (server.setSocket ptr sock).heap ptr = sock :=
  Function.update_self ..

theorem heap_setSocket_of_ne (server : Server) {ptr other : SocketPtr}
    (sock : Socket) (hne : other ≠ ptr) :
    (server.setSocket ptr sock).heap other = server.heap other :=
  Function.update_of_ne hne ..

@[simp] theorem setSocket_heap (server : Server) (ptr : SocketPtr) :
    server.setSocket ptr (server.heap ptr) = server := by
  simp [setSocket]

/-! The name table. -/

theorem visitLogin_of_mem (now : TimePoint) {req : Request.Login} {server : Server}
    (h : req.sender ∈ server.clientNames) :
    server.visitLogin now req =
      (.error (Response.Error.ofCode now Instance.serverSender ErrorCode.userNameInUse
        "You dun goofed. Username is in use. (Server Error)"), server) := by
  have htaken : (server.clientNames.any fun name => name == req.sender) = true :=
    List.any_eq_true.mpr ⟨req.sender, h, beq_self_eq_true _⟩
  simp [visitLogin, htaken]

theorem visitLogin_of_notMem (now : TimePoint) {req : Request.Login} {server : Server}
    (h : req.sender ∉ server.clientNames) :
    server.visitLogin now req =
      (.login (Response.Login.ofUsername now req.sender),
        { server with clientNames := server.clientNames ++ [req.sender] }) := by
  have hfree : (server.clientNames.any fun name => name == req.sender) = false := by
    apply List.any_eq_false.mpr
    intro name hname heq
    exact h (eq_of_beq heq ▸ hname)
  simp [visitLogin, hfree]

theorem dispatch_cases (now : TimePoint) (call : Call) (server : Server) :
    (∃ req, call = .visitLogin req ∧ req.sender ∉ server.clientNames ∧
      call.dispatch (visitor now) server =
        (.login (Response.Login.ofUsername now req.sender),
          { server with clientNames := server.clientNames ++ [req.sender] })) ∨
    (∃ res, call.dispatch (visitor now) server = (res, server) ∧
      ∀ granted, res ≠ .login granted) := by
  cases call with
  | visitLogin req =>
      by_cases hmem : req.sender ∈ server.clientNames
      · right
        exact ⟨_, visitLogin_of_mem now hmem, by simp⟩
      · left
        exact ⟨req, rfl, hmem, visitLogin_of_notMem now hmem⟩
  | visitMessage req => exact Or.inr ⟨_, rfl, by simp⟩
  | error originator code message => exact Or.inr ⟨_, rfl, by simp⟩

theorem dispatch_frame {now : TimePoint} {call : Call} {server granted : Server}
    {res : Response} (dispatched : call.dispatch (visitor now) server = (res, granted)) :
    granted = { server with clientNames := granted.clientNames } := by
  rcases dispatch_cases now call server with ⟨req, _, _, equality⟩ | ⟨_, equality, _⟩
  · rw [equality] at dispatched
    obtain ⟨_, rfl⟩ := Prod.mk.inj dispatched
    rfl
  · rw [equality] at dispatched
    obtain ⟨_, rfl⟩ := Prod.mk.inj dispatched
    rfl

theorem respond_eq_ok_iff {codecs : Codecs} {now : TimePoint} {readSock : Bytes}
    {server server' : Server} {json : Ptree} {res : Response} :
    server.respond codecs now readSock = .ok (json, res, server') ↔
      Json.fromText codecs readSock = .ok json ∧ json.Representable ∧
        ∃ call, Call.ofJson codecs json = .ok call ∧
          call.dispatch (visitor now) server = (res, server') := by
  unfold respond
  cases hjson : Json.fromText codecs readSock with
  | error exn => simp [bind, Except.bind]
  | ok tree =>
      cases htext : codecs.writeJson tree true with
      | none =>
          have hnot := (codecs.writeJson_eq_none_iff tree true).mp htext
          simp only [bind, Except.bind, Json.toText, htext, reduceCtorEq, false_iff]
          intro given
          rcases given with ⟨heq, hrep, _⟩
          obtain rfl := Except.ok.inj heq
          exact hnot hrep
      | some text =>
          have hrep : tree.Representable :=
            (codecs.writeJson_isSome tree true).mp (by rw [htext]; rfl)
          simp only [bind, Except.bind, Json.toText, htext, Call.visit_eq_dispatch]
          cases hcall : Call.ofJson codecs tree with
          | error exn =>
              simp only [Except.map, reduceCtorEq, false_iff]
              intro given
              rcases given with ⟨heq, _, call, hother, _⟩
              obtain rfl := Except.ok.inj heq
              rw [hcall] at hother
              cases hother
          | ok call =>
              simp only [Except.map, pure, Except.pure, Except.ok.injEq, Prod.mk.injEq]
              constructor
              · intro given
                rcases given with ⟨rfl, hres, hserver⟩
                exact ⟨rfl, hrep, call, hcall, Prod.ext hres hserver⟩
              · intro given
                rcases given with ⟨rfl, _, other, hother, hdispatch⟩
                obtain rfl : call = other := by simpa [hcall] using hother
                exact ⟨rfl, by rw [hdispatch], by rw [hdispatch]⟩

/-! The write loop. -/

theorem writeLoop_sameTables (codecs : Codecs) (json : Ptree)
    (writes : Nat → WriteOutcome) (i : Nat) (list : List SocketPtr) (server : Server) :
    SameTables server (writeLoop codecs json writes i list server).server := by
  induction list generalizing i server with
  | nil => exact SameTables.refl server
  | cons ptr rest ih =>
      unfold writeLoop
      cases Json.toText codecs json false with
      | error exn => exact SameTables.refl server
      | ok text =>
          simp only
          cases (server.heap ptr).write (Utf8.encode text) (writes i) with
          | error exn => exact SameTables.refl server
          | ok result =>
              exact (sameTables_setSocket server ptr result.2).trans (ih _ _)

theorem wrote_of_mem_writeLoop (codecs : Codecs) (json : Ptree)
    (writes : Nat → WriteOutcome) (i : Nat) (list : List SocketPtr) (server : Server)
    {action : Action}
    (h : action ∈ (writeLoop codecs json writes i list server).actions) :
    ∃ ptr text outcome, action = .wrote ptr text outcome ∧ ptr ∈ list ∧
      Json.toText codecs json false = .ok text := by
  induction list generalizing i server with
  | nil => simp [writeLoop] at h
  | cons ptr rest ih =>
      unfold writeLoop at h
      cases htext : Json.toText codecs json false with
      | error exn => simp [htext] at h
      | ok text =>
          simp only [htext] at h
          cases hwrite : (server.heap ptr).write (Utf8.encode text) (writes i) with
          | error exn => simp [hwrite] at h
          | ok result =>
              simp only [hwrite, List.mem_cons] at h
              rcases h with rfl | h
              · exact ⟨ptr, text, writes i, rfl, List.mem_cons_self, rfl⟩
              · obtain ⟨other, content, outcome, heq, hmem, hcontent⟩ := ih _ _ h
                exact ⟨other, content, outcome, heq, List.mem_cons_of_mem _ hmem,
                  htext ▸ hcontent⟩

theorem writeLoop_thrown_iff {codecs : Codecs} {json : Ptree} {text : String}
    (htext : Json.toText codecs json false = .ok text) (writes : Nat → WriteOutcome)
    (i : Nat) {list : List SocketPtr} (hnodup : list.Nodup) (server : Server) :
    (writeLoop codecs json writes i list server).thrown = none ↔
      ∀ ptr ∈ list, (server.heap ptr).isOpen = true := by
  induction list generalizing i server with
  | nil => simp [writeLoop]
  | cons ptr rest ih =>
      obtain ⟨hfresh, hrest⟩ := List.nodup_cons.mp hnodup
      unfold writeLoop
      simp only [htext]
      cases hwrite : (server.heap ptr).write (Utf8.encode text) (writes i) with
      | error exn =>
          have hclosed : (server.heap ptr).isOpen = false := by
            cases hopen : (server.heap ptr).isOpen with
            | false => rfl
            | true =>
                cases houtcome : writes i <;>
                  simp [Socket.write, hopen, houtcome] at hwrite
          simp [hclosed]
      | ok result =>
          obtain ⟨ret, sock⟩ := result
          obtain ⟨hopen, _⟩ := Socket.write_cases hwrite
          rw [ih _ hrest]
          have hkept : ∀ other ∈ rest,
              (server.setSocket ptr sock).heap other = server.heap other := by
            intro other hmem
            apply heap_setSocket_of_ne
            intro same
            subst same
            exact hfresh hmem
          constructor
          · intro hall other hmem
            rcases List.mem_cons.mp hmem with rfl | hmem
            · exact hopen
            · rw [← hkept other hmem]
              exact hall other hmem
          · intro hall other hmem
            rw [hkept other hmem]
            exact hall other (List.mem_cons_of_mem _ hmem)

theorem writeLoop_of_open {codecs : Codecs} {json : Ptree} {text : String}
    (htext : Json.toText codecs json false = .ok text)
    {writes : Nat → WriteOutcome} (hwrites : ∀ i, writes i ≠ .failed) (i : Nat)
    {list : List SocketPtr} {server : Server}
    (hopen : ∀ ptr ∈ list, (server.heap ptr).isOpen = true) :
    writeLoop codecs json writes i list server =
      { server
        actions := list.mapIdx fun j ptr => .wrote ptr text (writes (i + j))
        thrown := none } := by
  induction list generalizing i with
  | nil => rfl
  | cons ptr rest ih =>
      have hwrite : ∃ ret, (server.heap ptr).write (Utf8.encode text) (writes i) =
          .ok (ret, server.heap ptr) := by
        have hhead := hopen ptr List.mem_cons_self
        cases houtcome : writes i with
        | failed => exact absurd houtcome (hwrites i)
        | short count => exact ⟨_, by simp [Socket.write, hhead]; rfl⟩
        | whole => exact ⟨_, by simp [Socket.write, hhead]; rfl⟩
      obtain ⟨ret, hret⟩ := hwrite
      unfold writeLoop
      simp only [htext, hret, setSocket_heap]
      rw [ih (i + 1) fun other hmem => hopen other (List.mem_cons_of_mem _ hmem)]
      simp only [List.mapIdx_cons, Nat.add_zero]
      congr 2
      apply congrArg (List.mapIdx · rest)
      funext j other
      rw [Nat.add_assoc, Nat.add_comm 1 j]

theorem broadcast_eq_writeLoop (codecs : Codecs) (writes : Nat → WriteOutcome)
    (res : Response) (server : Server) :
    server.broadcast codecs writes res =
      writeLoop codecs (res.toJson codecs) writes 0 server.socketList server := by
  obtain ⟨text, htext⟩ := Json.exists_toText codecs (res.representable_toJson codecs) true
  simp [broadcast, htext]

theorem toText_response (codecs : Codecs) (res : Response) :
    Json.toText codecs (res.toJson codecs) false = .ok (res.text codecs) := by
  simp [Json.toText, res.writeJson_toJson codecs]

theorem broadcast_sameTables (codecs : Codecs) (writes : Nat → WriteOutcome)
    (res : Response) (server : Server) :
    SameTables server (server.broadcast codecs writes res).server := by
  rw [broadcast_eq_writeLoop]
  exact writeLoop_sameTables ..

end AndroidMessenger.Server
