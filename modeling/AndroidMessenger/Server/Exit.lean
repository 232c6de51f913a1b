import AndroidMessenger.Msg.Compact
import AndroidMessenger.Server.Registry

namespace AndroidMessenger.Server

open Library Msg Networking

variable {codecs : Codecs}

/-! What the loop of `onSTDIN` removes.  It erases the element at its index and moves
on, so it passes over the element behind each one that it erases. -/

section Alternate

variable {α : Type*}

def visitedOf : List α → List α
  | [] => []
  | [first] => [first]
  | first :: _ :: rest => first :: visitedOf rest

def passedOver : List α → List α
  | [] => []
  | [_] => []
  | _ :: second :: rest => second :: passedOver rest

theorem passedOver_eq_nil_iff (list : List α) : passedOver list = [] ↔ list.length ≤ 1 := by
  cases list with
  | nil => simp [passedOver]
  | cons first tail =>
      cases tail with
      | nil => simp [passedOver]
      | cons second rest => simp [passedOver]

theorem mem_of_mem_visitedOf {element : α} {list : List α}
    (inside : element ∈ visitedOf list) : element ∈ list := by
  induction list using visitedOf.induct with
  | case1 => exact inside
  | case2 first => exact inside
  | case3 first second rest ih =>
      rcases List.mem_cons.mp inside with rfl | inside
      · exact List.mem_cons_self
      · exact List.mem_cons_of_mem _ (List.mem_cons_of_mem _ (ih inside))

end Alternate

theorem removeLoop_of_length_le (fuel : Nat) {i : Nat} {server : Server}
    (past : server.socketList.length ≤ i) :
    removeLoop fuel i server = { server, actions := [], thrown := none } := by
  cases fuel with
  | zero => rfl
  | succ fuel => rw [removeLoop, List.getElem?_eq_none past]

theorem socketList_removeSocketConnection_append {server : Server} {kept rest : List SocketPtr}
    {ptr : SocketPtr} (list : server.socketList = kept ++ ptr :: rest)
    (nodup : server.socketList.Nodup) :
    (server.removeSocketConnection ptr).server.socketList = kept ++ rest := by
  rw [list, List.nodup_middle, List.nodup_cons] at nodup
  rw [socketList_removeSocketConnection, list, List.filter_append, List.filter_cons_of_neg
    (by simp), ← List.filter_append, List.filter_eq_self]
  intro other inside
  apply decide_eq_true
  intro same
  subst same
  exact nodup.1 inside

theorem actions_removeSocketConnection_of_ne {server : Server} {ptr gone : SocketPtr}
    (hne : ptr ≠ gone) :
    ((server.removeSocketConnection gone).server.removeSocketConnection ptr).actions =
      (server.removeSocketConnection ptr).actions := by
  simp only [removeSocketConnection, heap_setSocket_of_ne _ _ hne]

theorem removeLoop_spec {rest : List SocketPtr} {fuel : Nat} (enough : rest.length ≤ fuel)
    {kept : List SocketPtr} {server : Server} (list : server.socketList = kept ++ rest)
    (nodup : server.socketList.Nodup) :
    (removeLoop fuel kept.length server).server.socketList = kept ++ passedOver rest ∧
      (removeLoop fuel kept.length server).actions =
        (visitedOf rest).flatMap fun ptr => (server.removeSocketConnection ptr).actions := by
  induction rest using visitedOf.induct generalizing fuel kept server with
  | case1 =>
      rw [removeLoop_of_length_le _ (by simp [list])]
      exact ⟨list, rfl⟩
  | case2 ptr =>
      obtain ⟨fuel, rfl⟩ := Nat.exists_eq_succ_of_ne_zero (Nat.one_le_iff_ne_zero.mp enough)
      have found : server.socketList[kept.length]? = some ptr := by simp [list]
      have left := socketList_removeSocketConnection_append list nodup
      rw [removeLoop, found]
      simp only
      rw [removeLoop_of_length_le _ (by rw [left]; simp)]
      exact ⟨left, by simp [visitedOf]⟩
  | case3 ptr next rest ih =>
      obtain ⟨fuel, rfl⟩ := Nat.exists_eq_succ_of_ne_zero
        (Nat.ne_zero_of_lt (Nat.lt_of_lt_of_le (Nat.zero_lt_succ _) enough))
      have found : server.socketList[kept.length]? = some ptr := by simp [list]
      have left := socketList_removeSocketConnection_append list nodup
      rw [← List.singleton_append, ← List.append_assoc] at left
      have unique : (server.removeSocketConnection ptr).server.socketList.Nodup :=
        nodup.filter _
      have shorter : rest.length ≤ fuel := by
        simp only [List.length_cons] at enough
        omega
      obtain ⟨list', actions⟩ := ih shorter left unique
      rw [List.length_append, List.length_singleton] at list' actions
      rw [removeLoop, found]
      refine ⟨?_, ?_⟩
      · simpa [passedOver] using list'
      · simp only [actions, visitedOf, List.flatMap_cons]
        congr 1
        have distinct : ∀ other ∈ visitedOf rest, other ≠ ptr := by
          intro other inside same
          subst same
          rw [list, List.nodup_middle, List.nodup_cons] at nodup
          apply nodup.1
          exact List.mem_append_right _
            (List.mem_cons_of_mem _ (mem_of_mem_visitedOf inside))
        rw [List.flatMap_def, List.flatMap_def]
        congr 1
        apply List.map_congr_left
        intro other inside
        exact actions_removeSocketConnection_of_ne (distinct other inside)

theorem onSTDIN_exit_spec {server : Server} (nodup : server.socketList.Nodup) :
    (server.onSTDIN "exit").server.socketList = passedOver server.socketList ∧
      (server.onSTDIN "exit").actions = (visitedOf server.socketList).flatMap
        fun ptr => (server.removeSocketConnection ptr).actions := by
  have spec := @removeLoop_spec server.socketList _ (Nat.le_refl _) [] server rfl nodup
  rw [onSTDIN, if_pos rfl]
  exact spec

theorem waiter_onSTDIN_exit {server : Server}
    (waiter : ∀ ptr, ptr ∈ server.flexWaiter.sockets ↔ ptr ∈ server.socketList)
    (ptr : SocketPtr) :
    ptr ∈ (server.onSTDIN "exit").server.flexWaiter.sockets ↔
      ptr ∈ (server.onSTDIN "exit").server.socketList := by
  rw [onSTDIN, if_pos rfl]
  refine @removeLoop_induction (fun _ server => ∀ ptr,
    ptr ∈ server.flexWaiter.sockets ↔ ptr ∈ server.socketList) ?_ _ 0 [] server waiter ptr
  intro trace server gone _ held other
  rw [sockets_removeSocketConnection, socketList_removeSocketConnection, Finset.mem_erase,
    held, List.mem_filter, and_comm]
  simp

structure ExitEmpties (server : Server) : Prop where
  socketList : (server.onSTDIN "exit").server.socketList = []
  flexWaiter : (server.onSTDIN "exit").server.flexWaiter.sockets = ∅
  inActivity : (server.onSTDIN "exit").server.inActivity = false

/-- In every reachable state an exit line removes every socket exactly when at most
one is registered. -/
theorem exitEmpties_iff (codecs : Codecs) (events : List Event) :
    ExitEmpties ((machine codecs).run events).server ↔
      ((machine codecs).run events).server.socketList.length ≤ 1 := by
  have tables := registry codecs events
  generalize ((machine codecs).run events).server = server at tables ⊢
  obtain ⟨list, _⟩ := onSTDIN_exit_spec tables.nodup
  rw [← passedOver_eq_nil_iff, ← list]
  constructor
  · intro empties
    exact empties.socketList
  · intro empty
    refine ⟨empty, ?_, ?_⟩
    · apply Finset.eq_empty_of_forall_notMem
      intro ptr inside
      rw [waiter_onSTDIN_exit tables.waiter, empty] at inside
      exact List.not_mem_nil inside
    · rw [onSTDIN, if_pos rfl]

theorem second_of_two_survives_exit :
    ¬ ExitEmpties ((machine Codecs.compact).run
      [.socketServer (.connection 5), .socketServer (.connection 6)]).server := by
  intro empties
  exact absurd empties.socketList (by decide)

end AndroidMessenger.Server
