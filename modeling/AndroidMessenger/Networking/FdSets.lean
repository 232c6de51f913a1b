import AndroidMessenger.Networking.Wait

namespace AndroidMessenger.Networking

/-! The numbers that `flex_waiter::wait` puts in its set and asks it for. -/

/-- `FD_SETSIZE`. -/
def fdSetSize : Nat := 1024

/-- The numbers of the children that are asked for, to the first one in the set. -/
def probed (heap : SocketPtr → Socket) (theSet : Finset Nat) : List SocketPtr → List Nat
  | [] => []
  | child :: rest =>
      (heap child).fd :: if (heap child).fd ∈ theSet then [] else probed heap theSet rest

namespace Wait

variable (wait : Wait)

/-- The arguments of `FD_SET`. -/
def fdSet (killEventFD : Nat) : List Nat :=
  stdinFileno :: wait.master.toList ++
    (wait.order.filter fun ptr => (wait.heap ptr).isOpen).map (fun ptr => (wait.heap ptr).fd) ++
      [killEventFD]

/-- The arguments of `FD_ISSET`. -/
def fdIsSet (killEventFD : Nat) : List Nat :=
  match wait.select (wait.watch killEventFD) with
  | .failed => []
  | .timeout => []
  | .ready theSet =>
      killEventFD :: if killEventFD ∈ theSet then [] else
        stdinFileno :: if stdinFileno ∈ theSet then [] else
          wait.master.toList ++ if (∃ fd ∈ wait.master, fd ∈ theSet) then [] else
            probed wait.heap theSet wait.order

def nfds (killEventFD : Nat) : Nat :=
  (wait.watch killEventFD).maxFD + 1

/-- No bit outside the set is touched, and none that `select` does not look at. -/
def InRange (killEventFD : Nat) : Prop :=
  ∀ fd ∈ wait.fdSet killEventFD ++ wait.fdIsSet killEventFD,
    fd < fdSetSize ∧ fd < wait.nfds killEventFD

/-- `select` returns the number of the descriptors in the set that it leaves, which is
not zero. -/
def Counts : Prop :=
  ∀ watch theSet, wait.select watch = .ready theSet → theSet.Nonempty

theorem mem_fdSet {killEventFD fd : Nat} :
    fd ∈ wait.fdSet killEventFD ↔ fd ∈ (wait.watch killEventFD).theSet := by
  rw [mem_watch]
  simp only [fdSet, List.mem_append, List.mem_cons, Option.mem_toList, List.mem_map,
    List.mem_filter, List.not_mem_nil, or_false, and_assoc]
  rw [or_comm, or_assoc]

end Wait

theorem mem_probed {heap : SocketPtr → Socket} {theSet : Finset Nat}
    {order : List SocketPtr} {fd : Nat} (asked : fd ∈ probed heap theSet order) :
    ∃ ptr ∈ order, (heap ptr).fd = fd := by
  induction order with
  | nil => exact absurd asked List.not_mem_nil
  | cons child rest ih =>
      rw [probed] at asked
      rcases List.mem_cons.mp asked with rfl | later
      · exact ⟨child, List.mem_cons_self, rfl⟩
      · split at later
        · exact absurd later List.not_mem_nil
        · obtain ⟨ptr, inside, same⟩ := ih later
          exact ⟨ptr, List.mem_cons_of_mem _ inside, same⟩

theorem watchSockets_maxFD_mem {heap : SocketPtr → Socket} {order : List SocketPtr}
    {watch : Watch} (reached : watch.maxFD ∈ watch.theSet) :
    (watchSockets heap order watch).maxFD ∈ (watchSockets heap order watch).theSet := by
  induction order generalizing watch with
  | nil => exact reached
  | cons sock rest ih =>
      rw [watchSockets]
      apply ih
      cases (heap sock).isOpen with
      | false => exact reached
      | true =>
          change max watch.maxFD (heap sock).fd ∈ insert (heap sock).fd watch.theSet
          rcases max_choice watch.maxFD (heap sock).fd with before | last
          · rw [before]
            exact Finset.mem_insert_of_mem reached
          · rw [last]
            exact Finset.mem_insert_self ..

namespace Wait

variable (wait : Wait)

theorem maxFD_mem_watch (killEventFD : Nat) :
    (wait.watch killEventFD).maxFD ∈ (wait.watch killEventFD).theSet := by
  have start : (watchMaster wait.master
      { theSet := {stdinFileno}, maxFD := stdinFileno }).maxFD ∈ (watchMaster wait.master
        { theSet := {stdinFileno}, maxFD := stdinFileno }).theSet := by
    cases wait.master with
    | none => exact Finset.mem_singleton_self _
    | some masterFD => exact Finset.mem_insert_self ..
  have sockets := @watchSockets_maxFD_mem wait.heap wait.order _ start
  rw [watch, Watch.add]
  rcases max_choice (watchSockets wait.heap wait.order (watchMaster wait.master
      { theSet := {stdinFileno}, maxFD := stdinFileno })).maxFD killEventFD with before | last
  · rw [before]
    exact Finset.mem_insert_of_mem sockets
  · rw [last]
    exact Finset.mem_insert_self ..

theorem lt_nfds {killEventFD fd : Nat} (inside : fd ∈ (wait.watch killEventFD).theSet) :
    fd < wait.nfds killEventFD :=
  Nat.lt_succ_of_le (wait.watch_le_maxFD fd inside)

theorem fdIsSet_cases {killEventFD fd : Nat} (asked : fd ∈ wait.fdIsSet killEventFD) :
    fd ∈ (wait.watch killEventFD).theSet ∨
      ∃ theSet, wait.select (wait.watch killEventFD) = .ready theSet ∧
        killEventFD ∉ theSet ∧ stdinFileno ∉ theSet ∧ (∀ fd ∈ wait.master, fd ∉ theSet) ∧
        ∃ ptr ∈ wait.order, (wait.heap ptr).fd = fd := by
  unfold fdIsSet at asked
  cases selected : wait.select (wait.watch killEventFD) with
  | failed =>
      rw [selected] at asked
      exact absurd asked List.not_mem_nil
  | timeout =>
      rw [selected] at asked
      exact absurd asked List.not_mem_nil
  | ready theSet =>
      rw [selected] at asked
      simp only at asked
      rcases List.mem_cons.mp asked with rfl | asked
      · exact Or.inl ((wait.mem_watch).mpr (Or.inl rfl))
      · split at asked
        · exact absurd asked List.not_mem_nil
        · rename_i notKilled
          rcases List.mem_cons.mp asked with rfl | asked
          · exact Or.inl ((wait.mem_watch).mpr (Or.inr (Or.inl rfl)))
          · split at asked
            · exact absurd asked List.not_mem_nil
            · rename_i noStdin
              rcases List.mem_append.mp asked with master | asked
              · left
                exact (wait.mem_watch).mpr
                  (Or.inr (Or.inr (Or.inl (Option.mem_toList.mp master))))
              · split at asked
                · exact absurd asked List.not_mem_nil
                · rename_i noMaster
                  right
                  exact ⟨theSet, rfl, notKilled, noStdin,
                    fun fd master inside => noMaster ⟨fd, master, inside⟩,
                    mem_probed asked⟩

theorem head_mem_fdIsSet {killEventFD : Nat} {theSet : Finset Nat} {child : SocketPtr}
    {rest : List SocketPtr} (first : wait.order = child :: rest)
    (selected : wait.select (wait.watch killEventFD) = .ready theSet)
    (notKilled : killEventFD ∉ theSet) (noStdin : stdinFileno ∉ theSet)
    (noMaster : ∀ fd ∈ wait.master, fd ∉ theSet) :
    (wait.heap child).fd ∈ wait.fdIsSet killEventFD := by
  have others : ¬ ∃ fd ∈ wait.master, fd ∈ theSet := by
    intro given
    rcases given with ⟨fd, master, inside⟩
    exact noMaster fd master inside
  simp only [fdIsSet, selected, if_neg notKilled, if_neg noStdin, if_neg others, first, probed]
  simp

end Wait

end AndroidMessenger.Networking
