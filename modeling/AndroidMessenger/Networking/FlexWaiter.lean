import Mathlib.Data.Finset.Basic
import AndroidMessenger.Networking.Socket

namespace AndroidMessenger.Networking

/-- The identity of a `std::shared_ptr<socket>`. -/
abbrev SocketPtr := Nat

structure FlexWaiter where
  sockets : Finset SocketPtr

namespace FlexWaiter

def addSocket (waiter : FlexWaiter) (newSock : SocketPtr) : FlexWaiter :=
  { waiter with sockets := insert newSock waiter.sockets }

def removeSocket (waiter : FlexWaiter) (sock : SocketPtr) : FlexWaiter :=
  if sock ∈ waiter.sockets then
    { waiter with sockets := waiter.sockets.erase sock }
  else waiter

@[simp] theorem sockets_addSocket (waiter : FlexWaiter) (newSock : SocketPtr) :
    (waiter.addSocket newSock).sockets = insert newSock waiter.sockets := rfl

@[simp] theorem sockets_removeSocket (waiter : FlexWaiter) (sock : SocketPtr) :
    (waiter.removeSocket sock).sockets = waiter.sockets.erase sock := by
  unfold removeSocket
  split
  · rfl
  · rename_i hnot
    exact (Finset.erase_eq_of_notMem hnot).symm

end FlexWaiter

end AndroidMessenger.Networking
