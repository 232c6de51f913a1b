import Mathlib.Logic.Function.Basic
import AndroidMessenger.Msg.Visitor
import AndroidMessenger.Networking.FlexWaiter

namespace AndroidMessenger

open Library Msg Networking

/-- The server object, with the sockets behind its shared pointers.  Pointers
are handed out in increasing order and never reused. -/
structure Server where
  inActivity : Bool
  socketList : List SocketPtr
  flexWaiter : FlexWaiter
  clientNames : List String
  heap : SocketPtr → Socket
  nextPtr : SocketPtr

/-- What a handler does that can be seen from outside the server object. -/
inductive Action where
  | accepted (ptr : SocketPtr)
  | answered (ptr : SocketPtr) (json : Ptree) (res : Response)
  | wrote (ptr : SocketPtr) (text : String) (outcome : WriteOutcome)
  | removed (ptr : SocketPtr)
  | closed (ptr : SocketPtr)
  deriving DecidableEq

structure Reaction where
  server : Server
  actions : List Action
  thrown : Option Exn

inductive AcceptOutcome where
  | connection (fd : Nat)
  | failed (errno : Nat)

namespace Server

def setSocket (server : Server) (ptr : SocketPtr) (sock : Socket) : Server :=
  { server with heap := Function.update server.heap ptr sock }

def makeSocket (server : Server) (fd : Nat) : SocketPtr × Server :=
  (server.nextPtr, { server.setSocket server.nextPtr { fd, isOpen := true } with
    nextPtr := server.nextPtr + 1 })

def addSocketConnection (newSock : SocketPtr) (server : Server) : Server :=
  { server with
    socketList := server.socketList ++ [newSock]
    flexWaiter := server.flexWaiter.addSocket newSock }

/-- Once both containers have dropped the pointer the destructor runs, which
closes the descriptor of a socket that is still open. -/
def removeSocketConnection (oldSock : SocketPtr) (server : Server) : Reaction :=
  let (calledClose, sock) := (server.heap oldSock).destroy
  { server := { server.setSocket oldSock sock with
      socketList := server.socketList.filter fun ptr => ptr ≠ oldSock
      flexWaiter := server.flexWaiter.removeSocket oldSock }
    actions := .removed oldSock :: if calledClose then [.closed oldSock] else []
    thrown := none }

def visitLogin (now : TimePoint) (req : Request.Login) (server : Server) :
    Response × Server :=
  let clientName := req.sender
  if server.clientNames.any fun name => name == clientName then
    (.error (Response.Error.ofCode now Instance.serverSender ErrorCode.userNameInUse
      "You dun goofed. Username is in use. (Server Error)"), server)
  else
    (.login (Response.Login.ofUsername now req.sender),
      { server with clientNames := server.clientNames ++ [clientName] })

def visitMessage (now : TimePoint) (req : Request.Message) (server : Server) :
    Response × Server :=
  (.message (Response.Message.ofContent now req.sender req.content), server)

def error (now : TimePoint) (origSender : String) (errCode : ErrorCode)
    (msgStr : String) (server : Server) : Response × Server :=
  (.error (Response.Error.ofCode now origSender errCode msgStr), server)

def visitor (now : TimePoint) : RequestVisitor Server Response where
  visitLogin := visitLogin now
  visitMessage := visitMessage now
  error := error now

/-- The part of `onSocket` from the text that was read to the instance that
`visit` returns, with the tree that was visited. -/
def respond (codecs : Codecs) (now : TimePoint) (readSock : Bytes) (server : Server) :
    Except Exn (Ptree × Response × Server) := do
  let json ← Json.fromText codecs readSock
  let _ ← Json.toText codecs json true
  let (incomingMessage, server) ← (visitor now).visit codecs json server
  return (json, incomingMessage, server)

/-- The loop of `onSocket` over `_socketList` from position `i`. -/
def writeLoop (codecs : Codecs) (json : Ptree) (writes : Nat → WriteOutcome) :
    Nat → List SocketPtr → Server → Reaction
  | _, [], server => { server, actions := [], thrown := none }
  | i, ptr :: rest, server =>
      match Json.toText codecs json false with
      | .error exn => { server, actions := [], thrown := some exn }
      | .ok text =>
          match (server.heap ptr).write (Utf8.encode text) (writes i) with
          | .error exn => { server, actions := [], thrown := some exn }
          | .ok (_, sock) =>
              let tail := writeLoop codecs json writes (i + 1) rest
                (server.setSocket ptr sock)
              { tail with actions := .wrote ptr text (writes i) :: tail.actions }

def broadcast (codecs : Codecs) (writes : Nat → WriteOutcome)
    (incomingMessage : Response) (server : Server) : Reaction :=
  match Json.toText codecs (incomingMessage.toJson codecs) true with
  | .error exn => { server, actions := [], thrown := some exn }
  | .ok _ =>
      writeLoop codecs (incomingMessage.toJson codecs) writes 0 server.socketList server

def onSocketServer (accepted : AcceptOutcome) (server : Server) : Reaction :=
  match accepted with
  | .failed errno =>
      { server, actions := []
        thrown := some (.runtimeError ("Socket error: " ++ toString errno)) }
  | .connection fd =>
      let (newSock, server) := server.makeSocket fd
      { server := server.addSocketConnection newSock
        actions := [.accepted newSock]
        thrown := none }

def onSocket (codecs : Codecs) (sockPtr : SocketPtr) (recv : Recv) (now : TimePoint)
    (writes : Nat → WriteOutcome) (server : Server) : Reaction :=
  let (successful, sock) := (server.heap sockPtr).read recv
  let server := server.setSocket sockPtr sock
  match successful with
  | .unterminated => { server, actions := [], thrown := some .unterminatedBuffer }
  | .received _ readSock =>
      match server.respond codecs now readSock with
      | .error exn => { server, actions := [], thrown := some exn }
      | .ok (json, incomingMessage, server) =>
          let sent := server.broadcast codecs writes incomingMessage
          { sent with actions := .answered sockPtr json incomingMessage :: sent.actions }
  | .disconnected => server.removeSocketConnection sockPtr
  | .error => { server, actions := [], thrown := none }

/-- The loop of `onSTDIN`, in which both the index and the list move.  The fuel
is the length at the start, which the index cannot pass. -/
def removeLoop : Nat → Nat → Server → Reaction
  | 0, _, server => { server, actions := [], thrown := none }
  | fuel + 1, i, server =>
      match server.socketList[i]? with
      | none => { server, actions := [], thrown := none }
      | some ptr =>
          let head := server.removeSocketConnection ptr
          let tail := removeLoop fuel (i + 1) head.server
          { tail with actions := head.actions ++ tail.actions }

def onSTDIN (line : String) (server : Server) : Reaction :=
  if line = "exit" then
    let removal := removeLoop server.socketList.length 0 server
    { removal with server := { removal.server with inActivity := false } }
  else { server, actions := [], thrown := none }

def start : Server where
  inActivity := true
  socketList := []
  flexWaiter := { sockets := ∅ }
  clientNames := []
  heap _ := { fd := 0, isOpen := false }
  nextPtr := 0

end Server

end AndroidMessenger
