import Hxrpc.Framing
import Hxrpc.Server.Journal
import Hxrpc.Syscall
import Mathlib.Logic.Function.Basic

/-!
# Reactor tables and connection manager

The two tables of the server, `handlers_` of the reactor and `connections_` of the connection
manager, with the kernel's view of the same descriptors and the callbacks that work on them.  A
callback receives a script of the results that its system calls return; a script that is used up
stands for `EAGAIN`.  `ProcessInput` holds a reference into `connections_` across the frame handler,
so it ends in `Dangling` where the program would read an entry that was erased meanwhile.
-/

namespace Hxrpc

open BigEndian

/-- Result of one `accept`, with the outcome of `SetNonBlocking` on the new descriptor. -/
inductive AcceptResult where
  | connection (fd : Fd) (nonBlocking : Bool)
  | eintr
  | eagain
  | error (errno : Nat)
  deriving DecidableEq

/-- The bits of an epoll event mask. -/
structure Events where
  /-- `EPOLLIN`. -/
  epollin : Bool := false
  /-- `EPOLLOUT`. -/
  epollout : Bool := false
  /-- `EPOLLERR`. -/
  epollerr : Bool := false
  /-- `EPOLLHUP`. -/
  epollhup : Bool := false
  deriving DecidableEq

/-- What is behind an open descriptor.  Accepted sockets are numbered in the order of `accept`, so a
descriptor number that is used again stands for another incarnation. -/
inductive Descriptor where
  | listener
  | connection (incarnation : Nat)
  deriving DecidableEq

/-- The member functions of the connection manager that are registered as callbacks. -/
inductive Callback where
  | acceptLoop
  | handleReadable
  | handleWritable
  | close
  deriving DecidableEq

/-- `Reactor::Handler`; `owner` is auxiliary and tells entries of different `Add` calls apart. -/
structure Handler where
  /-- Registered interest. -/
  events : Events
  /-- `on_readable`. -/
  onReadable : Option Callback
  /-- `on_writable`. -/
  onWritable : Option Callback
  /-- `on_error`. -/
  onError : Option Callback
  /-- The descriptor the entry was added for. -/
  owner : Descriptor
  deriving DecidableEq

/-- `ConnectionManager::ConnectionState`; `incarnation` is auxiliary and names the accepted socket
the entry was made for. -/
structure ConnectionState where
  /-- Received bytes that are not cut yet. -/
  inputBuffer : Bytes := []
  /-- Bytes to send. -/
  outputBuffer : Bytes := []
  /-- How many bytes of the output buffer were sent. -/
  bytesSent : Nat := 0
  /-- The accepted socket of this entry. -/
  incarnation : Nat
  deriving DecidableEq

/-- The bytes from `bytes_sent` on. -/
def ConnectionState.pending (connection : ConnectionState) : Bytes :=
  connection.outputBuffer.drop connection.bytesSent

/-- The connection with received bytes appended to its input buffer. -/
def ConnectionState.receive (connection : ConnectionState) (bytes : Bytes) : ConnectionState :=
  { connection with inputBuffer := connection.inputBuffer ++ bytes }

@[simp] theorem ConnectionState.inputBuffer_receive (connection : ConnectionState)
    (bytes : Bytes) :
    (connection.receive bytes).inputBuffer = connection.inputBuffer ++ bytes := rfl

@[simp] theorem ConnectionState.pending_receive (connection : ConnectionState) (bytes : Bytes) :
    (connection.receive bytes).pending = connection.pending := rfl

@[simp] theorem ConnectionState.incarnation_receive (connection : ConnectionState)
    (bytes : Bytes) : (connection.receive bytes).incarnation = connection.incarnation := rfl

/-- The server: both tables, the kernel's epoll set and open descriptors, and the state `app` of the
layer above.  `accepted` and `journal` are auxiliary. -/
structure Server (App : Type) where
  /-- `listen_fd_`. -/
  listenFd : Fd := -1
  /-- `connections_`. -/
  connections : Fd → Option ConnectionState := fun _ => none
  /-- `handlers_`. -/
  handlers : Fd → Option Handler := fun _ => none
  /-- The kernel's epoll set. -/
  epoll : Fd → Option Events := fun _ => none
  /-- The kernel's open descriptors. -/
  descriptors : Fd → Option Descriptor := fun _ => none
  /-- State of the layer above. -/
  app : App
  /-- Number of sockets accepted so far. -/
  accepted : Nat := 0
  /-- What happened on each accepted socket. -/
  journal : Nat → Journal := fun _ => []

/-- A read through a reference or an iterator whose element was erased. -/
inductive Dangling where
  /-- `ProcessInput` reads `input_buffer` of an erased connection. -/
  | inputBuffer (fd : Fd)
  /-- `Reactor::Loop` reads a callback of an erased handler. -/
  | handler (fd : Fd)
  deriving DecidableEq

namespace Server

/-- Write back the entry of a connection. -/
def setConnection {App : Type} (server : Server App) (fd : Fd) (connection : ConnectionState) :
    Server App :=
  { server with connections := Function.update server.connections fd (some connection) }

/-- Note what happened on the socket behind a descriptor. -/
def record {App : Type} (server : Server App) (fd : Fd) (entries : Journal) : Server App :=
  match server.descriptors fd with
  | some (.connection incarnation) =>
      { server with
        journal := Function.update server.journal incarnation
          (server.journal incarnation ++ entries) }
  | _ => server

/-- `::close`: the kernel also drops the descriptor from its epoll set. -/
def closeDescriptor {App : Type} (server : Server App) (fd : Fd) : Server App :=
  { server with
    descriptors := Function.update server.descriptors fd none
    epoll := Function.update server.epoll fd none }

end Server

namespace Reactor

/-- `Reactor::Add`. -/
def add {App : Type} (server : Server App) (fd : Fd) (handler : Handler) : Server App :=
  { server with
    epoll := Function.update server.epoll fd (some handler.events)
    handlers := Function.update server.handlers fd (some handler) }

/-- `Reactor::Update`. -/
def update {App : Type} (server : Server App) (fd : Fd) (events : Events) : Server App :=
  match server.handlers fd with
  | none => server
  | some handler =>
      { server with
        epoll := Function.update server.epoll fd (some events)
        handlers := Function.update server.handlers fd (some { handler with events := events }) }

/-- `Reactor::Remove`. -/
def remove {App : Type} (server : Server App) (fd : Fd) : Server App :=
  { server with
    epoll := Function.update server.epoll fd none
    handlers := Function.update server.handlers fd none }

end Reactor

namespace ConnectionManager

/-- `kMaxFrameBodySize`. -/
def kMaxFrameBodySize : Nat := 4 * 1024 * 1024

/-- The entry that `Listen` adds for the listening descriptor. -/
def listenHandler : Handler where
  events := { epollin := true }
  onReadable := some .acceptLoop
  onWritable := none
  onError := some .close
  owner := .listener

/-- The entry that `AcceptLoop` adds for a new connection. -/
def connectionHandler (incarnation : Nat) (events : Events) : Handler where
  events := events
  onReadable := some .handleReadable
  onWritable := some .handleWritable
  onError := some .close
  owner := .connection incarnation

/-- Outcomes of the system calls of `Listen`; a failing `setsockopt` is only logged. -/
structure ListenOutcome where
  /-- What `socket` returned. -/
  socketFd : Fd
  /-- `SetNonBlocking` succeeded. -/
  nonBlocking : Bool
  /-- `inet_pton` accepted the host. -/
  validHost : Bool
  /-- `bind` succeeded. -/
  bound : Bool
  /-- `listen` succeeded. -/
  listening : Bool

/-- `ConnectionManager::Listen`: the return value and the server afterwards. -/
def listen {App : Type} (server : Server App) (outcome : ListenOutcome) : Bool × Server App :=
  let fd := outcome.socketFd
  if fd < 0 then (false, { server with listenFd := fd })
  else
    let server := { server with
      descriptors := Function.update server.descriptors fd (some .listener) }
    if outcome.nonBlocking && outcome.validHost && outcome.bound && outcome.listening then
      (true, Reactor.add { server with listenFd := fd } fd listenHandler)
    else
      (false, { server.closeDescriptor fd with listenFd := -1 })

/-- `ConnectionManager::UpdateInterest`. -/
def updateInterest {App : Type} (server : Server App) (fd : Fd) (wantWrite : Bool) : Server App :=
  Reactor.update server fd { epollin := true, epollout := wantWrite }

/-- `ConnectionManager::Close`. -/
def close {App : Type} (server : Server App) (fd : Fd) : Server App :=
  if fd = server.listenFd then
    { (Reactor.remove server fd).closeDescriptor fd with listenFd := -1 }
  else
    match server.connections fd with
    | none => server
    | some _ =>
        let server := (Reactor.remove server fd).closeDescriptor fd
        { server with connections := Function.update server.connections fd none }

/-- How a write loop ends. -/
inductive FlushEnd where
  /-- Everything was sent. -/
  | drained
  /-- The kernel takes no more for now. -/
  | blocked
  /-- `send` returned zero or failed. -/
  | failed
  deriving DecidableEq

/-- What a write loop did. -/
structure Flush where
  /-- How the loop ended. -/
  ending : FlushEnd
  /-- What each successful `send` took. -/
  chunks : List Bytes
  /-- The results that were not used. -/
  sends : List SendResult
  deriving DecidableEq

/-- The loop of `HandleWritable` on the bytes from `bytes_sent` on. -/
def flush (pending : Bytes) : List SendResult → Flush
  | [] => { ending := if pending = [] then .drained else .blocked, chunks := [], sends := [] }
  | result :: rest =>
      if pending = [] then { ending := .drained, chunks := [], sends := result :: rest }
      else
        match result with
        | .written 0 => { ending := .failed, chunks := [], sends := rest }
        | .written (count + 1) =>
            let behind := flush (pending.drop (count + 1)) rest
            { behind with chunks := pending.take (count + 1) :: behind.chunks }
        | .eintr => flush pending rest
        | .eagain => { ending := .blocked, chunks := [], sends := rest }
        | .error _ => { ending := .failed, chunks := [], sends := rest }

/-- `ConnectionManager::HandleWritable`, with the results left over. -/
def handleWritable {App : Type} (server : Server App) (fd : Fd) (sends : List SendResult) :
    Server App × List SendResult :=
  match server.connections fd with
  | none => (server, sends)
  | some connection =>
      let flushed := flush connection.pending sends
      let sent := connection.bytesSent + flushed.chunks.flatten.length
      let server := server.record fd (flushed.chunks.map .accepted)
      match flushed.ending with
      | .drained =>
          let drained := { connection with outputBuffer := [], bytesSent := 0 }
          (updateInterest (server.setConnection fd drained) fd false, flushed.sends)
      | .blocked =>
          (updateInterest (server.setConnection fd { connection with bytesSent := sent }) fd true,
            flushed.sends)
      | .failed =>
          (close (server.setConnection fd { connection with bytesSent := sent }) fd, flushed.sends)

/-- `ConnectionManager::Send`, with the results left over. -/
def send {App : Type} (server : Server App) (fd : Fd) (frame : Bytes) (sends : List SendResult) :
    Server App × List SendResult :=
  match server.connections fd with
  | none => (server, sends)
  | some connection =>
      let server := server.setConnection fd
        { connection with outputBuffer := connection.outputBuffer ++ frame }
      let server := server.record fd [.submitted frame]
      handleWritable (updateInterest server fd true) fd sends

/-- A frame handler: it works on the state above and may answer the frame with one `Send`. -/
abbrev FrameHandler (App : Type) := App → Bytes → App × Option Bytes

/-- One call of `frame_handler_`: the state above changes, then the reply is sent. -/
def callFrameHandler {App : Type} (handler : FrameHandler App) (server : Server App) (fd : Fd)
    (frame : Bytes) (sends : List SendResult) : Server App × List SendResult :=
  let (app, reply) := handler server.app frame
  let server := { server.record fd [.delivered frame] with app := app }
  match reply with
  | none => (server, sends)
  | some response => send server fd response sends

/-- The loop of `ProcessInput`.  The reference was taken on the entry of `incarnation`; the fuel
bounds the number of frames. -/
def processLoop {App : Type} (handler : FrameHandler App) (fd : Fd) (incarnation : Nat) :
    Nat → Server App → List SendResult → Except Dangling (Server App × List SendResult)
  | fuel, server, sends =>
      match server.connections fd with
      | none => .error (.inputBuffer fd)
      | some connection =>
          let input := connection.inputBuffer
          if connection.incarnation ≠ incarnation then .error (.inputBuffer fd)
          else if input.length < 4 then .ok (server, sends)
          else if decode32 input < 4 ∨ decode32 input > kMaxFrameBodySize then
            .ok (close server fd, sends)
          else if input.length < 4 + decode32 input then .ok (server, sends)
          else
            match fuel with
            | 0 => .ok (server, sends)
            | fuel + 1 =>
                let frame := input.take (4 + decode32 input)
                let erased := { connection with inputBuffer := input.drop (4 + decode32 input) }
                let (server, sends) :=
                  callFrameHandler handler (server.setConnection fd erased) fd frame sends
                processLoop handler fd incarnation fuel server sends

/-- `ConnectionManager::ProcessInput`. -/
def processInput {App : Type} (handler : FrameHandler App) (server : Server App) (fd : Fd)
    (sends : List SendResult) : Except Dangling (Server App × List SendResult) :=
  match server.connections fd with
  | none => .ok (server, sends)
  | some connection =>
      processLoop handler fd connection.incarnation connection.inputBuffer.length server sends

/-- How a read loop ends. -/
inductive ReadEnd where
  /-- `EAGAIN`. -/
  | wouldBlock
  /-- End of stream or a fatal error. -/
  | closed
  deriving DecidableEq

/-- The loop of `HandleReadable`: the chunks it appends and how it ends. -/
def recvLoop : List RecvResult → List Bytes × ReadEnd
  | [] => ([], .wouldBlock)
  | .bytes [] :: _ => ([], .closed)
  | .bytes (first :: chunk) :: rest =>
      ((first :: chunk) :: (recvLoop rest).1, (recvLoop rest).2)
  | .eintr :: rest => recvLoop rest
  | .eagain :: _ => ([], .wouldBlock)
  | .error _ :: _ => ([], .closed)

/-- `ConnectionManager::HandleReadable`. -/
def handleReadable {App : Type} (handler : FrameHandler App) (server : Server App) (fd : Fd)
    (recvs : List RecvResult) (sends : List SendResult) :
    Except Dangling (Server App × List SendResult) :=
  match server.connections fd with
  | none => .ok (server, sends)
  | some connection =>
      let (chunks, ending) := recvLoop recvs
      let server := server.setConnection fd (connection.receive chunks.flatten)
      let server := server.record fd (chunks.map .received)
      match ending with
      | .closed => .ok (close server fd, sends)
      | .wouldBlock => processInput handler (server.record fd [.blocked]) fd sends

/-- `ConnectionManager::AcceptLoop`.  The kernel never returns a descriptor that is open; such a
script entry is read as a failing `accept`.  `emplace` keeps an entry that is already there. -/
def acceptLoop {App : Type} (server : Server App) : List AcceptResult → Server App
  | [] => server
  | .eagain :: _ => server
  | .error _ :: _ => server
  | .eintr :: rest => acceptLoop server rest
  | .connection fd nonBlocking :: rest =>
      if fd < 0 ∨ server.descriptors fd ≠ none then server
      else
        let incarnation := server.accepted
        let server := { server with
          descriptors := Function.update server.descriptors fd (some (.connection incarnation))
          accepted := server.accepted + 1 }
        if ¬ nonBlocking then acceptLoop (server.closeDescriptor fd) rest
        else
          let entry := (server.connections fd).getD { incarnation := incarnation }
          let server := server.setConnection fd entry
          acceptLoop (Reactor.add server fd (connectionHandler incarnation { epollin := true }))
            rest

end ConnectionManager

end Hxrpc
