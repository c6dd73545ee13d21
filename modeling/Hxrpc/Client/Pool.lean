import Hxrpc.Client.Transport
import Mathlib.Logic.Function.Basic
import Mathlib.Logic.Relation

/-!
# Concurrent round trips over the connection pool

Any number of `RoundTrip` calls run at the same time.  A state holds the pool of idle sockets, the
kernel's sockets, and for every call the point it has reached; a step is the next locked section or
system call of one call, with its outcome, or a write of a peer.  Every interleaving and every
outcome is a run of this machine.
-/

namespace Hxrpc

open RpcStatusCode

namespace TcpClientTransport

/-- `kMaxIdlePerEndpoint`. -/
def kMaxIdlePerEndpoint : Nat := 8

/-- `TcpClientTransport::EndpointKey`. -/
def endpointKey (endpoint : Endpoint) : Bytes :=
  endpoint.toString

/-- A request that a call began to send. -/
structure Posted where
  /-- Number of the call. -/
  call : Nat
  /-- Its request frame. -/
  frame : Bytes
  deriving DecidableEq

/-- A connection of the client.  All fields but the unread bytes are auxiliary: they tell what was
sent and written on the connection, and which call holds it. -/
structure Socket where
  /-- The endpoint it was opened to. -/
  endpoint : Endpoint
  /-- Bytes that arrived and were not read. -/
  incoming : Bytes := []
  /-- Requests in the order in which their sending began. -/
  requests : List Posted := []
  /-- How many requests the kernel took completely. -/
  completed : Nat := 0
  /-- Everything the peer wrote. -/
  written : Bytes := []
  /-- The call that holds the connection; none while it is idle. -/
  holder : Option Nat
  deriving DecidableEq

/-- Bytes of the peer arrive. -/
def Socket.write (socket : Socket) (bytes : Bytes) : Socket :=
  { socket with
    incoming := socket.incoming ++ bytes
    written := socket.written ++ bytes }

/-- How far a call of `RoundTrip` came. -/
inductive Phase where
  /-- `BorrowConnection` is next. -/
  | borrow
  /-- `ConnectTo` is next. -/
  | connect
  /-- Inside `SendAll`. -/
  | send (fd : Fd) (offset : Nat)
  /-- Inside `ReceiveFrame`, reading the length field. -/
  | recvLength (fd : Fd) (buffer : Bytes)
  /-- Inside `ReceiveFrame`, reading the body. -/
  | recvBody (fd : Fd) (lengthField : Bytes) (size : Nat) (buffer : Bytes)
  /-- `ReturnConnection` is next. -/
  | giveBack (fd : Fd) (frame : Bytes)
  /-- It returned. -/
  | finished (result : Except RpcError Bytes)
  deriving DecidableEq

/-- One call of `RoundTrip`. -/
structure Call where
  /-- Target of the call. -/
  endpoint : Endpoint
  /-- Request frame. -/
  frame : Bytes
  /-- How far it came. -/
  phase : Phase
  deriving DecidableEq

/-- The transport, the kernel's sockets and the calls. -/
structure State where
  /-- `idle_pool_`; an absent bucket is empty. -/
  idlePool : Bytes → List Fd := fun _ => []
  /-- The kernel's open descriptors: the number of the socket behind each. -/
  fds : Fd → Option Nat := fun _ => none
  /-- All sockets ever connected, by number. -/
  sockets : Nat → Option Socket := fun _ => none
  /-- How many sockets were connected. -/
  opened : Nat := 0
  /-- All calls ever started, by number. -/
  calls : Nat → Option Call := fun _ => none
  /-- How many calls were started. -/
  started : Nat := 0

/-- Outcome of the system calls on a borrowed socket. -/
inductive BorrowOutcome where
  | ready
  | blockingModeFailed
  | configureFailed
  deriving DecidableEq

/-- Outcome of the system calls of `ConnectTo`. -/
inductive ConnectOutcome where
  | socketFailed (errno : Nat)
  | invalidHost
  | receiveTimeoutFailed (errno : Nat)
  | sendTimeoutFailed (errno : Nat)
  | connectFailed (errno : Nat)
  | connected (fd : Fd)
  deriving DecidableEq

/-- Outcome of one `recv`: how many bytes it takes off the socket, or why it takes none. -/
inductive RecvOutcome where
  | bytes (count : Nat)
  | closed
  | eintr
  | eagain
  | error (errno : Nat)
  deriving DecidableEq

/-- Outcome of the next locked section or system call of a call. -/
inductive Outcome where
  | borrow (outcome : BorrowOutcome)
  | connect (outcome : ConnectOutcome)
  | send (result : SendResult)
  | recv (outcome : RecvOutcome)
  | giveBack
  deriving DecidableEq

/-- What happens next. -/
inductive Action where
  /-- A call begins. -/
  | start (endpoint : Endpoint) (frame : Bytes)
  /-- A call makes its next move. -/
  | move (id : Nat) (outcome : Outcome)
  /-- The peer of an open connection writes. -/
  | peerWrite (fd : Fd) (bytes : Bytes)

namespace State

/-- A call goes on to a phase. -/
def setPhase (state : State) (id : Nat) (call : Call) (phase : Phase) : State :=
  { state with calls := Function.update state.calls id (some { call with phase := phase }) }

/-- Write back a socket. -/
def setSocket (state : State) (number : Nat) (socket : Socket) : State :=
  { state with sockets := Function.update state.sockets number (some socket) }

/-- `TcpClientTransport::CloseSocket`. -/
def closeSocket (state : State) (fd : Fd) : State :=
  { state with fds := Function.update state.fds fd none }

end State

/-- The head of the loop of `SendAll`: send more or begin to receive. -/
def continueSend (state : State) (id : Nat) (call : Call) (fd : Fd) (number : Nat)
    (socket : Socket) (offset : Nat) : State :=
  if offset < call.frame.length then
    (state.setSocket number socket).setPhase id call (.send fd offset)
  else
    (state.setSocket number { socket with completed := socket.completed + 1 }).setPhase id call
      (.recvLength fd [])

/-- The connection is handed to the call, which begins to send its frame. -/
def hold (state : State) (id : Nat) (call : Call) (fd : Fd) (number : Nat) (socket : Socket) :
    State :=
  continueSend state id call fd number
    { socket with
      holder := some id
      requests := socket.requests ++ [⟨id, call.frame⟩] } 0

/-- The locked section of `TcpClientTransport::BorrowConnection`: the last idle socket of the
endpoint, or none. -/
def borrowConnection (state : State) (id : Nat) (call : Call) (outcome : BorrowOutcome) :
    Option State :=
  let key := endpointKey call.endpoint
  match (state.idlePool key).getLast? with
  | none => some (state.setPhase id call .connect)
  | some fd =>
      let popped := { state with
        idlePool := Function.update state.idlePool key (state.idlePool key).dropLast }
      match outcome with
      | .blockingModeFailed => some ((popped.closeSocket fd).setPhase id call .connect)
      | .configureFailed => some ((popped.closeSocket fd).setPhase id call .connect)
      | .ready =>
          match state.fds fd with
          | none => none
          | some number =>
              match state.sockets number with
              | none => none
              | some socket => some (hold popped id call fd number socket)

/-- `TcpClientTransport::ConnectTo`; a failing call closes the socket it opened.  The kernel never
returns a descriptor that is open. -/
def connectTo (strerror : Nat → Bytes) (state : State) (id : Nat) (call : Call) :
    ConnectOutcome → Option State
  | .socketFailed errno => some (state.setPhase id call (.finished (.error
      ⟨kNetworkError, buildSystemError strerror (text "socket failed") errno⟩)))
  | .invalidHost => some (state.setPhase id call (.finished (.error
      ⟨kNetworkError, text "endpoint host is not a valid IPv4 address"⟩)))
  | .receiveTimeoutFailed errno => some (state.setPhase id call (.finished (.error
      ⟨kNetworkError, buildSystemError strerror (text "setsockopt(RCVTIMEO) failed") errno⟩)))
  | .sendTimeoutFailed errno => some (state.setPhase id call (.finished (.error
      ⟨kNetworkError, buildSystemError strerror (text "setsockopt(SNDTIMEO) failed") errno⟩)))
  | .connectFailed errno => some (state.setPhase id call (.finished (.error
      ⟨kNetworkError, buildSystemError strerror (text "connect failed") errno⟩)))
  | .connected fd =>
      if fd < 0 ∨ state.fds fd ≠ none then none
      else
        let number := state.opened
        let connected := { state with
          fds := Function.update state.fds fd (some number)
          opened := state.opened + 1 }
        some (hold connected id call fd number { endpoint := call.endpoint, holder := none })

/-- A call closes its connection and returns an error. -/
def fail (state : State) (id : Nat) (call : Call) (fd : Fd) (error : RpcError) : State :=
  (state.closeSocket fd).setPhase id call (.finished (.error error))

/-- One iteration of `SendAll`. -/
def sendStep (strerror : Nat → Bytes) (state : State) (id : Nat) (call : Call) (fd : Fd)
    (number : Nat) (socket : Socket) (offset : Nat) (result : SendResult) : State :=
  match sendIteration strerror ⟨result, true⟩ with
  | .error error => fail state id call fd error
  | .ok count => continueSend state id call fd number socket (offset + count)

/-- The result of `recv` with an outcome, when `missing` bytes are asked for. -/
def recvResult (socket : Socket) (missing : Nat) : RecvOutcome → Option RecvResult
  | .bytes count =>
      if 0 < count ∧ count ≤ missing ∧ count ≤ socket.incoming.length then
        some (.bytes (socket.incoming.take count))
      else none
  | .closed => some (.bytes [])
  | .eintr => some .eintr
  | .eagain => some .eagain
  | .error errno => some (.error errno)

/-- One iteration of `RecvAll` on the length field; a complete field is checked. -/
def recvLengthStep (strerror : Nat → Bytes) (state : State) (id : Nat) (call : Call) (fd : Fd)
    (number : Nat) (socket : Socket) (buffer : Bytes) (result : RecvResult) : State :=
  match recvIteration strerror buffer ⟨result, true⟩ with
  | .error error => fail state id call fd error
  | .ok buffer =>
      let read := state.setSocket number
        { socket with incoming := socket.incoming.drop result.chunk.length }
      if buffer.length < 4 then read.setPhase id call (.recvLength fd buffer)
      else
        match checkFrameSize buffer with
        | .error error => fail read id call fd error
        | .ok size => read.setPhase id call (.recvBody fd buffer size [])

/-- One iteration of `RecvAll` on the body. -/
def recvBodyStep (strerror : Nat → Bytes) (state : State) (id : Nat) (call : Call) (fd : Fd)
    (number : Nat) (socket : Socket) (lengthField : Bytes) (size : Nat) (buffer : Bytes)
    (result : RecvResult) : State :=
  match recvIteration strerror buffer ⟨result, true⟩ with
  | .error error => fail state id call fd error
  | .ok buffer =>
      let read := state.setSocket number
        { socket with incoming := socket.incoming.drop result.chunk.length }
      if buffer.length < size then read.setPhase id call (.recvBody fd lengthField size buffer)
      else read.setPhase id call (.giveBack fd (lengthField ++ buffer))

/-- `TcpClientTransport::ReturnConnection`, and the return of the call. -/
def returnConnection (state : State) (id : Nat) (call : Call) (fd : Fd) (number : Nat)
    (socket : Socket) (frame : Bytes) : State :=
  let key := endpointKey call.endpoint
  if kMaxIdlePerEndpoint ≤ (state.idlePool key).length then
    (state.closeSocket fd).setPhase id call (.finished (.ok frame))
  else
    let returned := { state with
      idlePool := Function.update state.idlePool key (state.idlePool key ++ [fd]) }
    (returned.setSocket number { socket with holder := none }).setPhase id call
      (.finished (.ok frame))

/-- The socket behind an open descriptor. -/
def State.socketAt (state : State) (fd : Fd) : Option (Nat × Socket) := do
  let number ← state.fds fd
  let socket ← state.sockets number
  return (number, socket)

/-- The next move of a call. -/
def move (strerror : Nat → Bytes) (state : State) (id : Nat) (call : Call) :
    Phase → Outcome → Option State
  | .borrow, .borrow outcome => borrowConnection state id call outcome
  | .connect, .connect outcome => connectTo strerror state id call outcome
  | .send fd offset, .send result => do
      let (number, socket) ← state.socketAt fd
      return sendStep strerror state id call fd number socket offset result
  | .recvLength fd buffer, .recv outcome => do
      let (number, socket) ← state.socketAt fd
      let result ← recvResult socket (4 - buffer.length) outcome
      return recvLengthStep strerror state id call fd number socket buffer result
  | .recvBody fd lengthField size buffer, .recv outcome => do
      let (number, socket) ← state.socketAt fd
      let result ← recvResult socket (size - buffer.length) outcome
      return recvBodyStep strerror state id call fd number socket lengthField size buffer result
  | .giveBack fd frame, .giveBack => do
      let (number, socket) ← state.socketAt fd
      return returnConnection state id call fd number socket frame
  | _, _ => none

/-- One step of the machine. -/
def step (strerror : Nat → Bytes) (state : State) : Action → Option State
  | .start endpoint frame =>
      some { state with
        calls := Function.update state.calls state.started (some ⟨endpoint, frame, .borrow⟩)
        started := state.started + 1 }
  | .move id outcome => do
      let call ← state.calls id
      move strerror state id call call.phase outcome
  | .peerWrite fd bytes => do
      let (number, socket) ← state.socketAt fd
      return state.setSocket number (socket.write bytes)

/-- The states of the runs from an empty transport whose steps are all allowed. -/
inductive Run (strerror : Nat → Bytes) (allowed : State → Action → Prop) : State → Prop where
  | initial : Run strerror allowed {}
  | step {state next : State} (action : Action) (before : Run strerror allowed state)
      (permitted : allowed state action) (moved : step strerror state action = some next) :
      Run strerror allowed next

/-! ## What a move does to the calls -/

/-- The call goes on to some phase; no other call changes. -/
def GoesOn (id : Nat) (call : Call) (before after : State) : Prop :=
  after.started = before.started ∧ ∃ phase,
    after.calls = Function.update before.calls id (some { call with phase := phase })

section GoesOn

variable {strerror : Nat → Bytes} {state next : State} {id number : Nat} {call : Call} {fd : Fd}
  {socket : Socket}

theorem goesOn_continueSend (offset : Nat) :
    GoesOn id call state (continueSend state id call fd number socket offset) := by
  simp only [continueSend]
  split_ifs <;> exact ⟨rfl, _, rfl⟩

theorem goesOn_borrowConnection {outcome : BorrowOutcome}
    (moved : borrowConnection state id call outcome = some next) : GoesOn id call state next := by
  simp only [borrowConnection] at moved
  split at moved
  · obtain rfl := Option.some.inj moved
    exact ⟨rfl, _, rfl⟩
  cases outcome with
  | blockingModeFailed =>
      obtain rfl := Option.some.inj moved
      exact ⟨rfl, _, rfl⟩
  | configureFailed =>
      obtain rfl := Option.some.inj moved
      exact ⟨rfl, _, rfl⟩
  | ready =>
      simp only at moved
      split at moved
      · cases moved
      split at moved
      · cases moved
      · obtain rfl := Option.some.inj moved
        exact goesOn_continueSend 0

theorem goesOn_connectTo {outcome : ConnectOutcome}
    (moved : connectTo strerror state id call outcome = some next) :
    GoesOn id call state next := by
  match outcome with
  | .socketFailed _ | .invalidHost | .receiveTimeoutFailed _ | .sendTimeoutFailed _
  | .connectFailed _ =>
      obtain rfl := Option.some.inj moved
      exact ⟨rfl, _, rfl⟩
  | .connected fd =>
      simp only [connectTo] at moved
      split_ifs at moved
      obtain rfl := Option.some.inj moved
      exact goesOn_continueSend 0

theorem goesOn_sendStep (offset : Nat) (result : SendResult) :
    GoesOn id call state (sendStep strerror state id call fd number socket offset result) := by
  simp only [sendStep]
  split
  · exact ⟨rfl, _, rfl⟩
  · exact goesOn_continueSend _

theorem goesOn_recvLengthStep (buffer : Bytes) (result : RecvResult) :
    GoesOn id call state
      (recvLengthStep strerror state id call fd number socket buffer result) := by
  simp only [recvLengthStep]
  split
  · exact ⟨rfl, _, rfl⟩
  split_ifs
  · exact ⟨rfl, _, rfl⟩
  split <;> exact ⟨rfl, _, rfl⟩

theorem goesOn_recvBodyStep (lengthField : Bytes) (size : Nat) (buffer : Bytes)
    (result : RecvResult) :
    GoesOn id call state
      (recvBodyStep strerror state id call fd number socket lengthField size buffer result) := by
  simp only [recvBodyStep]
  split
  · exact ⟨rfl, _, rfl⟩
  split_ifs <;> exact ⟨rfl, _, rfl⟩

theorem goesOn_returnConnection (frame : Bytes) :
    GoesOn id call state (returnConnection state id call fd number socket frame) := by
  simp only [returnConnection]
  split_ifs <;> exact ⟨rfl, _, rfl⟩

/-- A move changes the phase of its own call, which has not returned. -/
theorem goesOn_move {phase : Phase} {outcome : Outcome}
    (moved : move strerror state id call phase outcome = some next) :
    GoesOn id call state next ∧ ∀ result, phase ≠ .finished result := by
  simp only [move, Option.bind_eq_bind, Option.pure_def] at moved
  split at moved
  case h_1 => exact ⟨goesOn_borrowConnection moved, by simp⟩
  case h_2 => exact ⟨goesOn_connectTo moved, by simp⟩
  case h_7 => cases moved
  all_goals
    simp only [Option.bind_eq_some_iff, Option.some.injEq] at moved
    refine ⟨?_, by simp⟩
  case h_3 =>
      obtain ⟨_, -, rfl⟩ := moved
      exact goesOn_sendStep _ _
  case h_4 =>
      obtain ⟨_, -, _, -, rfl⟩ := moved
      exact goesOn_recvLengthStep _ _
  case h_5 =>
      obtain ⟨_, -, _, -, rfl⟩ := moved
      exact goesOn_recvBodyStep _ _ _ _
  case h_6 =>
      obtain ⟨_, -, rfl⟩ := moved
      exact goesOn_returnConnection _

end GoesOn

end TcpClientTransport

end Hxrpc
