import Hxrpc.Client.Pool
import Mathlib.Data.List.AList

/-!
# Round trips, one system call at a time

The same calls of `RoundTrip` as in the pool's machine, at the level of descriptors: every system
call is a step of its own, with any result, and so is every section under `pool_mutex_`.  A step
that applies a system call to a descriptor which is not open is a misuse.  The kernel may give the
number of a closed descriptor to any later socket.
-/

namespace Hxrpc

open RpcStatusCode

namespace TcpClientTransport

namespace Descriptors

/-- How far a call came: the system call or locked section that is next. -/
inductive Phase where
  /-- The locked section of `BorrowConnection`. -/
  | borrow
  /-- `fcntl(F_GETFL)` on a reused socket. -/
  | getFlags (fd : Fd)
  /-- `fcntl(F_SETFL)` on a reused socket. -/
  | setFlags (fd : Fd)
  /-- `setsockopt(SO_RCVTIMEO)`, on a reused or on a new socket. -/
  | receiveTimeout (fd : Fd) (reused : Bool)
  /-- `setsockopt(SO_SNDTIMEO)`, on a reused or on a new socket. -/
  | sendTimeout (fd : Fd) (reused : Bool)
  /-- `CloseSocket` on a reused socket that could not be configured; `ConnectTo` follows, under the
  lock or not. -/
  | closeReused (fd : Fd) (locked : Bool)
  /-- `socket` in `ConnectTo`. -/
  | socket
  /-- `inet_pton`. -/
  | convertHost (fd : Fd)
  /-- `connect`. -/
  | connect (fd : Fd)
  /-- `close` on the way out of `ConnectTo`. -/
  | closeNew (fd : Fd) (error : RpcError)
  /-- `send` from the offset on. -/
  | send (fd : Fd) (offset : Nat)
  /-- `recv` of the length field. -/
  | recvLength (fd : Fd) (buffer : Bytes)
  /-- `recv` of the body. -/
  | recvBody (fd : Fd) (lengthField : Bytes) (size : Nat) (buffer : Bytes)
  /-- `CloseSocket` after a failed transfer. -/
  | closeFailed (fd : Fd) (error : RpcError)
  /-- The locked section of `ReturnConnection`. -/
  | giveBack (fd : Fd) (frame : Bytes)
  /-- `CloseSocket` in a full bucket. -/
  | closeSurplus (fd : Fd) (frame : Bytes)
  /-- The call returned. -/
  | finished (result : Except RpcError Bytes)

/-- The descriptor that a call holds. -/
def Phase.held : Phase → Option Fd
  | .borrow => none
  | .getFlags fd => some fd
  | .setFlags fd => some fd
  | .receiveTimeout fd _ => some fd
  | .sendTimeout fd _ => some fd
  | .closeReused fd _ => some fd
  | .socket => none
  | .convertHost fd => some fd
  | .connect fd => some fd
  | .closeNew fd _ => some fd
  | .send fd _ => some fd
  | .recvLength fd _ => some fd
  | .recvBody fd _ _ _ => some fd
  | .closeFailed fd _ => some fd
  | .giveBack fd _ => some fd
  | .closeSurplus fd _ => some fd
  | .finished _ => none

/-- The call has not returned. -/
def Phase.inProgress : Phase → Prop
  | .finished _ => False
  | _ => True

/-- One call. -/
structure Call where
  /-- `endpoint`. -/
  endpoint : Endpoint
  /-- `frame`. -/
  frame : Bytes
  /-- What it does next. -/
  phase : Phase

/-- The pool: endpoint keys with their idle sockets. -/
abbrev IdlePool := AList fun _ : Bytes => List Fd

/-- The bucket of a key; a missing bucket is empty. -/
def bucket (pool : IdlePool) (key : Bytes) : List Fd :=
  (pool.lookup key).getD []

/-- Take the last socket out of a bucket; an empty bucket is erased. -/
def popBack (pool : IdlePool) (key : Bytes) : IdlePool :=
  if (bucket pool key).dropLast = [] then pool.erase key
  else pool.insert key (bucket pool key).dropLast

/-- The transport with the calls in progress. -/
structure State where
  /-- The descriptors that the transport opened and did not close, with the endpoint each of them
  was opened for. -/
  opened : Fd → Option Endpoint := fun _ => none
  /-- `idle_pool_`. -/
  idlePool : IdlePool := ∅
  /-- The call that holds `pool_mutex_`. -/
  poolMutex : Option Nat := none
  /-- The calls. -/
  calls : Nat → Option Call := fun _ => none
  /-- How many calls were started. -/
  started : Nat := 0

/-- The result of the next step of a call. -/
inductive Outcome where
  /-- A locked section runs. -/
  | run
  /-- A system call returns; with an error number when it failed. -/
  | returned (errno : Option Nat)
  /-- `socket` returns a descriptor. -/
  | opened (fd : Fd)
  /-- `inet_pton` accepts the host or not. -/
  | converted (valid : Bool)
  /-- `send` returns. -/
  | sent (result : SendResult)
  /-- `recv` returns. -/
  | received (result : RecvResult)

/-- What happens next. -/
inductive Action where
  /-- A call begins. -/
  | start (endpoint : Endpoint) (frame : Bytes)
  /-- A call makes its next step. -/
  | move (id : Nat) (outcome : Outcome)

/-- A system call on a descriptor that is not open. -/
structure Misuse where
  /-- The descriptor. -/
  fd : Fd
  deriving DecidableEq

namespace State

/-- A call goes on to a phase. -/
def setPhase (state : State) (id : Nat) (call : Call) (phase : Phase) : State :=
  { state with calls := Function.update state.calls id (some { call with phase := phase }) }

/-- Leave the scope of the lock, if the call holds it. -/
def unlock (state : State) (id : Nat) : State :=
  { state with poolMutex := if state.poolMutex = some id then none else state.poolMutex }

/-- `close`: whatever it returns, the descriptor is gone. -/
def close (state : State) (fd : Fd) : State :=
  { state with opened := Function.update state.opened fd none }

end State

/-- The head of the loop of `SendAll`. -/
def continueSend (call : Call) (fd : Fd) (offset : Nat) : Phase :=
  if offset < call.frame.length then .send fd offset else .recvLength fd []

/-- Behind one iteration of `RecvAll` on the length field. -/
def continueLength (fd : Fd) (buffer : Bytes) : Phase :=
  if buffer.length < 4 then .recvLength fd buffer
  else
    match checkFrameSize buffer with
    | .error error => .closeFailed fd error
    | .ok size => .recvBody fd buffer size []

/-- Behind one iteration of `RecvAll` on the body. -/
def continueBody (fd : Fd) (lengthField : Bytes) (size : Nat) (buffer : Bytes) : Phase :=
  if buffer.length < size then .recvBody fd lengthField size buffer
  else .giveBack fd (lengthField ++ buffer)

/-- The failure of a system call of `ConnectTo`. -/
def systemError (strerror : Nat → Bytes) (what : String) (errno : Nat) : RpcError :=
  ⟨kNetworkError, buildSystemError strerror (text what) errno⟩

/-- The phase behind a system call that neither opens nor closes a descriptor, and whether the scope
of the lock ends there. -/
def afterCall (strerror : Nat → Bytes) (call : Call) : Phase → Outcome → Option (Phase × Bool)
  | .getFlags fd, .returned errno =>
      some (if errno.isNone then .setFlags fd else .closeReused fd true, false)
  | .setFlags fd, .returned errno =>
      some (if errno.isNone then .receiveTimeout fd true else .closeReused fd true, false)
  | .receiveTimeout fd reused, .returned none => some (.sendTimeout fd reused, false)
  | .receiveTimeout fd true, .returned (some _) => some (.closeReused fd false, false)
  | .receiveTimeout fd false, .returned (some errno) =>
      some (.closeNew fd (systemError strerror "setsockopt(RCVTIMEO) failed" errno), false)
  | .sendTimeout fd true, .returned none => some (continueSend call fd 0, true)
  | .sendTimeout fd false, .returned none => some (.connect fd, false)
  | .sendTimeout fd true, .returned (some _) => some (.closeReused fd false, false)
  | .sendTimeout fd false, .returned (some errno) =>
      some (.closeNew fd (systemError strerror "setsockopt(SNDTIMEO) failed" errno), false)
  | .convertHost fd, .converted true => some (.receiveTimeout fd false, false)
  | .convertHost fd, .converted false =>
      some (.closeNew fd ⟨kNetworkError, text "endpoint host is not a valid IPv4 address"⟩, false)
  | .connect fd, .returned none => some (continueSend call fd 0, true)
  | .connect fd, .returned (some errno) =>
      some (.closeNew fd (systemError strerror "connect failed" errno), false)
  | .send fd offset, .sent result =>
      match sendIteration strerror ⟨result, true⟩ with
      | .error error => some (.closeFailed fd error, false)
      | .ok count => some (continueSend call fd (offset + count), false)
  | .recvLength fd buffer, .received result =>
      match recvIteration strerror buffer ⟨result, true⟩ with
      | .error error => some (.closeFailed fd error, false)
      | .ok buffer => some (continueLength fd buffer, false)
  | .recvBody fd lengthField size buffer, .received result =>
      match recvIteration strerror buffer ⟨result, true⟩ with
      | .error error => some (.closeFailed fd error, false)
      | .ok buffer => some (continueBody fd lengthField size buffer, false)
  | _, _ => none

/-- Go on, and leave the scope of the lock if it ends here. -/
def goOn (state : State) (id : Nat) (call : Call) (behind : Phase × Bool) : State :=
  (if behind.2 then state.unlock id else state).setPhase id call behind.1

/-- The locked section of `BorrowConnection`: the last socket of the bucket, or none. -/
def borrowConnection (state : State) (id : Nat) (call : Call) : Option State :=
  if state.poolMutex ≠ none then none
  else
    let key := endpointKey call.endpoint
    match (bucket state.idlePool key).getLast? with
    | none => some (state.setPhase id call .socket)
    | some fd =>
        some ({ state with
          idlePool := popBack state.idlePool key
          poolMutex := some id }.setPhase id call (.getFlags fd))

/-- The locked section of `ReturnConnection`; a socket without a place is closed under the lock. -/
def returnConnection (state : State) (id : Nat) (call : Call) (fd : Fd) (frame : Bytes) :
    Option State :=
  if state.poolMutex ≠ none then none
  else
    let key := endpointKey call.endpoint
    if kMaxIdlePerEndpoint ≤ (bucket state.idlePool key).length then
      some ({ state with poolMutex := some id }.setPhase id call (.closeSurplus fd frame))
    else
      some ({ state with
        idlePool := state.idlePool.insert key (bucket state.idlePool key ++ [fd]) }.setPhase id call
          (.finished (.ok frame)))

/-- `socket`: the kernel never returns a descriptor that is open. -/
def openSocket (strerror : Nat → Bytes) (state : State) (id : Nat) (call : Call) :
    Outcome → Option State
  | .opened fd =>
      if fd < 0 ∨ state.opened fd ≠ none then none
      else
        some ({ state with
          opened := Function.update state.opened fd (some call.endpoint) }.setPhase id call
            (.convertHost fd))
  | .returned (some errno) =>
      some (goOn state id call (.finished (.error (systemError strerror "socket failed" errno)),
        true))
  | _ => none

/-- The next step of a call on descriptors that are open. -/
def move (strerror : Nat → Bytes) (state : State) (id : Nat) (call : Call) :
    Phase → Outcome → Option State
  | .borrow, .run => borrowConnection state id call
  | .socket, outcome => openSocket strerror state id call outcome
  | .giveBack fd frame, .run => returnConnection state id call fd frame
  | .closeReused fd locked, .returned _ =>
      some (goOn (state.close fd) id call (.socket, ¬ locked))
  | .closeNew fd error, .returned _ =>
      some (goOn (state.close fd) id call (.finished (.error error), true))
  | .closeFailed fd error, .returned _ =>
      some (goOn (state.close fd) id call (.finished (.error error), true))
  | .closeSurplus fd frame, .returned _ =>
      some (goOn (state.close fd) id call (.finished (.ok frame), true))
  | phase, outcome => (afterCall strerror call phase outcome).map (goOn state id call)

/-- One step of the machine. -/
def step (strerror : Nat → Bytes) (state : State) : Action → Option (Except Misuse State)
  | .start endpoint frame =>
      some (.ok { state with
        calls := Function.update state.calls state.started (some ⟨endpoint, frame, .borrow⟩)
        started := state.started + 1 })
  | .move id outcome => do
      let call ← state.calls id
      match call.phase.held with
      | some fd =>
          if state.opened fd = none then some (.error ⟨fd⟩)
          else (move strerror state id call call.phase outcome).map .ok
      | none => (move strerror state id call call.phase outcome).map .ok

/-- The states of all runs of a new transport. -/
inductive Run (strerror : Nat → Bytes) : State → Prop where
  | initial : Run strerror {}
  | step {state next : State} (action : Action) (before : Run strerror state)
      (moved : step strerror state action = some (.ok next)) : Run strerror next

/-- `CloseSocket` on each of the sockets. -/
def closeAll (opened : Fd → Option Endpoint) : List Fd → Except Misuse (Fd → Option Endpoint)
  | [] => .ok opened
  | fd :: rest =>
      if opened fd = none then .error ⟨fd⟩ else closeAll (Function.update opened fd none) rest

/-- `~TcpClientTransport`: the pool is closed bucket by bucket, in the order of the iteration over
the hash map. -/
def destroy (state : State) (order : List (Σ _ : Bytes, List Fd)) :
    Except Misuse (Fd → Option Endpoint) :=
  closeAll state.opened (order.flatMap Sigma.snd)

end Descriptors

end TcpClientTransport

end Hxrpc
