import Hxrpc.Client.Pairing
import Hxrpc.Dispatcher
import Hxrpc.Lib.GuardedRun

/-!
# The client

`InvokeAsync` in its two halves around the round trip, and a client with any number of calls under
way over one transport.
-/

namespace Hxrpc

open BigEndian RpcStatusCode StreamCut

/-- The fixed parts of a client. -/
structure RpcClient (Message : Type) where
  /-- Framework headers. -/
  headers : HeaderCodec
  /-- Business messages. -/
  messages : MessageRuntime Message

/-- The arguments of a call, with what `response` held before. -/
structure Invocation (Message : Type) where
  /-- `method`. -/
  method : MethodDescriptor
  /-- `request`. -/
  request : Message
  /-- `response`. -/
  response : Message
  /-- `options`. -/
  options : CallOptions := {}

/-- What a call hands to `RoundTripAsync`. -/
structure Outgoing where
  /-- Request id in the frame. -/
  requestId : UInt64
  /-- Resolved endpoint. -/
  endpoint : Endpoint
  /-- Request frame. -/
  frame : Bytes
  deriving DecidableEq

namespace RpcClient

variable {Message : Type}

/-- `RpcClient::InvokeAsync` up to the round trip, with the request counter before and after;
`resolved` is the result of the resolver. -/
def invokeAsyncSend (client : RpcClient Message) (nextRequestId : UInt64)
    (invocation : Invocation Message) (resolved : Except RpcError ServiceInstance) :
    Except RpcError Outgoing × UInt64 :=
  match resolved with
  | .error error => (.error error, nextRequestId)
  | .ok instance_ =>
      match ProtobufSerializer.serialize client.messages invocation.request with
      | .error error => (.error error, nextRequestId)
      | .ok payload =>
          let rpcRequest : RpcRequest :=
            { requestId := nextRequestId
              serviceName := invocation.method.serviceName
              methodName := invocation.method.name
              metadata := invocation.options.metadata
              payload := payload }
          match RpcCodec.encodeRequest client.headers rpcRequest with
          | .error error => (.error error, nextRequestId + 1)
          | .ok frame => (.ok ⟨nextRequestId, instance_.endpoint, frame⟩, nextRequestId + 1)

/-- `RpcClient::InvokeAsync` behind the round trip: the result, the caller's response object and the
message pool afterwards.  The pooled object is returned on every path behind its acquisition. -/
def invokeAsyncReceive (client : RpcClient Message) (pool : MessagePool Message)
    (response : Message) (responseFrame : Except RpcError Bytes) :
    Except RpcError Unit × Message × MessagePool Message :=
  match responseFrame with
  | .error error => (.error error, response, pool)
  | .ok frame =>
      match RpcCodec.decodeResponse client.headers frame with
      | .error error => (.error error, response, pool)
      | .ok rpcResponse =>
          if ¬ rpcResponse.ok then
            (.error ⟨rpcResponse.status, rpcResponse.errorText⟩, response, pool)
          else
            let key := client.messages.fullName response
            let (pooledResponse, pool) := pool.acquire client.messages response
            match ProtobufSerializer.deserialize client.messages rpcResponse.payload
                pooledResponse with
            | (pooledResponse, .error error) =>
                (.error error, response, pool.releaseHandle client.messages key pooledResponse)
            | (pooledResponse, .ok ()) =>
                (.ok (), pooledResponse, pool.releaseHandle client.messages key pooledResponse)

/-- `RpcClient::InvokeAsync` with the round trip on one connection: the result, the caller's
response object, the message pool and the request counter afterwards; none while the call has not
returned. -/
def invokeAsync (client : RpcClient Message) (strerror : Nat → Bytes) (nextRequestId : UInt64)
    (pool : MessagePool Message) (invocation : Invocation Message)
    (resolved : Except RpcError ServiceInstance) (sends : List TcpClientTransport.SendAttempt)
    (recvs : List TcpClientTransport.RecvAttempt) :
    Option (Except RpcError Unit × Message × MessagePool Message × UInt64) :=
  match client.invokeAsyncSend nextRequestId invocation resolved with
  | (.error error, nextRequestId) =>
      some (.error error, invocation.response, pool, nextRequestId)
  | (.ok outgoing, nextRequestId) =>
      match TcpClientTransport.roundTrip strerror outgoing.frame sends recvs with
      | none => none
      | some responseFrame =>
          let (result, response, pool) :=
            client.invokeAsyncReceive pool invocation.response responseFrame
          some (result, response, pool, nextRequestId)

/-- A call that fails leaves the caller's response object as it was. -/
theorem invokeAsyncReceive_error {client : RpcClient Message} {pool after : MessagePool Message}
    {response left : Message} {responseFrame : Except RpcError Bytes} {error : RpcError}
    (returned : client.invokeAsyncReceive pool response responseFrame =
      (.error error, left, after)) : left = response := by
  cases responseFrame with
  | error cause =>
      simp only [invokeAsyncReceive, Prod.mk.injEq] at returned
      exact returned.2.1.symm
  | ok frame =>
      simp only [invokeAsyncReceive] at returned
      split at returned
      · exact (Prod.mk.inj (Prod.mk.inj returned).2).1.symm
      · split_ifs at returned
        · split at returned
          · exact (Prod.mk.inj (Prod.mk.inj returned).2).1.symm
          · cases returned
        · exact (Prod.mk.inj (Prod.mk.inj returned).2).1.symm

/-- A call that succeeds has copied out the payload of the response frame. -/
theorem invokeAsyncReceive_ok {client : RpcClient Message} {pool after : MessagePool Message}
    {response copied : Message} {responseFrame : Except RpcError Bytes}
    (returned : client.invokeAsyncReceive pool response responseFrame = (.ok (), copied, after)) :
    ∃ frame rpcResponse, responseFrame = .ok frame ∧
      RpcCodec.decodeResponse client.headers frame = .ok rpcResponse ∧
      rpcResponse.ok = true ∧
      ProtobufSerializer.deserialize client.messages rpcResponse.payload
        (pool.acquire client.messages response).1 = (copied, .ok ()) := by
  cases responseFrame with
  | error error => simp [invokeAsyncReceive] at returned
  | ok frame =>
      simp only [invokeAsyncReceive] at returned
      split at returned
      · simp at returned
      · rename_i rpcResponse decoded
        split_ifs at returned with ok
        · refine ⟨frame, rpcResponse, rfl, decoded, ok, ?_⟩
          split at returned
          · simp at returned
          · rename_i pooled parsed
            rw [parsed]
            simp only [Prod.mk.injEq, true_and, and_true] at returned ⊢
            exact returned.1
        · simp at returned

/-- What `InvokeAsync` hands to the transport is the encoding of its own request. -/
theorem invokeAsyncSend_ok {client : RpcClient Message} {nextRequestId after : UInt64}
    {invocation : Invocation Message} {resolved : Except RpcError ServiceInstance}
    {outgoing : Outgoing}
    (sent : client.invokeAsyncSend nextRequestId invocation resolved = (.ok outgoing, after)) :
    ∃ payload, ProtobufSerializer.serialize client.messages invocation.request = .ok payload ∧
      RpcCodec.encodeRequest client.headers
        { requestId := outgoing.requestId
          serviceName := invocation.method.serviceName
          methodName := invocation.method.name
          metadata := invocation.options.metadata
          payload := payload } = .ok outgoing.frame := by
  simp only [invokeAsyncSend] at sent
  split at sent
  · simp at sent
  split at sent
  · simp at sent
  · rename_i payload serialized
    split at sent
    · simp at sent
    · rename_i frame encoded
      simp only [Prod.mk.injEq, Except.ok.injEq] at sent
      obtain ⟨rfl, -⟩ := sent
      exact ⟨payload, serialized, encoded⟩

/-! ## Calls over one transport -/

/-- A client with its calls.  Calls that reach the transport are numbered by it. -/
structure Session (Message : Type) where
  /-- `transport_`. -/
  transport : TcpClientTransport.State := {}
  /-- `next_request_id_`. -/
  nextRequestId : UInt64 := 1
  /-- `message_pool_`. -/
  messagePool : MessagePool Message := {}
  /-- The calls that wait for the transport or returned. -/
  sent : Nat → Option (Invocation Message × Outgoing) := fun _ => none
  /-- Results of the calls that returned, with the caller's response object. -/
  returned : Nat → Option (Except RpcError Unit × Message) := fun _ => none

/-- What happens next. -/
inductive Event (Message : Type) where
  /-- A call runs up to the round trip. -/
  | invoke (invocation : Invocation Message) (resolved : Except RpcError ServiceInstance)
  /-- A round trip makes its next move. -/
  | move (id : Nat) (outcome : TcpClientTransport.Outcome)
  /-- The peer of an open connection writes. -/
  | peerWrite (fd : Fd) (bytes : Bytes)
  /-- A call whose round trip returned runs to its end. -/
  | resume (id : Nat)

/-- One step of a client. -/
def step (client : RpcClient Message) (strerror : Nat → Bytes) (session : Session Message) :
    Event Message → Option (Session Message)
  | .invoke invocation resolved =>
      match client.invokeAsyncSend session.nextRequestId invocation resolved with
      | (.error _, nextRequestId) => some { session with nextRequestId := nextRequestId }
      | (.ok outgoing, nextRequestId) => do
          let transport ← TcpClientTransport.step strerror session.transport
            (.start outgoing.endpoint outgoing.frame)
          return { session with
            transport := transport
            nextRequestId := nextRequestId
            sent := Function.update session.sent session.transport.started
              (some (invocation, outgoing)) }
  | .move id outcome => do
      let transport ← TcpClientTransport.step strerror session.transport (.move id outcome)
      return { session with transport := transport }
  | .peerWrite fd bytes => do
      let transport ← TcpClientTransport.step strerror session.transport (.peerWrite fd bytes)
      return { session with transport := transport }
  | .resume id => do
      let (invocation, _) ← session.sent id
      let call ← session.transport.calls id
      match call.phase, session.returned id with
      | .finished responseFrame, none =>
          let (result, response, messagePool) :=
            client.invokeAsyncReceive session.messagePool invocation.response responseFrame
          some { session with
            messagePool := messagePool
            returned := Function.update session.returned id (some (result, response)) }
      | _, _ => none

/-- The states of the runs of a new client whose steps are all allowed. -/
inductive Run (client : RpcClient Message) (strerror : Nat → Bytes)
    (allowed : Session Message → Event Message → Prop) : Session Message → Prop where
  | initial : Run client strerror allowed {}
  | step {session next : Session Message} (event : Event Message)
      (before : Run client strerror allowed session) (permitted : allowed session event)
      (moved : step client strerror session event = some next) :
      Run client strerror allowed next

/-- What one step can do, with the call that it is about. -/
inductive Stepped (client : RpcClient Message) (strerror : Nat → Bytes)
    (session : Session Message) : Event Message → Session Message → Prop where
  | refused {invocation : Invocation Message} {resolved : Except RpcError ServiceInstance}
      {error : RpcError} {nextRequestId : UInt64}
      (failed : client.invokeAsyncSend session.nextRequestId invocation resolved =
        (.error error, nextRequestId)) :
      Stepped client strerror session (.invoke invocation resolved)
        { session with nextRequestId := nextRequestId }
  | sent {invocation : Invocation Message} {resolved : Except RpcError ServiceInstance}
      {outgoing : Outgoing} {nextRequestId : UInt64} {transport : TcpClientTransport.State}
      (encoded : client.invokeAsyncSend session.nextRequestId invocation resolved =
        (.ok outgoing, nextRequestId))
      (moved : TcpClientTransport.step strerror session.transport
        (.start outgoing.endpoint outgoing.frame) = some transport) :
      Stepped client strerror session (.invoke invocation resolved)
        { session with
          transport := transport
          nextRequestId := nextRequestId
          sent := Function.update session.sent session.transport.started
            (some (invocation, outgoing)) }
  | move {id : Nat} {outcome : TcpClientTransport.Outcome} {transport : TcpClientTransport.State}
      (moved : TcpClientTransport.step strerror session.transport (.move id outcome) =
        some transport) :
      Stepped client strerror session (.move id outcome) { session with transport := transport }
  | peerWrite {fd : Fd} {bytes : Bytes} {transport : TcpClientTransport.State}
      (moved : TcpClientTransport.step strerror session.transport (.peerWrite fd bytes) =
        some transport) :
      Stepped client strerror session (.peerWrite fd bytes)
        { session with transport := transport }
  | resume {id : Nat} {invocation : Invocation Message} {outgoing : Outgoing}
      {call : TcpClientTransport.Call} {responseFrame : Except RpcError Bytes}
      {result : Except RpcError Unit} {response : Message}
      {messagePool : MessagePool Message}
      (found : session.sent id = some (invocation, outgoing))
      (under_way : session.transport.calls id = some call)
      (finished : call.phase = .finished responseFrame) (waiting : session.returned id = none)
      (received : client.invokeAsyncReceive session.messagePool invocation.response responseFrame =
        (result, response, messagePool)) :
      Stepped client strerror session (.resume id)
        { session with
          messagePool := messagePool
          returned := Function.update session.returned id (some (result, response)) }

theorem stepped_of_step {client : RpcClient Message} {strerror : Nat → Bytes}
    {session next : Session Message} {event : Event Message}
    (moved : client.step strerror session event = some next) :
    Stepped client strerror session event next := by
  cases event with
  | invoke invocation resolved =>
      simp only [RpcClient.step] at moved
      split at moved
      · rename_i failed
        obtain rfl := Option.some.inj moved
        exact .refused failed
      · rename_i encoded
        simp only [Option.bind_eq_bind, Option.bind_eq_some_iff, Option.pure_def,
          Option.some.injEq] at moved
        obtain ⟨transport, started, rfl⟩ := moved
        exact .sent encoded started
  | move id outcome =>
      simp only [RpcClient.step, Option.bind_eq_bind, Option.bind_eq_some_iff, Option.pure_def,
        Option.some.injEq] at moved
      obtain ⟨transport, moved, rfl⟩ := moved
      exact .move moved
  | peerWrite fd bytes =>
      simp only [RpcClient.step, Option.bind_eq_bind, Option.bind_eq_some_iff, Option.pure_def,
        Option.some.injEq] at moved
      obtain ⟨transport, moved, rfl⟩ := moved
      exact .peerWrite moved
  | resume id =>
      simp only [RpcClient.step, Option.bind_eq_bind, Option.bind_eq_some_iff,
        Prod.exists] at moved
      obtain ⟨invocation, outgoing, found, call, under_way, moved⟩ := moved
      split at moved
      · rename_i responseFrame finished waiting
        obtain rfl := Option.some.inj moved
        exact .resume found under_way finished waiting rfl
      · cases moved

/-- A call returns its pooled object to the bucket of its type. -/
theorem typed_invokeAsyncReceive {client : RpcClient Message} (lawful : client.messages.Lawful)
    {pool : MessagePool Message} (typed : pool.Typed client.messages) (response : Message)
    (responseFrame : Except RpcError Bytes) :
    (client.invokeAsyncReceive pool response responseFrame).2.2.Typed client.messages := by
  have acquired := MessagePool.typed_acquire typed response
  have own_type : ∀ payload, client.messages.fullName (ProtobufSerializer.deserialize
      client.messages payload (pool.acquire client.messages response).1).1 =
        client.messages.fullName response := by
    intro payload
    rw [ProtobufSerializer.fullName_deserialize lawful, MessagePool.acquire_fst lawful typed,
      lawful.fullName_new]
  cases responseFrame with
  | error error => exact typed
  | ok frame =>
      simp only [invokeAsyncReceive]
      split
      · exact typed
      · rename_i rpcResponse decoded
        have own := own_type rpcResponse.payload
        split_ifs
        · split <;> rename_i parsed
          · rw [parsed] at own
            exact MessagePool.typed_releaseHandle lawful acquired own
          · rw [parsed] at own
            exact MessagePool.typed_releaseHandle lawful acquired own
        · exact typed

/-- Whatever calls a client made, its message pool is in order. -/
theorem typed_of_run {client : RpcClient Message} (lawful : client.messages.Lawful)
    {strerror : Nat → Bytes} {allowed : Session Message → Event Message → Prop}
    {session : Session Message} (run : Run client strerror allowed session) :
    session.messagePool.Typed client.messages := by
  induction run with
  | initial => exact MessagePool.typed_empty client.messages 32
  | step event before permitted moved typed =>
      cases stepped_of_step moved with
      | refused failed => exact typed
      | sent encoded carried => exact typed
      | move carried => exact typed
      | peerWrite carried => exact typed
      | @resume _ invocation _ _ responseFrame _ _ _ _ _ _ _ received =>
          have kept := typed_invokeAsyncReceive lawful typed invocation.response responseFrame
          rw [received] at kept
          exact kept

/-- Several steps of a client. -/
def perform (client : RpcClient Message) (strerror : Nat → Bytes) (session : Session Message)
    (events : List (Event Message)) : Option (Session Message) :=
  events.foldlM (client.step strerror) session

/-- Allowed events continue a run. -/
theorem Run.perform {client : RpcClient Message} {strerror : Nat → Bytes}
    {allowed : Session Message → Event Message → Prop} {session next : Session Message}
    (run : Run client strerror allowed session) {events : List (Event Message)}
    (permitted : ∀ event ∈ events, ∀ session, allowed session event)
    (performed : client.perform strerror session events = some next) :
    Run client strerror allowed next :=
  holds_of_foldlM (Run client strerror allowed) run
    (fun before member moved => before.step _ (permitted _ member _) moved) performed

/-- A client of services whose messages have two `bytes` fields. -/
def bytesClient : RpcClient Proto3.BytesMessage where
  headers := Proto3.headers
  messages := Proto3.messages

end RpcClient

end Hxrpc
