import Hxrpc.Client.RpcClient

/-!
# Calls after a failed call

The calls of a client share nothing but the message pool and the request counter.  For a given
request id and given answers of the resolver and of the transport, a call is a function of its
arguments: the pool hands out default instances whatever earlier calls left in it, half-parsed
messages included.  A failed call leaves the caller's object alone.  A call uses the pool behind its
round trip only and does not suspend there, so calls that overlap stand in a history in the order in
which their round trips return.
-/

namespace Hxrpc

open RpcStatusCode

namespace RpcClient

variable {Message : Type} {client : RpcClient Message}

/-- A call with what its surroundings do. -/
structure Attempt (Message : Type) where
  /-- The arguments. -/
  invocation : Invocation Message
  /-- What `next_request_id_` yields. -/
  requestId : UInt64
  /-- What the resolver returns. -/
  resolved : Except RpcError ServiceInstance
  /-- What `RoundTripAsync` returns. -/
  roundTrip : Outgoing → Except RpcError Bytes

/-- The call with another object for the response. -/
def Attempt.withResponse (attempt : Attempt Message) (response : Message) : Attempt Message :=
  { attempt with invocation := { attempt.invocation with response := response } }

/-- `RpcClient::InvokeAsync` in given surroundings: the result, the caller's response object and the
message pool afterwards. -/
def invokeAsyncIn (client : RpcClient Message) (pool : MessagePool Message)
    (attempt : Attempt Message) : Except RpcError Unit × Message × MessagePool Message :=
  match client.invokeAsyncSend attempt.requestId attempt.invocation attempt.resolved with
  | (.error error, _) => (.error error, attempt.invocation.response, pool)
  | (.ok outgoing, _) =>
      client.invokeAsyncReceive pool attempt.invocation.response (attempt.roundTrip outgoing)

/-- A call over one connection is a call whose transport makes the round trip there. -/
theorem invokeAsyncIn_of_invokeAsync {strerror : Nat → Bytes} {nextRequestId after : UInt64}
    {pool returned_pool : MessagePool Message} {invocation : Invocation Message}
    {resolved : Except RpcError ServiceInstance} {sends : List TcpClientTransport.SendAttempt}
    {recvs : List TcpClientTransport.RecvAttempt} {result : Except RpcError Unit}
    {response : Message}
    (returned : client.invokeAsync strerror nextRequestId pool invocation resolved sends recvs =
      some (result, response, returned_pool, after)) :
    client.invokeAsyncIn pool
        { invocation := invocation
          requestId := nextRequestId
          resolved := resolved
          roundTrip := fun outgoing =>
            (TcpClientTransport.roundTrip strerror outgoing.frame sends recvs).getD (.ok []) } =
      (result, response, returned_pool) := by
  simp only [invokeAsync] at returned
  simp only [invokeAsyncIn]
  cases sent : client.invokeAsyncSend nextRequestId invocation resolved with
  | mk sending counter =>
  cases sending with
  | error error =>
      simp only [sent, Option.some.injEq, Prod.mk.injEq] at returned ⊢
      exact ⟨returned.1, returned.2.1, returned.2.2.1⟩
  | ok outgoing =>
      cases finished : TcpClientTransport.roundTrip strerror outgoing.frame sends recvs with
      | none => simp [sent, finished] at returned
      | some responseFrame =>
          simp only [sent, finished, Option.some.injEq, Prod.mk.injEq] at returned
          obtain ⟨rfl, rfl, rfl, -⟩ := returned
          simp only [finished, Option.getD_some]

/-! ## A call without a pool -/

/-- What a frame that came back means for the caller's response object. -/
def received (client : RpcClient Message) (response : Message)
    (responseFrame : Except RpcError Bytes) : Except RpcError Unit × Message :=
  match responseFrame with
  | .error error => (.error error, response)
  | .ok frame =>
      match RpcCodec.decodeResponse client.headers frame with
      | .error error => (.error error, response)
      | .ok rpcResponse =>
          if ¬ rpcResponse.ok then
            (.error ⟨rpcResponse.status, rpcResponse.errorText⟩, response)
          else
            match ProtobufSerializer.deserialize client.messages rpcResponse.payload
                (client.messages.new response) with
            | (_, .error error) => (.error error, response)
            | (parsed, .ok ()) => (.ok (), parsed)

/-- The result of a call and the caller's response object afterwards. -/
def outcome (client : RpcClient Message) (attempt : Attempt Message) :
    Except RpcError Unit × Message :=
  match client.invokeAsyncSend attempt.requestId attempt.invocation attempt.resolved with
  | (.error error, _) => (.error error, attempt.invocation.response)
  | (.ok outgoing, _) =>
      client.received attempt.invocation.response (attempt.roundTrip outgoing)

theorem invokeAsyncReceive_eq (lawful : client.messages.Lawful) {pool : MessagePool Message}
    (typed : pool.Typed client.messages) (response : Message)
    (responseFrame : Except RpcError Bytes) :
    ∃ after, client.invokeAsyncReceive pool response responseFrame =
      ((client.received response responseFrame).1, (client.received response responseFrame).2,
        after) := by
  cases responseFrame with
  | error error => exact ⟨pool, rfl⟩
  | ok frame =>
      simp only [invokeAsyncReceive, received]
      cases RpcCodec.decodeResponse client.headers frame with
      | error error => exact ⟨pool, rfl⟩
      | ok rpcResponse =>
          simp only [MessagePool.acquire_fst lawful typed]
          by_cases ok : rpcResponse.ok = true
          · simp only [ok, not_true_eq_false, if_false]
            cases ProtobufSerializer.deserialize client.messages rpcResponse.payload
                (client.messages.new response) with
            | mk parsed result => cases result <;> exact ⟨_, rfl⟩
          · simp only [ok, Bool.false_eq_true, not_false_eq_true, if_true]
            exact ⟨pool, rfl⟩

/-- Whatever an orderly pool holds, a call has its outcome and leaves the pool in order. -/
theorem invokeAsyncIn_spec (lawful : client.messages.Lawful) {pool : MessagePool Message}
    (typed : pool.Typed client.messages) (attempt : Attempt Message) :
    ∃ after, after.Typed client.messages ∧
      client.invokeAsyncIn pool attempt =
        ((client.outcome attempt).1, (client.outcome attempt).2, after) := by
  simp only [invokeAsyncIn, outcome]
  cases client.invokeAsyncSend attempt.requestId attempt.invocation attempt.resolved with
  | mk sending counter =>
  cases sending with
  | error error => exact ⟨pool, typed, rfl⟩
  | ok outgoing =>
      obtain ⟨after, returned⟩ := invokeAsyncReceive_eq lawful typed attempt.invocation.response
        (attempt.roundTrip outgoing)
      have kept := typed_invokeAsyncReceive lawful typed attempt.invocation.response
        (attempt.roundTrip outgoing)
      rw [returned] at kept
      exact ⟨after, kept, returned⟩

/-- A failed call leaves the caller's response object as it was. -/
theorem outcome_error {attempt : Attempt Message} {error : RpcError}
    (failed : (client.outcome attempt).1 = .error error) :
    (client.outcome attempt).2 = attempt.invocation.response := by
  cases sent : client.invokeAsyncSend attempt.requestId attempt.invocation attempt.resolved with
  | mk sending counter =>
  cases sending with
  | error error => simp only [outcome, sent]
  | ok outgoing =>
  cases returned : attempt.roundTrip outgoing with
  | error error => simp only [outcome, sent, returned, received]
  | ok frame =>
  cases decoded : RpcCodec.decodeResponse client.headers frame with
  | error error => simp only [outcome, sent, returned, received, decoded]
  | ok rpcResponse =>
  cases ok : rpcResponse.ok with
  | false => simp [outcome, sent, returned, received, decoded, ok]
  | true =>
  cases deserialized : ProtobufSerializer.deserialize client.messages rpcResponse.payload
      (client.messages.new attempt.invocation.response) with
  | mk message result =>
  cases result with
  | error error => simp [outcome, sent, returned, received, decoded, ok, deserialized]
  | ok _ => simp [outcome, sent, returned, received, decoded, ok, deserialized] at failed

/-- A new object depends on the type of the prototype only. -/
theorem new_congr (lawful : client.messages.Lawful) {held response : Message}
    (same_type : client.messages.fullName held = client.messages.fullName response) :
    client.messages.new held = client.messages.new response :=
  (lawful.clear_eq_new rfl).symm.trans (lawful.clear_eq_new same_type)

/-- A call that succeeds leaves the parse of the reply payload in the caller's object, whatever the
object held before. -/
theorem outcome_ok (lawful : client.messages.Lawful) {attempt : Attempt Message}
    (succeeded : (client.outcome attempt).1 = .ok ()) :
    ∃ outgoing frame rpcResponse,
      (client.invokeAsyncSend attempt.requestId attempt.invocation attempt.resolved).1 =
        .ok outgoing ∧
      attempt.roundTrip outgoing = .ok frame ∧
      RpcCodec.decodeResponse client.headers frame = .ok rpcResponse ∧
      ∀ held, client.messages.fullName held =
          client.messages.fullName attempt.invocation.response →
        ProtobufSerializer.ParsesAs client.messages held rpcResponse.payload
            (client.outcome attempt).2 ∧
          client.outcome (attempt.withResponse held) = client.outcome attempt := by
  cases sent : client.invokeAsyncSend attempt.requestId attempt.invocation attempt.resolved with
  | mk sending counter =>
  cases sending with
  | error error => simp [outcome, sent] at succeeded
  | ok outgoing =>
  cases returned : attempt.roundTrip outgoing with
  | error error => simp [outcome, sent, returned, received] at succeeded
  | ok frame =>
  cases decoded : RpcCodec.decodeResponse client.headers frame with
  | error error => simp [outcome, sent, returned, received, decoded] at succeeded
  | ok rpcResponse =>
  have ok : rpcResponse.ok = true := by
    by_contra not_ok
    simp [outcome, sent, returned, received, decoded, not_ok] at succeeded
  have resent : ∀ held, client.invokeAsyncSend attempt.requestId
      { attempt.invocation with response := held } attempt.resolved = (.ok outgoing, counter) :=
    fun held => sent
  refine ⟨outgoing, frame, rpcResponse, rfl, returned, decoded, fun held same_type => ?_⟩
  have same := new_congr lawful same_type
  cases deserialized : ProtobufSerializer.deserialize client.messages rpcResponse.payload
      (client.messages.new attempt.invocation.response) with
  | mk message result =>
  cases result with
  | error error => simp [outcome, sent, returned, received, decoded, ok, deserialized] at succeeded
  | ok _ =>
      simp only [← ProtobufSerializer.deserialize_new_iff, outcome, Attempt.withResponse, resent,
        returned, received, decoded, ok, not_true_eq_false, if_false, deserialized, same,
        and_self]

/-! ## Histories -/

/-- The results of calls one after another, and the message pool behind them. -/
def invokeAll (client : RpcClient Message) :
    MessagePool Message → List (Attempt Message) →
      List (Except RpcError Unit × Message) × MessagePool Message
  | pool, [] => ([], pool)
  | pool, attempt :: attempts =>
      let (result, response, pool) := client.invokeAsyncIn pool attempt
      let (results, pool) := client.invokeAll pool attempts
      ((result, response) :: results, pool)

/-- Each call of a history has its own outcome. -/
theorem invokeAll_spec (lawful : client.messages.Lawful) {pool : MessagePool Message}
    (typed : pool.Typed client.messages) (attempts : List (Attempt Message)) :
    (client.invokeAll pool attempts).1 = attempts.map client.outcome ∧
      (client.invokeAll pool attempts).2.Typed client.messages := by
  induction attempts generalizing pool with
  | nil => exact ⟨rfl, typed⟩
  | cons attempt attempts ih =>
      obtain ⟨after, after_typed, returned⟩ := invokeAsyncIn_spec lawful typed attempt
      obtain ⟨results, final_typed⟩ := ih after_typed
      simp only [invokeAll, returned, results, List.map_cons, true_and]
      exact final_typed

/-- For every client that made any calls before: a call that fails leaves the caller's response
object as it was, and all later calls return what they would have returned without it; a call that
succeeds leaves the parse of the reply payload, whatever the response object held before. -/
theorem invokeAsync_reusable (lawful : client.messages.Lawful)
    (earlier : List (Attempt Message)) (attempt : Attempt Message) :
    (∀ error, (client.invokeAsyncIn (client.invokeAll {} earlier).2 attempt).1 = .error error →
      (client.invokeAsyncIn (client.invokeAll {} earlier).2 attempt).2.1 =
          attempt.invocation.response ∧
        ∀ later, (client.invokeAll
            (client.invokeAsyncIn (client.invokeAll {} earlier).2 attempt).2.2 later).1 =
          (client.invokeAll (client.invokeAll {} earlier).2 later).1) ∧
    ((client.invokeAsyncIn (client.invokeAll {} earlier).2 attempt).1 = .ok () →
      ∃ outgoing frame rpcResponse,
        (client.invokeAsyncSend attempt.requestId attempt.invocation attempt.resolved).1 =
          .ok outgoing ∧
        attempt.roundTrip outgoing = .ok frame ∧
        RpcCodec.decodeResponse client.headers frame = .ok rpcResponse ∧
        ∀ held, client.messages.fullName held =
            client.messages.fullName attempt.invocation.response →
          ProtobufSerializer.ParsesAs client.messages held rpcResponse.payload
              (client.invokeAsyncIn (client.invokeAll {} earlier).2 attempt).2.1 ∧
            (client.invokeAsyncIn (client.invokeAll {} earlier).2
                (attempt.withResponse held)).1 = .ok () ∧
            (client.invokeAsyncIn (client.invokeAll {} earlier).2
                (attempt.withResponse held)).2.1 =
              (client.invokeAsyncIn (client.invokeAll {} earlier).2 attempt).2.1) := by
  have new_pool := MessagePool.typed_empty client.messages 32
  obtain ⟨-, typed⟩ := invokeAll_spec lawful new_pool earlier
  obtain ⟨after, after_typed, returned⟩ := invokeAsyncIn_spec lawful typed attempt
  rw [returned]
  constructor
  · intro error failed
    refine ⟨outcome_error failed, fun later => ?_⟩
    rw [(invokeAll_spec lawful after_typed later).1, (invokeAll_spec lawful typed later).1]
  · intro succeeded
    obtain ⟨outgoing, frame, rpcResponse, sent, carried, decoded, parsed⟩ :=
      outcome_ok lawful succeeded
    refine ⟨outgoing, frame, rpcResponse, sent, carried, decoded, fun held same_type => ?_⟩
    obtain ⟨own, same⟩ := parsed held same_type
    obtain ⟨other_after, -, other_returned⟩ := invokeAsyncIn_spec lawful typed
      (attempt.withResponse held)
    rw [other_returned, same]
    exact ⟨own, succeeded, rfl⟩

/-- A call that gets the given frame back. -/
def answeredAttempt (frame : Bytes) : Attempt Proto3.BytesMessage where
  invocation :=
    { method := ⟨text "S", text "M"⟩
      request := ⟨text "T", [65], []⟩
      response := ⟨text "T", [1], [2]⟩ }
  requestId := 1
  resolved := .ok ⟨text "instance", text "127.0.0.1", 9000⟩
  roundTrip _ := .ok frame

/-- A response with the payload `name = "A"`. -/
def wholeReply : Bytes := [0, 0, 0, 11, 0, 0, 0, 4, 8, 1, 32, 3, 10, 1, 65]

/-- A response whose payload ends inside a field. -/
def cutReply : Bytes := [0, 0, 0, 12, 0, 0, 0, 4, 8, 1, 32, 4, 10, 1, 65, 10]

theorem invokeAsync_reusable_cutReply :
    ((bytesClient.invokeAsyncIn (bytesClient.invokeAll {} [answeredAttempt wholeReply]).2
        (answeredAttempt cutReply)).2.1 = ⟨text "T", [1], [2]⟩ ∧
      ∀ later, (bytesClient.invokeAll
          (bytesClient.invokeAsyncIn (bytesClient.invokeAll {} [answeredAttempt wholeReply]).2
            (answeredAttempt cutReply)).2.2 later).1 =
        (bytesClient.invokeAll
          (bytesClient.invokeAll {} [answeredAttempt wholeReply]).2 later).1) ∧
    ∀ held, bytesClient.messages.fullName held = text "T" →
      ((bytesClient.invokeAsyncIn (bytesClient.invokeAll {} [answeredAttempt cutReply]).2
          ((answeredAttempt wholeReply).withResponse held)).1 = .ok () ∧
        (bytesClient.invokeAsyncIn (bytesClient.invokeAll {} [answeredAttempt cutReply]).2
          ((answeredAttempt wholeReply).withResponse held)).2.1 = ⟨text "T", [65], []⟩) := by
  constructor
  · exact (@invokeAsync_reusable _ bytesClient Proto3.messages_lawful [answeredAttempt wholeReply]
      (answeredAttempt cutReply)).1
        ⟨kDeserializeError, text "protobuf deserialize failed"⟩ (by decide +kernel)
  · intro held same_type
    obtain ⟨outgoing, frame, rpcResponse, -, -, -, copied⟩ :=
      (@invokeAsync_reusable _ bytesClient Proto3.messages_lawful [answeredAttempt cutReply]
        (answeredAttempt wholeReply)).2 (by decide +kernel)
    obtain ⟨-, succeeded, same⟩ := copied held same_type
    have parsed : (bytesClient.invokeAsyncIn
        (bytesClient.invokeAll {} [answeredAttempt cutReply]).2
        (answeredAttempt wholeReply)).2.1 = ⟨text "T", [65], []⟩ := by decide +kernel
    exact ⟨succeeded, same.trans parsed⟩

end RpcClient

end Hxrpc
