import Hxrpc.Client.RpcClient
import Hxrpc.Server.Exchange
import Hxrpc.Server.Guarantees

/-!
# A call from the client to the service and back

`InvokeAsync` of a client and the event loop of a server, joined by the bytes that each kernel took
from one side and handed to the other.  The call returns the message that the service produced for
exactly its request and metadata, or exactly the error of `HandleFrame`.
-/

namespace Hxrpc

open BigEndian RpcStatusCode StreamCut ConnectionManager Reactor RpcServer TcpClientTransport

namespace RpcDispatcher

variable {Message : Type} {dispatcher : RpcDispatcher Message}

/-- A client with the message definitions of the server. -/
def client (dispatcher : RpcDispatcher Message) : RpcClient Message where
  headers := dispatcher.headers
  messages := dispatcher.messages

/-- The request of a call. -/
def rpcRequest (invocation : Invocation Message) (requestId : UInt64) (payload : Bytes) :
    RpcRequest where
  requestId := requestId
  serviceName := invocation.method.serviceName
  methodName := invocation.method.name
  metadata := invocation.options.metadata
  payload := payload

/-- The client and the registered method agree on the message types. -/
def SameTypes (dispatcher : RpcDispatcher Message) (invocation : Invocation Message) : Prop :=
  ∀ registered,
    dispatcher.registry.find invocation.method.serviceName invocation.method.name =
      .ok registered →
    dispatcher.messages.fullName (registered.service.requestPrototype registered.method) =
        dispatcher.messages.fullName invocation.request ∧
      dispatcher.messages.fullName (registered.service.responsePrototype registered.method) =
        dispatcher.messages.fullName invocation.response

theorem fullName_produce (lawful : dispatcher.messages.Lawful)
    (registered : RegisteredMethod dispatcher.messages) (request : Message) (metadata : Bytes) :
    dispatcher.messages.fullName (registered.produce request metadata).response =
      dispatcher.messages.fullName (registered.service.responsePrototype registered.method) := by
  rw [RegisteredMethod.produce, registered.service.callMethod_fullName, lawful.fullName_new]

/-- A request frame that is answered by a value was handled by a registered method that ran `done`,
and the value encodes what it produced. -/
theorem respond_eq_ok (headers_lawful : dispatcher.headers.Lawful)
    (lawful : dispatcher.messages.Lawful) (round_trips : dispatcher.messages.RoundTrips)
    {invocation : Invocation Message} {requestId : UInt64} {payload requestFrame response : Bytes}
    (serialized : ProtobufSerializer.serialize dispatcher.messages invocation.request =
      .ok payload)
    (encoded : RpcCodec.encodeRequest dispatcher.headers
      (rpcRequest invocation requestId payload) = .ok requestFrame)
    (fits : requestFrame.length - kLengthPrefixSize ≤ maxFrameBody)
    (same_types : dispatcher.SameTypes invocation)
    (responded : dispatcher.respond requestFrame = .ok response) :
    ∃ registered produced,
      dispatcher.registry.find invocation.method.serviceName invocation.method.name =
        .ok registered ∧
      (registered.produce invocation.request invocation.options.metadata).doneCalled = true ∧
      ProtobufSerializer.serialize dispatcher.messages
        (registered.produce invocation.request invocation.options.metadata).response =
          .ok produced ∧
      RpcCodec.encodeResponse dispatcher.headers ⟨requestId, kOk, [], produced⟩ =
        .ok response := by
  have short : requestFrame.length < 2 ^ 31 := by
    simp only [kLengthPrefixSize, maxFrameBody] at fits
    omega
  have payload_short : payload.length < 2 ^ 31 := by
    obtain ⟨header, -, framed⟩ := RpcCodec.encodeRequest_eq_ok encoded
    have length := length_of_encodeFrame framed
    simp only [List.length_append, rpcRequest] at length
    omega
  rw [respond, RpcCodec.decodeRequest_encodeRequest headers_lawful encoded (by omega)] at responded
  simp only [answer, rpcRequest] at responded
  split at responded
  · cases responded
  · rename_i registered found
    have same_type : dispatcher.messages.fullName (dispatcher.messages.new
        (registered.service.requestPrototype registered.method)) =
          dispatcher.messages.fullName invocation.request := by
      rw [lawful.fullName_new, (same_types registered found).1]
    rw [ProtobufSerializer.deserialize_serialize round_trips serialized payload_short same_type]
      at responded
    obtain ⟨done, produced, produced_eq, response_eq⟩ := finishCall_eq_ok responded
    exact ⟨registered, produced, found, done, produced_eq, response_eq⟩

/-- The client decodes the answer of the server: the produced message or the error. -/
theorem invokeAsyncReceive_reply (headers_lawful : dispatcher.headers.Lawful)
    (lawful : dispatcher.messages.Lawful) (round_trips : dispatcher.messages.RoundTrips)
    {pool : MessagePool Message} (typed : pool.Typed dispatcher.messages)
    {invocation : Invocation Message} {requestId : UInt64} {payload requestFrame : Bytes}
    (serialized : ProtobufSerializer.serialize dispatcher.messages invocation.request =
      .ok payload)
    (encoded : RpcCodec.encodeRequest dispatcher.headers
      (rpcRequest invocation requestId payload) = .ok requestFrame)
    (fits : requestFrame.length - kLengthPrefixSize ≤ maxFrameBody)
    (reply_fits : (reply dispatcher requestFrame).length - kLengthPrefixSize ≤ maxFrameBody)
    (same_types : dispatcher.SameTypes invocation) :
    match dispatcher.respond requestFrame with
    | .ok _ => ∃ registered after,
        dispatcher.registry.find invocation.method.serviceName invocation.method.name =
          .ok registered ∧
        (registered.produce invocation.request invocation.options.metadata).doneCalled = true ∧
        dispatcher.client.invokeAsyncReceive pool invocation.response
            (.ok (reply dispatcher requestFrame)) =
          (.ok (), (registered.produce invocation.request invocation.options.metadata).response,
            after)
    | .error error =>
        dispatcher.client.invokeAsyncReceive pool invocation.response
            (.ok (reply dispatcher requestFrame)) =
          (.error error, invocation.response, pool) := by
  have short : (reply dispatcher requestFrame).length < 2 ^ 31 := by
    simp only [kLengthPrefixSize, maxFrameBody] at reply_fits
    omega
  have answered := reply_of_respond headers_lawful requestFrame
  cases responded : dispatcher.respond requestFrame with
  | ok response =>
      simp only [responded] at answered ⊢
      obtain ⟨registered, produced, found, done, produced_eq, response_eq⟩ :=
        respond_eq_ok headers_lawful lawful round_trips serialized encoded fits same_types
          responded
      rw [← answered] at response_eq
      have decoded := RpcCodec.decodeResponse_encodeResponse headers_lawful response_eq (by omega)
      have produced_short : produced.length < 2 ^ 31 := by
        obtain ⟨header, -, framed⟩ := RpcCodec.encodeResponse_eq_ok response_eq
        have length := length_of_encodeFrame framed
        simp only at length
        omega
      have same_type : dispatcher.messages.fullName
          (dispatcher.messages.new invocation.response) = dispatcher.messages.fullName
            (registered.produce invocation.request invocation.options.metadata).response := by
        rw [lawful.fullName_new, fullName_produce lawful, (same_types registered found).2]
      have parsed := ProtobufSerializer.deserialize_serialize round_trips produced_eq
        produced_short same_type
      refine ⟨registered, (pool.acquire dispatcher.messages invocation.response).2.releaseHandle
        dispatcher.messages (dispatcher.messages.fullName invocation.response)
        (registered.produce invocation.request invocation.options.metadata).response, found, done,
        ?_⟩
      simp only [RpcClient.invokeAsyncReceive, client, decoded, RpcResponse.ok, decide_true,
        not_true_eq_false, if_false, MessagePool.acquire_fst lawful typed, parsed]
  | error error =>
      simp only [responded] at answered ⊢
      have decoded := RpcCodec.decodeResponse_encodeResponse headers_lawful answered (by omega)
      have failed := (framework_of_respond_error responded).1
      simp only [RpcClient.invokeAsyncReceive, client, decoded, RpcResponse.ok, failed,
        decide_false, Bool.false_eq_true, not_false_eq_true, if_true]

/-- The answer of the server is a frame of the grammar when its body is within the limit. -/
theorem isFrame_reply (headers_lawful : dispatcher.headers.Lawful) {requestFrame : Bytes}
    (fits : (reply dispatcher requestFrame).length - kLengthPrefixSize ≤ maxFrameBody) :
    IsFrame (reply dispatcher requestFrame) := by
  obtain ⟨response, encoded⟩ := exists_encodeResponse_reply headers_lawful requestFrame
  obtain ⟨header, -, framed⟩ := RpcCodec.encodeResponse_eq_ok encoded
  exact (isFrame_of_encodeFrame_iff framed).mpr fits

/-- For every service, request, metadata and history of the client and of the server, and however
the bytes are cut in both directions, the call returns what the service produced for exactly this
request and metadata, or exactly the error of `HandleFrame`. -/
theorem invokeAsync_end_to_end (headers_lawful : dispatcher.headers.Lawful)
    (lawful : dispatcher.messages.Lawful) (round_trips : dispatcher.messages.RoundTrips)
    (strerror : Nat → Bytes) {session : RpcClient.Session Message}
    (history : RpcClient.Run dispatcher.client strerror (fun _ _ => True) session)
    (invocation : Invocation Message) (resolved : ServiceInstance) {payload requestFrame : Bytes}
    (serialized : ProtobufSerializer.serialize dispatcher.messages invocation.request =
      .ok payload)
    (encoded : RpcCodec.encodeRequest dispatcher.headers
      (rpcRequest invocation session.nextRequestId payload) = .ok requestFrame)
    (request_fits : requestFrame.length - kLengthPrefixSize ≤ maxFrameBody)
    (reply_fits : (reply dispatcher requestFrame).length - kLengthPrefixSize ≤ maxFrameBody)
    (same_types : dispatcher.SameTypes invocation) {sends : List SendAttempt}
    (sends_quiet : QuietSends sends)
    (sends_enough : requestFrame.length ≤ (sends.map SendAttempt.count).sum)
    {recvs : List RecvAttempt}
    (recvs_quiet : ∀ attempt ∈ recvs, attempt.result.ends = false ∧ attempt.result ≠ .eagain)
    (exchange : Exchange (onFrame dispatcher) {} (sendAll strerror requestFrame sends).taken
      (RecvAttempt.stream recvs))
    {serverPool : MessagePool Message} (typed : serverPool.Typed dispatcher.messages) :
    match (dispatcher.handleFrame serverPool requestFrame).1 with
    | .ok _ => ∃ registered pool,
        dispatcher.registry.find invocation.method.serviceName invocation.method.name =
          .ok registered ∧
        (registered.produce invocation.request invocation.options.metadata).doneCalled = true ∧
        dispatcher.client.invokeAsync strerror session.nextRequestId session.messagePool invocation
            (.ok resolved) sends recvs =
          some (.ok (),
            (registered.produce invocation.request invocation.options.metadata).response, pool,
            session.nextRequestId + 1)
    | .error error =>
        dispatcher.client.invokeAsync strerror session.nextRequestId session.messagePool invocation
            (.ok resolved) sends recvs =
          some (.error error, invocation.response, session.messagePool,
            session.nextRequestId + 1) := by
  have client_typed := RpcClient.typed_of_run lawful history
  obtain ⟨header, -, framed⟩ := RpcCodec.encodeRequest_eq_ok encoded
  have isFrame : IsFrame requestFrame := (isFrame_of_encodeFrame_iff framed).mpr request_fits
  have sent := sendAll_of_quiet strerror sends_quiet sends_enough
  rw [sent] at exchange
  obtain ⟨stream_eq, -⟩ := exchange.answer_eq (answers_onFrame headers_lawful lawful)
    (MessagePool.typed_empty dispatcher.messages 32) isFrame
  have returned := roundTrip_of_quiet strerror sends_quiet sends_enough recvs_quiet
    (stream_eq ▸ isFrame_reply headers_lawful reply_fits)
  rw [stream_eq] at returned
  have outgoing : dispatcher.client.invokeAsyncSend session.nextRequestId invocation
      (.ok resolved) =
        (.ok ⟨session.nextRequestId, resolved.endpoint, requestFrame⟩,
          session.nextRequestId + 1) := by
    simp only [rpcRequest] at encoded
    simp only [RpcClient.invokeAsyncSend, client, serialized, encoded]
  have received := invokeAsyncReceive_reply headers_lawful lawful round_trips client_typed
    serialized encoded request_fits reply_fits same_types
  rw [dispatcher.handleFrame_fst lawful typed]
  cases responded : dispatcher.respond requestFrame with
  | ok response =>
      simp only [responded] at received ⊢
      obtain ⟨registered, pool, found, done, received⟩ := received
      refine ⟨registered, pool, found, done, ?_⟩
      simp only [RpcClient.invokeAsync, outgoing, returned, received]
  | error error =>
      simp only [responded] at received ⊢
      simp only [RpcClient.invokeAsync, outgoing, returned, received]

/-! ## A call of a small service -/

/-- A service whose method appends the metadata to the request. -/
def joinService : Service Proto3.messages where
  name := text "S"
  methods := [text "M"]
  requestPrototype _ := ⟨text "T", [], []⟩
  responsePrototype _ := ⟨text "T", [], []⟩
  callMethod _ controller request response :=
    { response := { response with name := request.name ++ controller.requestMetadata }
      doneCalled := true
      controller := controller }
  callMethod_fullName _ _ _ _ := rfl

/-- A server with this service. -/
def joinDispatcher : RpcDispatcher Proto3.BytesMessage where
  headers := Proto3.headers
  messages := Proto3.messages
  registry := ServiceRegistry.registerService ∅ joinService

/-- The request `A` with the metadata `B`. -/
def joinInvocation : Invocation Proto3.BytesMessage where
  method := ⟨text "S", text "M"⟩
  request := ⟨text "T", [65], []⟩
  response := ⟨text "T", [1], [2]⟩
  options := { metadata := [66] }

/-- The request frame of the first call. -/
def joinRequest : Bytes :=
  [0, 0, 0, 20, 0, 0, 0, 12, 8, 1, 18, 1, 83, 26, 1, 77, 32, 3, 40, 1, 66, 10, 1, 65]

/-- Its response frame. -/
def joinResponse : Bytes := [0, 0, 0, 12, 0, 0, 0, 4, 8, 1, 32, 4, 10, 2, 65, 66]

/-- The results of one readable event that brings the request in two pieces and sends the response
in two. -/
def joinScript : Script where
  recvs := [.bytes (joinRequest.take 7), .eintr, .bytes (joinRequest.drop 7)]
  sends := [.written 3, .eintr, .written 13]

theorem exists_joinExchange :
    Nonempty (Exchange (onFrame joinDispatcher) {} joinRequest joinResponse) := by
  have opened : Open (oneConnection ({} : MessagePool Proto3.BytesMessage)) 5 { incarnation := 0 }
      readInterest := (justAccepted_oneConnection _).opened
  have handled : (handleReadable (onFrame joinDispatcher) (oneConnection {}) 5 joinScript.recvs
      joinScript.sends).toOption.map (fun result =>
        ((result.1.journal 0).received, (result.1.journal 0).accepted,
          (result.1.connections 5).map ConnectionState.outputBuffer)) =
      some (joinRequest, joinResponse, some []) := by
    decide +kernel
  cases ok : handleReadable (onFrame joinDispatcher) (oneConnection {}) 5 joinScript.recvs
      joinScript.sends with
  | error dangling => simp [ok, Except.toOption] at handled
  | ok result =>
      simp only [ok, Except.toOption, Option.map_some, Option.some.injEq, Prod.mk.injEq] at handled
      obtain ⟨received_eq, accepted_eq, output_eq⟩ := handled
      let readable : Event := ⟨5, { epollin := true }, .connection 0⟩
      have reported : Reported (oneConnection ({} : MessagePool Proto3.BytesMessage)) [readable] :=
        ⟨by decide, by decide, by decide⟩
      have moved : turn (onFrame joinDispatcher) joinScript
          { server := oneConnection {}, batch := [readable] } =
            .ok { server := result.1
                  current := some (readable, connectionHandler 0 readInterest) } := by
        have called : invokeIfSet (onFrame joinDispatcher) (oneConnection {}) 5 joinScript
            (connectionHandler 0 readInterest).onReadable =
              (handleReadable (onFrame joinDispatcher) (oneConnection {}) 5 joinScript.recvs
                joinScript.sends).map Prod.fst := onReadable_connection opened opened.handler
        rw [ok] at called
        simp only [turn, dispatch, opened.handler, readable, Bool.or_self, Bool.false_eq_true,
          if_false, if_true, called]
        rfl
      refine ⟨{ before := { server := oneConnection {} }
                after := { server := result.1
                           current := some (readable, connectionHandler 0 readInterest) }
                fd := 5
                idle := { incarnation := 0 }
                reachable := reachable_oneConnection _ _
                entry := opened.entry
                no_input := rfl
                no_output := rfl
                steps := .tail (.tail .refl (.wait _ reported)) (.turn joinScript ?_ moved)
                all_read := received_eq
                all_sent := ?_
                taken := accepted_eq }⟩
      · rintro event ⟨⟩ -
        refine ⟨rfl, rfl, by decide, by simp [joinScript, NoFailure], by decide⟩
      · intro connection (entry : result.1.connections 5 = some connection)
        simpa [entry] using output_eq

/-- What the client's kernel takes of the request, and how the response arrives. -/
def joinSends : List SendAttempt := [⟨.written 5, true⟩, ⟨.eintr, true⟩, ⟨.written 19, true⟩]

/-- How the response arrives at the client. -/
def joinRecvs : List RecvAttempt :=
  [⟨.bytes (joinResponse.take 2), true⟩, ⟨.eintr, true⟩, ⟨.bytes (joinResponse.drop 2), true⟩]

/-- The call returns the request joined with its metadata. -/
theorem invokeAsync_returns_join : ∃ pool,
    joinDispatcher.client.invokeAsync (fun _ => []) 1 {} joinInvocation
        (.ok ⟨text "instance", text "127.0.0.1", 9000⟩) joinSends joinRecvs =
      some (.ok (), ⟨text "T", [65, 66], []⟩, pool, 2) := by
  obtain ⟨exchange⟩ := exists_joinExchange
  have history : RpcClient.Run joinDispatcher.client (fun _ => []) (fun _ _ => True) {} := .initial
  have serialized : ProtobufSerializer.serialize joinDispatcher.messages joinInvocation.request =
      .ok [10, 1, 65] := by decide +kernel
  have encoded : RpcCodec.encodeRequest joinDispatcher.headers
      (rpcRequest joinInvocation 1 [10, 1, 65]) = .ok joinRequest := by decide +kernel
  have found : joinDispatcher.registry.find (text "S") (text "M") =
      .ok ⟨text "S", text "M", joinService, ⟨text "S", text "M"⟩⟩ := rfl
  have same_types : joinDispatcher.SameTypes joinInvocation := by
    intro registered registered_found
    obtain rfl := Except.ok.inj (found.symm.trans registered_found)
    exact ⟨rfl, rfl⟩
  have sends_quiet : QuietSends joinSends := by simp [QuietSends, joinSends]
  have recvs_quiet : ∀ attempt ∈ joinRecvs,
      attempt.result.ends = false ∧ attempt.result ≠ .eagain := by decide
  have responded : (joinDispatcher.handleFrame {} joinRequest).1 = .ok joinResponse := by
    decide +kernel
  have result := invokeAsync_end_to_end Proto3.headers_lawful Proto3.messages_lawful
    Proto3.messages_roundTrips (fun _ => []) history joinInvocation
    ⟨text "instance", text "127.0.0.1", 9000⟩ serialized encoded (by decide) (by decide +kernel)
    same_types sends_quiet (by decide) recvs_quiet exchange
    (MessagePool.typed_empty Proto3.messages 32)
  rw [responded] at result
  obtain ⟨registered, pool, registered_found, -, returned⟩ := result
  obtain rfl := Except.ok.inj (found.symm.trans registered_found)
  exact ⟨pool, returned⟩

end RpcDispatcher

end Hxrpc
