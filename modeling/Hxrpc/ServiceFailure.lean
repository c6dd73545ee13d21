import Hxrpc.EndToEnd
import Hxrpc.Handling

/-!
# Failures of a service

A service can leave its controller failed, with a code and a text.  The dispatcher does not look at
the controller behind the call, so the failure does not reach the caller: the answer reports success
with whatever stands in the response object.
-/

namespace Hxrpc

open RpcStatusCode RpcServer

/-- The error that a failed controller carries. -/
def Controller.error (controller : Controller) : RpcError where
  code := controller.errorCode
  message := controller.errorText

namespace RpcDispatcher

variable {Message : Type} {dispatcher : RpcDispatcher Message}

/-- The answer to a frame decodes to the error of the controller, and a client that receives it
returns this error. -/
def FailureReported (dispatcher : RpcDispatcher Message) (pool : MessagePool Message)
    (frame : Bytes) (controller : Controller) : Prop :=
  ∃ answer, (onFrame dispatcher pool frame).2 = some answer ∧
    (∃ response, RpcCodec.decodeResponse dispatcher.headers answer = .ok response ∧
      response.status = controller.errorCode ∧ response.errorText = controller.errorText) ∧
    ∀ clientPool caller,
      (dispatcher.client.invokeAsyncReceive clientPool caller (.ok answer)).1 =
        .error controller.error

/-- The frame reaches a method, which runs `done` on the parsed message. -/
structure Served (dispatcher : RpcDispatcher Message) (frame : Bytes) (request : RpcRequest)
    (registered : RegisteredMethod dispatcher.messages) (message : Message) : Prop where
  decoded : RpcCodec.decodeRequest dispatcher.headers frame = .ok request
  found : dispatcher.registry.find request.serviceName request.methodName = .ok registered
  parsed : ProtobufSerializer.ParsesAs dispatcher.messages
    (registered.service.requestPrototype registered.method) request.payload message
  done : (registered.produce message request.metadata).doneCalled = true

/-- A served frame is answered with the response object, or with the serializer's error. -/
theorem Served.respond_eq {frame : Bytes} {request : RpcRequest}
    {registered : RegisteredMethod dispatcher.messages} {message : Message}
    (served : dispatcher.Served frame request registered message) :
    dispatcher.respond frame =
      match dispatcher.messages.serializeToString
          (registered.produce message request.metadata).response with
      | none => .error ⟨kSerializeError, text "protobuf serialize failed"⟩
      | some payload =>
          RpcCodec.encodeResponse dispatcher.headers ⟨request.requestId, kOk, [], payload⟩ := by
  obtain ⟨decoded, found, parsed, done⟩ := served
  have deserialized := ProtobufSerializer.deserialize_new_iff.mpr parsed
  simp only [respond, decoded, answer, found, deserialized]
  change dispatcher.finishCall request (registered.produce message request.metadata) = _
  rw [finishCall, if_neg (by simp [done])]
  simp only [encodeResult, ProtobufSerializer.serialize]
  cases dispatcher.messages.serializeToString
    (registered.produce message request.metadata).response <;> rfl

/-- A response that decodes to an error status makes the call return this error. -/
theorem invokeAsyncReceive_status {client : RpcClient Message} {answer : Bytes}
    {response : RpcResponse}
    (decoded : RpcCodec.decodeResponse client.headers answer = .ok response)
    (failed : response.status ≠ kOk) (pool : MessagePool Message) (caller : Message) :
    (client.invokeAsyncReceive pool caller (.ok answer)).1 =
      .error ⟨response.status, response.errorText⟩ := by
  simp [RpcClient.invokeAsyncReceive, decoded, RpcResponse.ok, failed]

/-- The answer to a frame, whatever was handled before. -/
theorem onFrame_poolAfter (headers_lawful : dispatcher.headers.Lawful)
    (lawful : dispatcher.messages.Lawful) (bucketLimit : Nat) (earlier : List Bytes)
    (frame : Bytes) :
    (onFrame dispatcher (dispatcher.poolAfter bucketLimit earlier) frame).2 =
      some (reply dispatcher frame) :=
  (answers_onFrame headers_lawful lawful).reply frame
    (typed_poolAfter lawful bucketLimit earlier)

/-- The error of the serializer reaches the client as it is. -/
theorem failureReported_of_unserialized (headers_lawful : dispatcher.headers.Lawful)
    (lawful : dispatcher.messages.Lawful) (bucketLimit : Nat) (earlier : List Bytes)
    {frame : Bytes} {controller : Controller}
    (responded : dispatcher.respond frame =
      .error ⟨kSerializeError, text "protobuf serialize failed"⟩)
    (same : controller.error = ⟨kSerializeError, text "protobuf serialize failed"⟩) :
    dispatcher.FailureReported (dispatcher.poolAfter bucketLimit earlier) frame controller := by
  have answered := reply_of_respond headers_lawful frame
  simp only [responded] at answered
  have decoded := RpcCodec.decodeResponse_encodeResponse headers_lawful answered (by
    obtain ⟨header, serialized, framed⟩ := RpcCodec.encodeResponse_eq_ok answered
    have short := headers_lawful.serializeResponse_length serialized
    have length := length_of_encodeFrame framed
    simp only [List.length_nil, kLengthPrefixSize] at length ⊢
    omega)
  obtain ⟨code_eq, text_eq⟩ := RpcError.mk.inj same
  have error_status : kSerializeError ≠ kOk := by decide
  refine ⟨_, onFrame_poolAfter headers_lawful lawful bucketLimit earlier frame,
    ⟨_, decoded, code_eq.symm, text_eq.symm⟩, fun pool caller => ?_⟩
  rw [same]
  have decoded_by_client : RpcCodec.decodeResponse dispatcher.client.headers
      (reply dispatcher frame) = .ok _ := decoded
  exact invokeAsyncReceive_status decoded_by_client error_status pool caller

/-- A frame that encodes success does not report a failure. -/
theorem not_failureReported_of_ok (headers_lawful : dispatcher.headers.Lawful)
    (lawful : dispatcher.messages.Lawful) (bucketLimit : Nat) (earlier : List Bytes)
    {frame answer payload : Bytes} {requestId : UInt64} {controller : Controller}
    (responded : dispatcher.respond frame = .ok answer)
    (encoded : RpcCodec.encodeResponse dispatcher.headers ⟨requestId, kOk, [], payload⟩ =
      .ok answer) (failed : controller.errorCode ≠ kOk) :
    ¬ dispatcher.FailureReported (dispatcher.poolAfter bucketLimit earlier) frame controller := by
  rintro ⟨sent, sent_eq, ⟨response, decoded, status_eq, -⟩, -⟩
  rw [onFrame_poolAfter headers_lawful lawful] at sent_eq
  have answered := reply_of_respond headers_lawful frame
  simp only [responded] at answered
  obtain rfl := answered.symm.trans (Option.some.inj sent_eq)
  by_cases fits : answer.length < kLengthPrefixSize + 2 ^ 32
  · rw [RpcCodec.decodeResponse_encodeResponse headers_lawful encoded fits] at decoded
    obtain rfl := Except.ok.inj decoded
    exact failed status_eq.symm
  · simp only [RpcCodec.decodeResponse, splitFrame_of_large (Nat.le_of_not_lt fits)] at decoded
    cases decoded

/-- A failure of a service that ran `done` reaches the caller only where the produced message does
not serialize and the service reported exactly the error of the serializer. -/
theorem failureReported_iff (headers_lawful : dispatcher.headers.Lawful)
    (lawful : dispatcher.messages.Lawful) (bucketLimit : Nat) (earlier : List Bytes)
    {frame : Bytes} {request : RpcRequest} {registered : RegisteredMethod dispatcher.messages}
    {message : Message} (served : dispatcher.Served frame request registered message) :
    ((registered.produce message request.metadata).controller.failed = true →
        (registered.produce message request.metadata).controller.errorCode ≠ kOk →
        dispatcher.FailureReported (dispatcher.poolAfter bucketLimit earlier) frame
          (registered.produce message request.metadata).controller) ↔
      (registered.produce message request.metadata).controller.failed = false ∨
      (registered.produce message request.metadata).controller.errorCode = kOk ∨
      (dispatcher.messages.serializeToString
          (registered.produce message request.metadata).response = none ∧
        (registered.produce message request.metadata).controller.error =
          ⟨kSerializeError, text "protobuf serialize failed"⟩) := by
  have responded := served.respond_eq
  generalize registered.produce message request.metadata = result at responded ⊢
  constructor
  · intro reported
    by_cases failed : result.controller.failed = true
    · right
      by_cases ok : result.controller.errorCode = kOk
      · exact .inl ok
      right
      have reported := reported failed ok
      cases serialized : dispatcher.messages.serializeToString result.response with
      | some payload =>
          simp only [serialized] at responded
          obtain ⟨answer, encoded⟩ :=
            exists_encodeResponse headers_lawful request.requestId payload
          rw [encoded] at responded
          exact absurd reported (not_failureReported_of_ok headers_lawful lawful bucketLimit
            earlier responded encoded ok)
      | none =>
          simp only [serialized] at responded
          refine ⟨rfl, ?_⟩
          have serializer : dispatcher.FailureReported (dispatcher.poolAfter bucketLimit earlier)
              frame { result.controller with
                errorCode := kSerializeError
                errorText := text "protobuf serialize failed" } :=
            failureReported_of_unserialized headers_lawful lawful bucketLimit earlier responded rfl
          obtain ⟨answer, sent, -, returned⟩ := reported
          obtain ⟨other, other_sent, -, other_returned⟩ := serializer
          obtain rfl := Option.some.inj (sent.symm.trans other_sent)
          exact Except.error.inj ((returned {} message).symm.trans (other_returned {} message))
    · exact .inl (by simpa using failed)
  · rintro (succeeded | ok | ⟨unserialized, same⟩) failed code
    · rw [succeeded] at failed
      cases failed
    · exact absurd ok code
    · simp only [unserialized] at responded
      exact failureReported_of_unserialized headers_lawful lawful bucketLimit earlier responded
        same

/-! ## A method that is not implemented -/

/-- The generated service class, with the bodies that stand in for missing methods. -/
def userService : Service Proto3.messages where
  name := text "UserServiceRpc"
  methods := [text "Login", text "Register"]
  requestPrototype method := ⟨text "Kuser." ++ method.name ++ text "Request", [], []⟩
  responsePrototype method := ⟨text "Kuser." ++ method.name ++ text "Response", [], []⟩
  callMethod method controller _ response :=
    { response := response
      doneCalled := true
      controller := controller.setFailed
        (text "Method " ++ method.name ++ text "() not implemented.") }
  callMethod_fullName _ _ _ _ := rfl

/-- A server with this service. -/
def userDispatcher : RpcDispatcher Proto3.BytesMessage where
  headers := Proto3.headers
  messages := Proto3.messages
  registry := ServiceRegistry.registerService ∅ userService

/-- A call of `Login` with the name `A`. -/
def loginRequest : RpcRequest where
  requestId := 7
  serviceName := text "UserServiceRpc"
  methodName := text "Login"
  metadata := []
  payload := [10, 1, 65]

/-- Its frame. -/
def loginFrame : Bytes :=
  [0, 0, 0, 34, 0, 0, 0, 27, 8, 7, 18, 14] ++ text "UserServiceRpc" ++ [26, 5] ++ text "Login" ++
    [32, 3, 10, 1, 65]

/-- Where it leads. -/
def loginMethod : RegisteredMethod Proto3.messages where
  serviceName := text "UserServiceRpc"
  methodName := text "Login"
  service := userService
  method := ⟨text "UserServiceRpc", text "Login"⟩

theorem served_login : userDispatcher.Served loginFrame loginRequest loginMethod
    ⟨text "Kuser.LoginRequest", [65], []⟩ where
  decoded := by decide +kernel
  found := rfl
  parsed := ⟨by decide +kernel, by decide +kernel⟩
  done := rfl

/-- The answer to the call: success with an empty response message. -/
def loginAnswer : Bytes := [0, 0, 0, 6, 0, 0, 0, 2, 8, 7]

/-- The method that is not implemented fails, and the call succeeds. -/
theorem not_failureReported_login :
    userDispatcher.Served loginFrame loginRequest loginMethod
        ⟨text "Kuser.LoginRequest", [65], []⟩ ∧
      (loginMethod.produce ⟨text "Kuser.LoginRequest", [65], []⟩ []).controller =
        { failed := true
          errorCode := kInternalError
          errorText := text "Method Login() not implemented." } ∧
      (onFrame userDispatcher {} loginFrame).2 = some loginAnswer ∧
      (userDispatcher.client.invokeAsyncReceive {} ⟨text "Kuser.LoginResponse", [], []⟩
        (.ok loginAnswer)).1 = .ok () ∧
      ¬ userDispatcher.FailureReported {} loginFrame
        (loginMethod.produce ⟨text "Kuser.LoginRequest", [65], []⟩ []).controller := by
  have answered : (onFrame userDispatcher {} loginFrame).2 = some loginAnswer := by
    decide +kernel
  have returned : (userDispatcher.client.invokeAsyncReceive {}
      ⟨text "Kuser.LoginResponse", [], []⟩ (.ok loginAnswer)).1 = .ok () := by
    decide +kernel
  refine ⟨served_login, rfl, answered, returned, ?_⟩
  rintro ⟨answer, sent, -, reported⟩
  obtain rfl := Option.some.inj (answered.symm.trans sent)
  have failed := reported {} ⟨text "Kuser.LoginResponse", [], []⟩
  rw [returned] at failed
  cases failed

theorem failureReported_login_iff :
    ((loginMethod.produce ⟨text "Kuser.LoginRequest", [65], []⟩ []).controller.failed = true →
        (loginMethod.produce ⟨text "Kuser.LoginRequest", [65], []⟩ []).controller.errorCode ≠
          kOk →
        userDispatcher.FailureReported (userDispatcher.poolAfter 32 [loginFrame]) loginFrame
          (loginMethod.produce ⟨text "Kuser.LoginRequest", [65], []⟩ []).controller) ↔
      (loginMethod.produce ⟨text "Kuser.LoginRequest", [65], []⟩ []).controller.failed = false ∨
      (loginMethod.produce ⟨text "Kuser.LoginRequest", [65], []⟩ []).controller.errorCode = kOk ∨
      (Proto3.messages.serializeToString
          (loginMethod.produce ⟨text "Kuser.LoginRequest", [65], []⟩ []).response = none ∧
        (loginMethod.produce ⟨text "Kuser.LoginRequest", [65], []⟩ []).controller.error =
          ⟨kSerializeError, text "protobuf serialize failed"⟩) :=
  failureReported_iff Proto3.headers_lawful Proto3.messages_lawful 32 [loginFrame] served_login

end RpcDispatcher

end Hxrpc
