import Hxrpc.Dispatcher

/-!
# What the dispatcher answers

`HandleFrame` goes through its stages in a fixed order and stops at the first that fails.  Each
outcome is stated with the stages that succeeded before it, on objects that are default instances:
no frame that was handled earlier leaves anything behind in the message pool.
-/

namespace Hxrpc

open RpcStatusCode

namespace RpcDispatcher

variable {Message : Type} {dispatcher : RpcDispatcher Message}

/-- The message pool after handling some frames, from a new pool on. -/
def poolAfter (dispatcher : RpcDispatcher Message) (bucketLimit : Nat) (earlier : List Bytes) :
    MessagePool Message :=
  earlier.foldl (fun pool frame => (dispatcher.handleFrame pool frame).2)
    { bucketLimit := bucketLimit }

theorem typed_poolAfter (lawful : dispatcher.messages.Lawful) (bucketLimit : Nat)
    (earlier : List Bytes) :
    (dispatcher.poolAfter bucketLimit earlier).Typed dispatcher.messages := by
  induction earlier using List.reverseRecOn with
  | nil => exact MessagePool.typed_empty dispatcher.messages bucketLimit
  | append_singleton earlier frame ih =>
      rw [poolAfter, List.foldl_append]
      exact dispatcher.typed_handleFrame lawful ih frame

/-- What a frame leads to, with the reason. -/
inductive Outcome (dispatcher : RpcDispatcher Message) (frame : Bytes) :
    Except RpcError Bytes → Prop where
  /-- The frame does not decode. -/
  | invalidPacket {message : Bytes}
      (failed : RpcCodec.decodeRequest dispatcher.headers frame =
        .error ⟨kInvalidPacket, message⟩) :
      Outcome dispatcher frame (.error ⟨kInvalidPacket, message⟩)
  /-- No method of the service is registered. -/
  | unknownService {request : RpcRequest}
      (decoded : RpcCodec.decodeRequest dispatcher.headers frame = .ok request)
      (unknown : dispatcher.registry.find request.serviceName request.methodName =
        .error ⟨kUnknownService, text "unknown service"⟩) :
      Outcome dispatcher frame (.error ⟨kUnknownService, text "unknown service"⟩)
  /-- The service has other methods. -/
  | unknownMethod {request : RpcRequest}
      (decoded : RpcCodec.decodeRequest dispatcher.headers frame = .ok request)
      (unknown : dispatcher.registry.find request.serviceName request.methodName =
        .error ⟨kUnknownMethod, text "unknown method"⟩) :
      Outcome dispatcher frame (.error ⟨kUnknownMethod, text "unknown method"⟩)
  /-- The payload is no message of the request type. -/
  | deserializeError {request : RpcRequest} {registered : RegisteredMethod dispatcher.messages}
      (decoded : RpcCodec.decodeRequest dispatcher.headers frame = .ok request)
      (found : dispatcher.registry.find request.serviceName request.methodName = .ok registered)
      (unparsed : ∀ message, ¬ ProtobufSerializer.ParsesAs dispatcher.messages
        (registered.service.requestPrototype registered.method) request.payload message) :
      Outcome dispatcher frame (.error ⟨kDeserializeError, text "protobuf deserialize failed"⟩)
  /-- The service did not run `done`. -/
  | internalError {request : RpcRequest} {registered : RegisteredMethod dispatcher.messages}
      {message : Message}
      (decoded : RpcCodec.decodeRequest dispatcher.headers frame = .ok request)
      (found : dispatcher.registry.find request.serviceName request.methodName = .ok registered)
      (parsed : ProtobufSerializer.ParsesAs dispatcher.messages
        (registered.service.requestPrototype registered.method) request.payload message)
      (not_done : (registered.produce message request.metadata).doneCalled = false) :
      Outcome dispatcher frame
        (.error ⟨kInternalError, text "asynchronous server callbacks are unsupported"⟩)
  /-- The produced message does not serialize. -/
  | serializeError {request : RpcRequest} {registered : RegisteredMethod dispatcher.messages}
      {message : Message}
      (decoded : RpcCodec.decodeRequest dispatcher.headers frame = .ok request)
      (found : dispatcher.registry.find request.serviceName request.methodName = .ok registered)
      (parsed : ProtobufSerializer.ParsesAs dispatcher.messages
        (registered.service.requestPrototype registered.method) request.payload message)
      (done : (registered.produce message request.metadata).doneCalled = true)
      (unserialized : dispatcher.messages.serializeToString
        (registered.produce message request.metadata).response = none) :
      Outcome dispatcher frame (.error ⟨kSerializeError, text "protobuf serialize failed"⟩)
  /-- The answer carries the id of the request and the serialization of the produced message. -/
  | answered {request : RpcRequest} {registered : RegisteredMethod dispatcher.messages}
      {message : Message} {payload response : Bytes}
      (decoded : RpcCodec.decodeRequest dispatcher.headers frame = .ok request)
      (found : dispatcher.registry.find request.serviceName request.methodName = .ok registered)
      (parsed : ProtobufSerializer.ParsesAs dispatcher.messages
        (registered.service.requestPrototype registered.method) request.payload message)
      (done : (registered.produce message request.metadata).doneCalled = true)
      (serialized : dispatcher.messages.serializeToString
        (registered.produce message request.metadata).response = some payload)
      (decodes : response.length - kLengthPrefixSize < 2 ^ 32 →
        RpcCodec.decodeResponse dispatcher.headers response =
          .ok ⟨request.requestId, kOk, [], payload⟩) :
      Outcome dispatcher frame (.ok response)

/-- A response without error text can be encoded. -/
theorem exists_encodeResponse (headers_lawful : dispatcher.headers.Lawful) (requestId : UInt64)
    (payload : Bytes) : ∃ response,
      RpcCodec.encodeResponse dispatcher.headers ⟨requestId, kOk, [], payload⟩ = .ok response := by
  obtain ⟨header, serialized⟩ := headers_lawful.serializeResponse_total
    (RpcCodec.responseHeader ⟨requestId, kOk, [], payload⟩) (by simp [RpcCodec.responseHeader])
  simp only [RpcCodec.encodeResponse, serialized]
  exact ⟨_, rfl⟩

/-- The outcome of a call whose request was parsed. -/
theorem outcome_finishCall (headers_lawful : dispatcher.headers.Lawful) {frame : Bytes}
    {request : RpcRequest} {registered : RegisteredMethod dispatcher.messages} {message : Message}
    (decoded : RpcCodec.decodeRequest dispatcher.headers frame = .ok request)
    (found : dispatcher.registry.find request.serviceName request.methodName = .ok registered)
    (parsed : ProtobufSerializer.ParsesAs dispatcher.messages
      (registered.service.requestPrototype registered.method) request.payload message) :
    Outcome dispatcher frame
      (dispatcher.finishCall request (registered.produce message request.metadata)) := by
  cases done : (registered.produce message request.metadata).doneCalled with
  | false =>
      rw [finishCall, if_pos (by simp [done])]
      exact .internalError decoded found parsed done
  | true =>
      rw [finishCall, if_neg (by simp [done])]
      simp only [encodeResult, ProtobufSerializer.serialize]
      cases serialized : dispatcher.messages.serializeToString
          (registered.produce message request.metadata).response with
      | none => exact .serializeError decoded found parsed done serialized
      | some payload =>
          obtain ⟨response, encoded⟩ :=
            exists_encodeResponse headers_lawful request.requestId payload
          simp only [encoded]
          refine .answered decoded found parsed done serialized fun fits => ?_
          apply RpcCodec.decodeResponse_encodeResponse headers_lawful encoded
          simp only [kLengthPrefixSize] at fits ⊢
          omega

/-- The outcome of every frame on default instances. -/
theorem outcome_respond (headers_lawful : dispatcher.headers.Lawful) (frame : Bytes) :
    Outcome dispatcher frame (dispatcher.respond frame) := by
  simp only [respond]
  cases decoded : RpcCodec.decodeRequest dispatcher.headers frame with
  | error error =>
      have invalid : ∀ error ∈ RpcCodec.requestErrors, error.code = kInvalidPacket := by decide
      obtain ⟨code, message⟩ := error
      obtain rfl : code = kInvalidPacket :=
        invalid _ (RpcCodec.mem_of_decodeRequest_error decoded)
      exact .invalidPacket decoded
  | ok request =>
      simp only [answer]
      cases found : dispatcher.registry.find request.serviceName request.methodName with
      | error error =>
          have unknown := found
          simp only [ServiceRegistry.find] at unknown
          split at unknown
          · cases unknown
          split at unknown
          · obtain rfl := Except.error.inj unknown
            exact .unknownMethod decoded found
          · obtain rfl := Except.error.inj unknown
            exact .unknownService decoded found
      | ok registered =>
          simp only
          split
          · rename_i parsed error deserialized
            obtain rfl := ProtobufSerializer.deserialize_error deserialized
            refine .deserializeError decoded found fun message parses => ?_
            have succeeded := ProtobufSerializer.deserialize_new_iff.mpr parses
            rw [deserialized] at succeeded
            cases succeeded
          · rename_i message deserialized
            exact outcome_finishCall headers_lawful decoded found
              (ProtobufSerializer.deserialize_new_iff.mp deserialized)

/-- For every registry and frame, and whatever frames were handled before, `HandleFrame` stops at
the first stage that fails and answers otherwise; the frames handled before make no difference. -/
theorem handleFrame_outcome (headers_lawful : dispatcher.headers.Lawful)
    (lawful : dispatcher.messages.Lawful) (bucketLimit : Nat) (earlier : List Bytes)
    (frame : Bytes) :
    Outcome dispatcher frame
        (dispatcher.handleFrame (dispatcher.poolAfter bucketLimit earlier) frame).1 ∧
      ∀ otherLimit other,
        (dispatcher.handleFrame (dispatcher.poolAfter otherLimit other) frame).1 =
          (dispatcher.handleFrame (dispatcher.poolAfter bucketLimit earlier) frame).1 := by
  have result := dispatcher.handleFrame_fst lawful
    (typed_poolAfter lawful bucketLimit earlier) frame
  refine ⟨?_, fun otherLimit other => ?_⟩
  · rw [result]
    exact outcome_respond headers_lawful frame
  · rw [result]
    exact dispatcher.handleFrame_fst lawful (typed_poolAfter lawful otherLimit other) frame

/-- A service whose method copies the request into the response object, behind what it held. -/
def appendService : Service Proto3.messages where
  name := text "S"
  methods := [text "M"]
  requestPrototype _ := ⟨text "T", [], []⟩
  responsePrototype _ := ⟨text "T", [], []⟩
  callMethod _ controller request response :=
    { response := { response with name := response.name ++ request.name }
      doneCalled := true
      controller := controller }
  callMethod_fullName _ _ _ _ := rfl

/-- A server with this service. -/
def appendDispatcher : RpcDispatcher Proto3.BytesMessage where
  headers := Proto3.headers
  messages := Proto3.messages
  registry := ServiceRegistry.registerService ∅ appendService

/-- The request `A`. -/
def appendRequest : Bytes :=
  [0, 0, 0, 17, 0, 0, 0, 10, 8, 1, 18, 1, 83, 26, 1, 77, 32, 3, 10, 1, 65]

/-- The same request without its last byte of payload. -/
def brokenRequest : Bytes :=
  [0, 0, 0, 16, 0, 0, 0, 10, 8, 1, 18, 1, 83, 26, 1, 77, 32, 2, 10, 1]

/-- The answer to the first one. -/
def appendAnswer : Bytes :=
  [0, 0, 0, 11, 0, 0, 0, 4, 8, 1, 32, 3, 10, 1, 65]

theorem handleFrame_appendRequest :
    Outcome appendDispatcher appendRequest (.ok appendAnswer) ∧
      (∀ otherLimit other,
        (appendDispatcher.handleFrame (appendDispatcher.poolAfter otherLimit other)
          appendRequest).1 = .ok appendAnswer) ∧
      Outcome appendDispatcher brokenRequest
        (.error ⟨kDeserializeError, text "protobuf deserialize failed"⟩) := by
  have answered : (appendDispatcher.handleFrame
      (appendDispatcher.poolAfter 32 [appendRequest, brokenRequest]) appendRequest).1 =
        .ok appendAnswer := by decide +kernel
  have refused : (appendDispatcher.handleFrame
      (appendDispatcher.poolAfter 32 [appendRequest]) brokenRequest).1 =
        .error ⟨kDeserializeError, text "protobuf deserialize failed"⟩ := by decide +kernel
  obtain ⟨outcome, same⟩ := @handleFrame_outcome _ appendDispatcher Proto3.headers_lawful
    Proto3.messages_lawful 32 [appendRequest, brokenRequest] appendRequest
  obtain ⟨broken, -⟩ := @handleFrame_outcome _ appendDispatcher Proto3.headers_lawful
    Proto3.messages_lawful 32 [appendRequest] brokenRequest
  rw [answered] at outcome same
  rw [refused] at broken
  exact ⟨outcome, same, broken⟩

end RpcDispatcher

end Hxrpc
