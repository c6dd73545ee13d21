import Hxrpc.Codec
import Hxrpc.MessagePool
import Mathlib.Data.List.AList

/-!
# Services, registry and dispatcher

A service is a function of the request message and of the controller that carries the metadata; it
fills a response object and runs `done` or not.  The dispatcher decodes a frame, looks the method
up, calls it on pooled messages and encodes the response.  Its result does not depend on what the
pool held before.
-/

namespace Hxrpc

open RpcStatusCode

/-- `hxrpccontroller`: error state and request metadata of one call. -/
structure Controller where
  /-- A failure was recorded. -/
  failed : Bool := false
  /-- Recorded error code. -/
  errorCode : RpcStatusCode := kOk
  /-- Recorded error text. -/
  errorText : Bytes := []
  /-- Metadata of the request. -/
  requestMetadata : Bytes := []
  deriving DecidableEq

/-- `hxrpccontroller::SetError`. -/
def Controller.setError (controller : Controller) (code : RpcStatusCode) (reason : Bytes) :
    Controller :=
  { controller with failed := true, errorCode := code, errorText := reason }

/-- `hxrpccontroller::SetFailed`. -/
def Controller.setFailed (controller : Controller) (reason : Bytes) : Controller :=
  controller.setError kInternalError reason

/-- `hxrpccontroller::SetRequestMetadata`. -/
def Controller.setRequestMetadata (controller : Controller) (metadata : Bytes) : Controller :=
  { controller with requestMetadata := metadata }

/-- A method with the name of its service. -/
structure MethodDescriptor where
  /-- `method->service()->name()`. -/
  serviceName : Bytes
  /-- `method->name()`. -/
  name : Bytes
  deriving DecidableEq

/-- What a service call leaves behind. -/
structure ServiceResult (Message : Type) where
  /-- Contents of the response object. -/
  response : Message
  /-- `done->Run()` was called before the method returned. -/
  doneCalled : Bool
  /-- The controller as the service left it. -/
  controller : Controller

/-- A protobuf service.  The response object keeps its type. -/
structure Service {Message : Type} (messages : MessageRuntime Message) where
  /-- `descriptor->name()`. -/
  name : Bytes
  /-- Names of the methods in declaration order. -/
  methods : List Bytes
  /-- `GetRequestPrototype`. -/
  requestPrototype : MethodDescriptor → Message
  /-- `GetResponsePrototype`. -/
  responsePrototype : MethodDescriptor → Message
  /-- `CallMethod`. -/
  callMethod : MethodDescriptor → Controller → (request response : Message) →
    ServiceResult Message
  /-- The response object is filled in place. -/
  callMethod_fullName : ∀ method controller request response,
    messages.fullName (callMethod method controller request response).response =
      messages.fullName response

/-- One registered method. -/
structure RegisteredMethod {Message : Type} (messages : MessageRuntime Message) where
  /-- Name of the service. -/
  serviceName : Bytes
  /-- Name of the method. -/
  methodName : Bytes
  /-- The service object. -/
  service : Service messages
  /-- The method of the service. -/
  method : MethodDescriptor

/-- The result of a registered method for a request and its metadata, on a new response object. -/
def RegisteredMethod.produce {Message : Type} {messages : MessageRuntime Message}
    (registered : RegisteredMethod messages) (request : Message) (metadata : Bytes) :
    ServiceResult Message :=
  registered.service.callMethod registered.method (Controller.setRequestMetadata {} metadata)
    request (messages.new (registered.service.responsePrototype registered.method))

/-- `ServiceRegistry::methods_`: registered methods by the key `Service.Method`. -/
abbrev ServiceRegistry {Message : Type} (messages : MessageRuntime Message) :=
  AList fun _ : Bytes => RegisteredMethod messages

namespace ServiceRegistry

/-- The key of a service and method name. -/
def key (serviceName methodName : Bytes) : Bytes :=
  serviceName ++ text "." ++ methodName

/-- `ServiceRegistry::RegisterService`: later registrations replace earlier ones. -/
def registerService {Message : Type} {messages : MessageRuntime Message}
    (registry : ServiceRegistry messages) (service : Service messages) :
    ServiceRegistry messages :=
  service.methods.foldl
    (fun registry method =>
      registry.insert (key service.name method)
        ⟨service.name, method, service, ⟨service.name, method⟩⟩)
    registry

/-- `ServiceRegistry::Find`. -/
def find {Message : Type} {messages : MessageRuntime Message}
    (registry : ServiceRegistry messages) (serviceName methodName : Bytes) :
    Except RpcError (RegisteredMethod messages) :=
  match registry.lookup (key serviceName methodName) with
  | some registered => .ok registered
  | none =>
      if registry.entries.any fun entry => entry.2.serviceName = serviceName then
        .error ⟨kUnknownMethod, text "unknown method"⟩
      else
        .error ⟨kUnknownService, text "unknown service"⟩

end ServiceRegistry

/-- The fixed parts of a dispatcher. -/
structure RpcDispatcher (Message : Type) where
  /-- Framework headers. -/
  headers : HeaderCodec
  /-- Business messages. -/
  messages : MessageRuntime Message
  /-- Registered methods. -/
  registry : ServiceRegistry messages

namespace RpcDispatcher

/-- Encode the outcome of a call that ran `done`. -/
def encodeResult {Message : Type} (dispatcher : RpcDispatcher Message) (requestId : UInt64)
    (response : Message) : Except RpcError Bytes :=
  match ProtobufSerializer.serialize dispatcher.messages response with
  | .error error => .error error
  | .ok payload => RpcCodec.encodeResponse dispatcher.headers ⟨requestId, kOk, [], payload⟩

/-- Call a registered method on a parsed request object and an acquired response object. -/
def callRegistered {Message : Type} (dispatcher : RpcDispatcher Message) (request : RpcRequest)
    (registered : RegisteredMethod dispatcher.messages) (requestMessage responseMessage : Message) :
    ServiceResult Message :=
  registered.service.callMethod registered.method
    (Controller.setRequestMetadata {} request.metadata) requestMessage responseMessage

/-- The outcome of a service call as a frame or an error. -/
def finishCall {Message : Type} (dispatcher : RpcDispatcher Message) (request : RpcRequest)
    (result : ServiceResult Message) : Except RpcError Bytes :=
  if ¬ result.doneCalled then
    .error ⟨kInternalError, text "asynchronous server callbacks are unsupported"⟩
  else
    dispatcher.encodeResult request.requestId result.response

/-- `RpcDispatcher::HandleFrame`, with the pool before and after.  Handles are destroyed in reverse
order of acquisition on every path. -/
def handleFrame {Message : Type} (dispatcher : RpcDispatcher Message)
    (pool : MessagePool Message) (frame : Bytes) :
    Except RpcError Bytes × MessagePool Message :=
  match RpcCodec.decodeRequest dispatcher.headers frame with
  | .error error => (.error error, pool)
  | .ok request =>
      match dispatcher.registry.find request.serviceName request.methodName with
      | .error error => (.error error, pool)
      | .ok registered =>
          let requestPrototype := registered.service.requestPrototype registered.method
          let requestKey := dispatcher.messages.fullName requestPrototype
          let (requestMessage, pool) := pool.acquire dispatcher.messages requestPrototype
          match ProtobufSerializer.deserialize dispatcher.messages request.payload
              requestMessage with
          | (requestMessage, .error error) =>
              (.error error, pool.releaseHandle dispatcher.messages requestKey requestMessage)
          | (requestMessage, .ok ()) =>
              let responsePrototype := registered.service.responsePrototype registered.method
              let responseKey := dispatcher.messages.fullName responsePrototype
              let (responseMessage, pool) := pool.acquire dispatcher.messages responsePrototype
              let result :=
                dispatcher.callRegistered request registered requestMessage responseMessage
              let pool := pool.releaseHandle dispatcher.messages responseKey result.response
              let pool := pool.releaseHandle dispatcher.messages requestKey requestMessage
              (dispatcher.finishCall request result, pool)

/-- What a decoded request leads to when both message objects are default instances. -/
def answer {Message : Type} (dispatcher : RpcDispatcher Message) (request : RpcRequest) :
    Except RpcError Bytes :=
  match dispatcher.registry.find request.serviceName request.methodName with
  | .error error => .error error
  | .ok registered =>
      match ProtobufSerializer.deserialize dispatcher.messages request.payload
          (dispatcher.messages.new (registered.service.requestPrototype registered.method)) with
      | (_, .error error) => .error error
      | (requestMessage, .ok ()) =>
          dispatcher.finishCall request
            (dispatcher.callRegistered request registered requestMessage
              (dispatcher.messages.new (registered.service.responsePrototype registered.method)))

/-- The result of handling a frame, whatever the pool holds. -/
def respond {Message : Type} (dispatcher : RpcDispatcher Message) (frame : Bytes) :
    Except RpcError Bytes :=
  match RpcCodec.decodeRequest dispatcher.headers frame with
  | .error error => .error error
  | .ok request => dispatcher.answer request

/-- A call that ends in a frame ran `done`, and the frame encodes the response object. -/
theorem finishCall_eq_ok {Message : Type} {dispatcher : RpcDispatcher Message}
    {request : RpcRequest} {result : ServiceResult Message} {frame : Bytes}
    (finished : dispatcher.finishCall request result = .ok frame) :
    result.doneCalled = true ∧ ∃ payload,
      ProtobufSerializer.serialize dispatcher.messages result.response = .ok payload ∧
      RpcCodec.encodeResponse dispatcher.headers ⟨request.requestId, kOk, [], payload⟩ =
        .ok frame := by
  simp only [finishCall, encodeResult] at finished
  split at finished
  · cases finished
  · rename_i done
    split at finished
    · cases finished
    · rename_i payload serialized
      exact ⟨not_not.mp done, payload, serialized, finished⟩

/-- Handling a frame does not depend on the history of the pool. -/
theorem handleFrame_fst {Message : Type} (dispatcher : RpcDispatcher Message)
    (lawful : dispatcher.messages.Lawful) {pool : MessagePool Message}
    (typed : pool.Typed dispatcher.messages) (frame : Bytes) :
    (dispatcher.handleFrame pool frame).1 = dispatcher.respond frame := by
  unfold handleFrame respond answer
  cases RpcCodec.decodeRequest dispatcher.headers frame with
  | error error => rfl
  | ok request =>
      simp only
      cases dispatcher.registry.find request.serviceName request.methodName with
      | error error => rfl
      | ok registered =>
          simp only [MessagePool.acquire_fst lawful typed]
          split
          · rfl
          · simp only
            rw [MessagePool.acquire_fst lawful (MessagePool.typed_acquire typed _)]

/-- Handling a frame keeps every idle object in the bucket of its type. -/
theorem typed_handleFrame {Message : Type} (dispatcher : RpcDispatcher Message)
    (lawful : dispatcher.messages.Lawful) {pool : MessagePool Message}
    (typed : pool.Typed dispatcher.messages) (frame : Bytes) :
    (dispatcher.handleFrame pool frame).2.Typed dispatcher.messages := by
  simp only [handleFrame]
  cases RpcCodec.decodeRequest dispatcher.headers frame with
  | error error => exact typed
  | ok request =>
      simp only
      cases dispatcher.registry.find request.serviceName request.methodName with
      | error error => exact typed
      | ok registered =>
          have parsed_type := fun object =>
            ProtobufSerializer.fullName_deserialize lawful request.payload object
          simp only [MessagePool.acquire_fst lawful typed]
          have acquired := MessagePool.typed_acquire typed
            (registered.service.requestPrototype registered.method)
          split
          · rename_i parsed error deserialized
            apply MessagePool.typed_releaseHandle lawful acquired
            have := parsed_type (dispatcher.messages.new
              (registered.service.requestPrototype registered.method))
            rwa [deserialized, lawful.fullName_new] at this
          · rename_i parsed deserialized
            have both := MessagePool.typed_acquire acquired
              (registered.service.responsePrototype registered.method)
            refine MessagePool.typed_releaseHandle lawful
              (MessagePool.typed_releaseHandle lawful both ?_) ?_
            · rw [MessagePool.acquire_fst lawful acquired, callRegistered,
                registered.service.callMethod_fullName, lawful.fullName_new]
            · have := parsed_type (dispatcher.messages.new
                (registered.service.requestPrototype registered.method))
              rwa [deserialized, lawful.fullName_new] at this

end RpcDispatcher

end Hxrpc
