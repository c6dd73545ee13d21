import Hxrpc.Dispatcher
import Hxrpc.Server.Input

/-!
# The frame handler of the server

`OnFrame` sends what the dispatcher returns, or an error frame with the request id when the frame
decodes and with id `0` when it does not.  Every error of the framework has a short text, so the
error frame can always be encoded: each frame is answered by exactly one frame, which depends on
nothing but the frame.
-/

namespace Hxrpc

open ConnectionManager RpcStatusCode

namespace RpcServer

/-- The frame that `RpcServer::SendFrameworkError` sends, if it can be encoded. -/
def sendFrameworkError (headers : HeaderCodec) (requestId : UInt64) (error : RpcError) :
    Option Bytes :=
  match RpcCodec.encodeResponse headers ⟨requestId, error.code, error.message, []⟩ with
  | .ok frame => some frame
  | .error _ => none

/-- The request id of a frame that decodes, `0` otherwise. -/
def requestIdOf (headers : HeaderCodec) (frame : Bytes) : UInt64 :=
  match RpcCodec.decodeRequest headers frame with
  | .ok request => request.requestId
  | .error _ => 0

/-- `RpcServer::OnFrame`; the state it works on is the message pool of the dispatcher. -/
def onFrame {Message : Type} (dispatcher : RpcDispatcher Message) :
    FrameHandler (MessagePool Message) := fun pool frame =>
  match dispatcher.handleFrame pool frame with
  | (.error error, pool) =>
      (pool, sendFrameworkError dispatcher.headers (requestIdOf dispatcher.headers frame) error)
  | (.ok response, pool) => (pool, some response)

/-- The one frame that answers a frame. -/
def reply {Message : Type} (dispatcher : RpcDispatcher Message) (frame : Bytes) : Bytes :=
  match dispatcher.respond frame with
  | .ok response => response
  | .error error =>
      (sendFrameworkError dispatcher.headers (requestIdOf dispatcher.headers frame) error).getD []

end RpcServer

/-! ## Errors of the framework -/

/-- Every text of a framework error is shorter than this. -/
def maxErrorText : Nat := 64

/-- What the framework itself reports: a code that means failure and a short text. -/
def RpcError.Framework (error : RpcError) : Prop :=
  error.code ≠ kOk ∧ error.message.length < maxErrorText

instance (error : RpcError) : Decidable error.Framework :=
  inferInstanceAs (Decidable (_ ∧ _))

theorem framework_of_decodeRequest_error {headers : HeaderCodec} {frame : Bytes} {error : RpcError}
    (failed : RpcCodec.decodeRequest headers frame = .error error) :
    error.Framework := by
  have framework : ∀ error ∈ RpcCodec.requestErrors, error.Framework := by decide
  exact framework error (RpcCodec.mem_of_decodeRequest_error failed)

theorem framework_of_find_error {Message : Type} {messages : MessageRuntime Message}
    {registry : ServiceRegistry messages} {serviceName methodName : Bytes} {error : RpcError}
    (failed : registry.find serviceName methodName = .error error) :
    error.Framework := by
  simp only [ServiceRegistry.find] at failed
  split at failed
  · cases failed
  split at failed
  all_goals
    obtain rfl := Except.error.inj failed
    decide

theorem framework_of_serialize_error {Message : Type} {messages : MessageRuntime Message}
    {message : Message} {error : RpcError}
    (failed : ProtobufSerializer.serialize messages message = .error error) :
    error.Framework := by
  simp only [ProtobufSerializer.serialize] at failed
  split at failed
  · obtain rfl := Except.error.inj failed
    decide
  · cases failed

theorem framework_of_deserialize_error {Message : Type} {messages : MessageRuntime Message}
    {payload : Bytes} {message : Message} {error : RpcError}
    (failed : (ProtobufSerializer.deserialize messages payload message).2 = .error error) :
    error.Framework := by
  simp only [ProtobufSerializer.deserialize] at failed
  split at failed
  · split at failed
    · cases failed
    · obtain rfl := Except.error.inj failed
      decide
  · obtain rfl := Except.error.inj failed
    decide

theorem framework_of_encodeResponse_error {headers : HeaderCodec} {response : RpcResponse}
    {error : RpcError} (failed : RpcCodec.encodeResponse headers response = .error error) :
    error.Framework := by
  simp only [RpcCodec.encodeResponse, encodeFrame] at failed
  split at failed
  · obtain rfl := Except.error.inj failed
    decide
  · cases failed

namespace RpcDispatcher

theorem framework_of_finishCall_error {Message : Type} {dispatcher : RpcDispatcher Message}
    {request : RpcRequest} {result : ServiceResult Message} {error : RpcError}
    (failed : dispatcher.finishCall request result = .error error) :
    error.Framework := by
  simp only [finishCall, encodeResult] at failed
  split at failed
  · obtain rfl := Except.error.inj failed
    decide
  split at failed
  · obtain rfl := Except.error.inj failed
    exact framework_of_serialize_error ‹_›
  · exact framework_of_encodeResponse_error failed

/-- Every error of the dispatcher is one of the framework. -/
theorem framework_of_respond_error {Message : Type} {dispatcher : RpcDispatcher Message}
    {frame : Bytes} {error : RpcError} (failed : dispatcher.respond frame = .error error) :
    error.Framework := by
  simp only [respond, answer] at failed
  split at failed
  · obtain rfl := Except.error.inj failed
    exact framework_of_decodeRequest_error ‹_›
  split at failed
  · obtain rfl := Except.error.inj failed
    exact framework_of_find_error ‹_›
  split at failed
  · rename_i deserialized
    obtain rfl := Except.error.inj failed
    exact framework_of_deserialize_error (congrArg Prod.snd deserialized)
  · exact framework_of_finishCall_error failed

end RpcDispatcher

namespace RpcServer

/-- An error of the framework can be sent. -/
theorem exists_sendFrameworkError {headers : HeaderCodec} (lawful : headers.Lawful)
    (requestId : UInt64) {error : RpcError} (framework : error.Framework) :
    ∃ frame, sendFrameworkError headers requestId error = some frame ∧
      RpcCodec.encodeResponse headers ⟨requestId, error.code, error.message, []⟩ = .ok frame := by
  obtain ⟨bytes, serialized⟩ := lawful.serializeResponse_total
    (RpcCodec.responseHeader ⟨requestId, error.code, error.message, []⟩)
    (by
      have short := framework.2
      simp only [RpcCodec.responseHeader, maxErrorText] at short ⊢
      omega)
  have encoded : RpcCodec.encodeResponse headers ⟨requestId, error.code, error.message, []⟩ =
      encodeFrame bytes [] := by
    simp only [RpcCodec.encodeResponse, serialized]
  refine ⟨_, ?_, encoded⟩
  simp only [sendFrameworkError]
  rw [encoded]
  rfl

/-- The handler answers every frame with `reply`, whatever the message pool holds. -/
theorem answers_onFrame {Message : Type} {dispatcher : RpcDispatcher Message}
    (headers_lawful : dispatcher.headers.Lawful) (lawful : dispatcher.messages.Lawful) :
    Answers (onFrame dispatcher) (fun pool => pool.Typed dispatcher.messages)
      (reply dispatcher) where
  reply := by
    intro pool frame typed
    have result := dispatcher.handleFrame_fst lawful typed frame
    simp only [onFrame, reply]
    split
    · rename_i error after handled
      rw [handled] at result
      have framework := RpcDispatcher.framework_of_respond_error result.symm
      obtain ⟨sent, sent_eq, -⟩ := exists_sendFrameworkError headers_lawful
        (requestIdOf dispatcher.headers frame) framework
      simp only [← result, sent_eq, Option.getD_some]
    · rename_i response after handled
      rw [handled] at result
      simp only [← result]
  keeps := by
    intro pool frame typed
    have kept := dispatcher.typed_handleFrame lawful typed frame
    simp only [onFrame]
    split
    · rename_i handled
      rwa [handled] at kept
    · rename_i handled
      rwa [handled] at kept

/-- The answer to a frame: the result of the dispatcher, or its error with the request id of the
frame, or with id `0` when the frame does not decode. -/
theorem reply_of_respond {Message : Type} {dispatcher : RpcDispatcher Message}
    (headers_lawful : dispatcher.headers.Lawful) (frame : Bytes) :
    match dispatcher.respond frame with
    | .ok response => reply dispatcher frame = response
    | .error error =>
        RpcCodec.encodeResponse dispatcher.headers
          ⟨requestIdOf dispatcher.headers frame, error.code, error.message, []⟩ =
            .ok (reply dispatcher frame) := by
  split
  · rename_i response result
    simp only [reply, result]
  · rename_i error result
    obtain ⟨sent, sent_eq, encoded⟩ := exists_sendFrameworkError headers_lawful
      (requestIdOf dispatcher.headers frame) (RpcDispatcher.framework_of_respond_error result)
    simp only [reply, result, sent_eq, Option.getD_some, encoded]

/-- The same for `HandleFrame`, whatever the message pool holds. -/
theorem reply_spec {Message : Type} {dispatcher : RpcDispatcher Message}
    (headers_lawful : dispatcher.headers.Lawful) (lawful : dispatcher.messages.Lawful)
    {pool : MessagePool Message} (typed : pool.Typed dispatcher.messages) (frame : Bytes) :
    match (dispatcher.handleFrame pool frame).1 with
    | .ok response => reply dispatcher frame = response
    | .error error =>
        RpcCodec.encodeResponse dispatcher.headers
          ⟨requestIdOf dispatcher.headers frame, error.code, error.message, []⟩ =
            .ok (reply dispatcher frame) := by
  rw [dispatcher.handleFrame_fst lawful typed]
  exact reply_of_respond headers_lawful frame

/-- Every answer is an encoded response. -/
theorem exists_encodeResponse_reply {Message : Type} {dispatcher : RpcDispatcher Message}
    (headers_lawful : dispatcher.headers.Lawful) (frame : Bytes) :
    ∃ response, RpcCodec.encodeResponse dispatcher.headers response =
      .ok (reply dispatcher frame) := by
  have answered := reply_of_respond headers_lawful frame
  cases responded : dispatcher.respond frame with
  | error error =>
      simp only [responded] at answered
      exact ⟨_, answered⟩
  | ok response =>
      simp only [responded] at answered
      simp only [RpcDispatcher.respond, RpcDispatcher.answer] at responded
      split at responded
      · cases responded
      split at responded
      · cases responded
      split at responded
      · cases responded
      · obtain ⟨-, payload, -, encoded⟩ := RpcDispatcher.finishCall_eq_ok responded
        exact ⟨_, answered ▸ encoded⟩

end RpcServer

end Hxrpc
