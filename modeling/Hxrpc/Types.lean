import Hxrpc.Lib.BigEndian

/-!
# Core types

The data shared by every layer: status codes, errors, call options, endpoints, and the request and
response carried by one frame.  Strings of the program are byte strings, since names, metadata,
payloads and error texts reach the wire unchanged.
-/

namespace Hxrpc

/-- The bytes of a text literal of the program; all of them are ASCII. -/
def text (literal : String) : Bytes :=
  literal.toList.map fun character => UInt8.ofNat character.toNat

/-- A status code.  The enumeration has the fixed underlying type `int32`, so a code decoded from
the wire may be any value of it. -/
structure RpcStatusCode where
  /-- The underlying integer. -/
  value : Int32
  deriving DecidableEq

namespace RpcStatusCode

/-- The call succeeded. -/
def kOk : RpcStatusCode := ⟨0⟩
/-- The packet is malformed or incomplete. -/
def kInvalidPacket : RpcStatusCode := ⟨1⟩
/-- No such service is registered. -/
def kUnknownService : RpcStatusCode := ⟨2⟩
/-- The service has no such method. -/
def kUnknownMethod : RpcStatusCode := ⟨3⟩
/-- Serialization failed. -/
def kSerializeError : RpcStatusCode := ⟨4⟩
/-- Deserialization failed. -/
def kDeserializeError : RpcStatusCode := ⟨5⟩
/-- Connecting, reading, writing or waiting failed. -/
def kNetworkError : RpcStatusCode := ⟨6⟩
/-- Service discovery failed. -/
def kDiscoveryError : RpcStatusCode := ⟨7⟩
/-- The framework failed. -/
def kInternalError : RpcStatusCode := ⟨8⟩

end RpcStatusCode

/-- An error code with its text. -/
structure RpcError where
  /-- Error code. -/
  code : RpcStatusCode
  /-- Error text. -/
  message : Bytes
  deriving DecidableEq

/-- Per-call options. -/
structure CallOptions where
  /-- Timeout of the call in milliseconds. -/
  timeoutMs : Int := 3000
  /-- Metadata handed through to the service. -/
  metadata : Bytes := []
  deriving DecidableEq

/-- Host and port of a peer. -/
structure Endpoint where
  /-- Host address. -/
  host : Bytes
  /-- Port number. -/
  port : UInt16
  deriving DecidableEq

/-- `host:port`, with the port in decimal. -/
def Endpoint.toString (endpoint : Endpoint) : Bytes :=
  endpoint.host ++ text ":" ++
    (Nat.toDigits 10 endpoint.port.toNat).map fun digit => UInt8.ofNat digit.toNat

/-- A resolved instance of a service. -/
structure ServiceInstance where
  /-- Name of the instance. -/
  id : Bytes
  /-- Address of the instance. -/
  endpoint : Endpoint
  deriving DecidableEq

/-- A request before encoding and after decoding. -/
structure RpcRequest where
  /-- Number of the request. -/
  requestId : UInt64
  /-- Target service. -/
  serviceName : Bytes
  /-- Target method. -/
  methodName : Bytes
  /-- Metadata of the call. -/
  metadata : Bytes
  /-- Serialized request message. -/
  payload : Bytes
  deriving DecidableEq

/-- A response before encoding and after decoding. -/
structure RpcResponse where
  /-- Number of the request that is answered. -/
  requestId : UInt64
  /-- Status of the call. -/
  status : RpcStatusCode
  /-- Error text of a failed call. -/
  errorText : Bytes
  /-- Serialized response message. -/
  payload : Bytes
  deriving DecidableEq

/-- The response reports success. -/
def RpcResponse.ok (response : RpcResponse) : Bool :=
  response.status = RpcStatusCode.kOk

end Hxrpc
