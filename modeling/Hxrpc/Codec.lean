import Hxrpc.Protobuf

/-!
# The frame codec

A frame is a four-byte length, a four-byte header length, the serialized header and the payload.
Sizes are cast to 32 bits when they are written; they are compared as 64-bit sizes when they are
read.  Encoding followed by decoding is the identity while the body stays below `2 ^ 32` bytes.
-/

namespace Hxrpc

open BigEndian RpcStatusCode

/-- `sizeof(std::uint32_t)`. -/
abbrev kLengthPrefixSize : Nat := 4

/-- `EncodeFrame`: length, header length, header, payload.  It never fails. -/
def encodeFrame (header payload : Bytes) : Except RpcError Bytes :=
  .ok (encode32 (kLengthPrefixSize + header.length + payload.length) ++
    (encode32 header.length ++ (header ++ payload)))

/-- `SplitFrame`: the header and the payload behind it, after the length checks. -/
def splitFrame (frame : Bytes) : Except RpcError (Bytes × Bytes) :=
  if frame.length < kLengthPrefixSize * 2 then
    .error ⟨kInvalidPacket, text "frame is too small"⟩
  else if frame.length ≠ kLengthPrefixSize + decode32 frame then
    .error ⟨kInvalidPacket, text "frame length prefix does not match"⟩
  else
    let headerSize := decode32 (frame.drop kLengthPrefixSize)
    if frame.length < kLengthPrefixSize * 2 + headerSize then
      .error ⟨kInvalidPacket, text "header length exceeds frame size"⟩
    else
      .ok ((frame.drop (kLengthPrefixSize * 2)).take headerSize,
        frame.drop (kLengthPrefixSize * 2 + headerSize))

/-- `ParseFromArray` takes its size as an `int`: from `2 ^ 31` bytes on the size is negative and
nothing is parsed. -/
def parseFromArray {Header : Type} (parse : Bytes → Option Header) (bytes : Bytes) :
    Option Header :=
  if bytes.length < 2 ^ 31 then parse bytes else none

namespace RpcCodec

/-- The header of a request; both sizes are cast to 32 bits. -/
def requestHeader (request : RpcRequest) : RpcHeader where
  requestId := request.requestId
  serviceName := request.serviceName
  methodName := request.methodName
  argsSize := UInt32.ofNat request.payload.length
  metaSize := UInt32.ofNat request.metadata.length

/-- The header of a response; the size is cast to 32 bits. -/
def responseHeader (response : RpcResponse) : RpcResponseHeader where
  requestId := response.requestId
  statusCode := response.status.value
  errorText := response.errorText
  payloadSize := UInt32.ofNat response.payload.length

/-- `RpcCodec::EncodeRequest`. -/
def encodeRequest (headers : HeaderCodec) (request : RpcRequest) : Except RpcError Bytes :=
  match headers.serializeRequest (requestHeader request) with
  | none => .error ⟨kSerializeError, text "failed to serialize request header"⟩
  | some header => encodeFrame header (request.metadata ++ request.payload)

/-- `RpcCodec::EncodeResponse`. -/
def encodeResponse (headers : HeaderCodec) (response : RpcResponse) : Except RpcError Bytes :=
  match headers.serializeResponse (responseHeader response) with
  | none => .error ⟨kSerializeError, text "failed to serialize response header"⟩
  | some header => encodeFrame header response.payload

/-- `RpcCodec::DecodeRequest`. -/
def decodeRequest (headers : HeaderCodec) (frame : Bytes) : Except RpcError RpcRequest :=
  match splitFrame frame with
  | .error error => .error error
  | .ok (headerView, payloadView) =>
      match parseFromArray headers.parseRequest headerView with
      | none => .error ⟨kInvalidPacket, text "failed to parse request header"⟩
      | some header =>
          if payloadView.length ≠ header.metaSize.toNat + header.argsSize.toNat then
            .error ⟨kInvalidPacket, text "request payload length mismatch"⟩
          else
            .ok
              { requestId := header.requestId
                serviceName := header.serviceName
                methodName := header.methodName
                metadata := payloadView.take header.metaSize.toNat
                payload := payloadView.drop header.metaSize.toNat }

/-- `RpcCodec::DecodeResponse`. -/
def decodeResponse (headers : HeaderCodec) (frame : Bytes) : Except RpcError RpcResponse :=
  match splitFrame frame with
  | .error error => .error error
  | .ok (headerView, payloadView) =>
      match parseFromArray headers.parseResponse headerView with
      | none => .error ⟨kInvalidPacket, text "failed to parse response header"⟩
      | some header =>
          if payloadView.length ≠ header.payloadSize.toNat then
            .error ⟨kInvalidPacket, text "response payload length mismatch"⟩
          else
            .ok
              { requestId := header.requestId
                status := ⟨header.statusCode⟩
                errorText := header.errorText
                payload := payloadView }

end RpcCodec

/-! ## Encoding and splitting -/

theorem length_of_encodeFrame {header payload frame : Bytes}
    (encoded : encodeFrame header payload = .ok frame) :
    frame.length = kLengthPrefixSize * 2 + header.length + payload.length := by
  obtain rfl := Except.ok.inj encoded
  simp only [List.length_append, length_encode32, kLengthPrefixSize]
  omega

theorem decode32_of_encodeFrame {header payload frame : Bytes}
    (encoded : encodeFrame header payload = .ok frame) :
    decode32 frame = (frame.length - kLengthPrefixSize) % 2 ^ 32 := by
  have length := length_of_encodeFrame encoded
  obtain rfl := Except.ok.inj encoded
  rw [decode32_encode32_append, length]
  simp only [kLengthPrefixSize]
  congr 1
  omega

theorem header_size_of_encodeFrame {header payload frame : Bytes}
    (encoded : encodeFrame header payload = .ok frame) (fits : header.length < 2 ^ 32) :
    decode32 (frame.drop kLengthPrefixSize) = header.length := by
  obtain rfl := Except.ok.inj encoded
  rw [List.drop_left' (length_encode32 _), decode32_encode32_append, Nat.mod_eq_of_lt fits]

theorem behind_of_encodeFrame {header payload frame : Bytes}
    (encoded : encodeFrame header payload = .ok frame) :
    frame.drop (kLengthPrefixSize * 2) = header ++ payload := by
  obtain rfl := Except.ok.inj encoded
  rw [← List.append_assoc]
  exact List.drop_left' rfl

/-- Splitting undoes encoding while the body stays below `2 ^ 32` bytes. -/
theorem splitFrame_of_encodeFrame {header payload frame : Bytes}
    (encoded : encodeFrame header payload = .ok frame)
    (fits : frame.length < kLengthPrefixSize + 2 ^ 32) :
    splitFrame frame = .ok (header, payload) := by
  have length := length_of_encodeFrame encoded
  have declared := decode32_of_encodeFrame encoded
  have header_size := header_size_of_encodeFrame encoded (by
    simp only [kLengthPrefixSize] at fits length
    omega)
  have behind := behind_of_encodeFrame encoded
  simp only [kLengthPrefixSize] at length declared header_size behind fits
  simp only [splitFrame, kLengthPrefixSize, header_size]
  rw [if_neg (by omega), if_neg (by omega), if_neg (by omega)]
  rw [← List.drop_drop, behind, List.take_left, List.drop_left]

/-- A body of `2 ^ 32` bytes or more does not fit its length prefix. -/
theorem splitFrame_of_large {frame : Bytes} (large : kLengthPrefixSize + 2 ^ 32 ≤ frame.length) :
    splitFrame frame = .error ⟨kInvalidPacket, text "frame length prefix does not match"⟩ := by
  have declared := decode32_lt frame
  simp only [kLengthPrefixSize] at large
  simp only [splitFrame, kLengthPrefixSize]
  rw [if_neg (by omega), if_pos (by omega)]

/-- The errors of `SplitFrame`. -/
def splitErrors : List RpcError :=
  [⟨kInvalidPacket, text "frame is too small"⟩,
    ⟨kInvalidPacket, text "frame length prefix does not match"⟩,
    ⟨kInvalidPacket, text "header length exceeds frame size"⟩]

theorem mem_of_splitFrame_error {frame : Bytes} {error : RpcError}
    (failed : splitFrame frame = .error error) : error ∈ splitErrors := by
  simp only [splitFrame] at failed
  split at failed
  · obtain rfl := Except.error.inj failed
    exact List.mem_cons_self
  split at failed
  · obtain rfl := Except.error.inj failed
    exact List.mem_cons_of_mem _ List.mem_cons_self
  split at failed
  · obtain rfl := Except.error.inj failed
    exact List.mem_cons_of_mem _ (List.mem_cons_of_mem _ List.mem_cons_self)
  · cases failed

theorem parseFromArray_of_length {Header : Type} {parse : Bytes → Option Header} {bytes : Bytes}
    (short : bytes.length < 2 ^ 31) : parseFromArray parse bytes = parse bytes :=
  if_pos short

namespace RpcCodec

theorem encodeRequest_eq_ok {headers : HeaderCodec} {request : RpcRequest} {frame : Bytes}
    (encoded : encodeRequest headers request = .ok frame) :
    ∃ header, headers.serializeRequest (requestHeader request) = some header ∧
      encodeFrame header (request.metadata ++ request.payload) = .ok frame := by
  simp only [encodeRequest] at encoded
  split at encoded
  · cases encoded
  · exact ⟨_, ‹_›, encoded⟩

theorem encodeResponse_eq_ok {headers : HeaderCodec} {response : RpcResponse} {frame : Bytes}
    (encoded : encodeResponse headers response = .ok frame) :
    ∃ header, headers.serializeResponse (responseHeader response) = some header ∧
      encodeFrame header response.payload = .ok frame := by
  simp only [encodeResponse] at encoded
  split at encoded
  · cases encoded
  · exact ⟨_, ‹_›, encoded⟩

/-- The errors of `DecodeRequest`. -/
def requestErrors : List RpcError :=
  splitErrors ++ [⟨kInvalidPacket, text "failed to parse request header"⟩,
    ⟨kInvalidPacket, text "request payload length mismatch"⟩]

/-- The errors of `DecodeResponse`. -/
def responseErrors : List RpcError :=
  splitErrors ++ [⟨kInvalidPacket, text "failed to parse response header"⟩,
    ⟨kInvalidPacket, text "response payload length mismatch"⟩]

theorem mem_of_decodeRequest_error {headers : HeaderCodec} {frame : Bytes} {error : RpcError}
    (failed : decodeRequest headers frame = .error error) : error ∈ requestErrors := by
  simp only [decodeRequest] at failed
  split at failed
  · obtain rfl := Except.error.inj failed
    exact List.mem_append_left _ (mem_of_splitFrame_error ‹_›)
  split at failed
  · obtain rfl := Except.error.inj failed
    exact List.mem_append_right _ List.mem_cons_self
  split at failed
  · obtain rfl := Except.error.inj failed
    exact List.mem_append_right _ (List.mem_cons_of_mem _ List.mem_cons_self)
  · cases failed

theorem mem_of_decodeResponse_error {headers : HeaderCodec} {frame : Bytes} {error : RpcError}
    (failed : decodeResponse headers frame = .error error) : error ∈ responseErrors := by
  simp only [decodeResponse] at failed
  split at failed
  · obtain rfl := Except.error.inj failed
    exact List.mem_append_left _ (mem_of_splitFrame_error ‹_›)
  split at failed
  · obtain rfl := Except.error.inj failed
    exact List.mem_append_right _ List.mem_cons_self
  split at failed
  · obtain rfl := Except.error.inj failed
    exact List.mem_append_right _ (List.mem_cons_of_mem _ List.mem_cons_self)
  · cases failed

/-- The request id in the header of a request frame. -/
def wireRequestId (headers : HeaderCodec) (frame : Bytes) : Option UInt64 :=
  let headerSize := decode32 (frame.drop kLengthPrefixSize)
  (parseFromArray headers.parseRequest
    ((frame.drop (kLengthPrefixSize * 2)).take headerSize)).map RpcHeader.requestId

/-- The id of a request stands in its frame, however long the frame is. -/
theorem wireRequestId_encodeRequest {headers : HeaderCodec} (lawful : headers.Lawful)
    {request : RpcRequest} {frame : Bytes} (encoded : encodeRequest headers request = .ok frame) :
    wireRequestId headers frame = some request.requestId := by
  obtain ⟨header, serialized, framed⟩ := encodeRequest_eq_ok encoded
  have short := lawful.serializeRequest_length serialized
  have parsed : (frame.drop (kLengthPrefixSize * 2)).take
      (decode32 (frame.drop kLengthPrefixSize)) = header := by
    rw [header_size_of_encodeFrame framed (by omega), behind_of_encodeFrame framed, List.take_left]
  simp only [wireRequestId, parsed, parseFromArray_of_length short,
    lawful.parse_serializeRequest serialized, Option.map_some, requestHeader]

/-- A request frame with a body below `2 ^ 32` bytes decodes to the request it encodes. -/
theorem decodeRequest_encodeRequest {headers : HeaderCodec} (lawful : headers.Lawful)
    {request : RpcRequest} {frame : Bytes} (encoded : encodeRequest headers request = .ok frame)
    (fits : frame.length < kLengthPrefixSize + 2 ^ 32) :
    decodeRequest headers frame = .ok request := by
  obtain ⟨header, serialized, framed⟩ := encodeRequest_eq_ok encoded
  have length := length_of_encodeFrame framed
  have args_size : (UInt32.ofNat request.payload.length).toNat = request.payload.length := by
    rw [UInt32.toNat_ofNat']
    simp only [List.length_append] at length
    omega
  have meta_size : (UInt32.ofNat request.metadata.length).toNat = request.metadata.length := by
    rw [UInt32.toNat_ofNat']
    simp only [List.length_append] at length
    omega
  simp only [decodeRequest, splitFrame_of_encodeFrame framed fits,
    parseFromArray_of_length (lawful.serializeRequest_length serialized),
    lawful.parse_serializeRequest serialized, requestHeader, args_size, meta_size]
  simp

/-- A response frame with a body below `2 ^ 32` bytes decodes to the response it encodes. -/
theorem decodeResponse_encodeResponse {headers : HeaderCodec} (lawful : headers.Lawful)
    {response : RpcResponse} {frame : Bytes}
    (encoded : encodeResponse headers response = .ok frame)
    (fits : frame.length < kLengthPrefixSize + 2 ^ 32) :
    decodeResponse headers frame = .ok response := by
  obtain ⟨header, serialized, framed⟩ := encodeResponse_eq_ok encoded
  have length := length_of_encodeFrame framed
  have payload_size : (UInt32.ofNat response.payload.length).toNat = response.payload.length := by
    rw [UInt32.toNat_ofNat']
    omega
  simp only [decodeResponse, splitFrame_of_encodeFrame framed fits,
    parseFromArray_of_length (lawful.serializeResponse_length serialized),
    lawful.parse_serializeResponse serialized, responseHeader, payload_size]
  simp

end RpcCodec

end Hxrpc
