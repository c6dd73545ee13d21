import Hxrpc.Codec

/-!
# What the decoders accept

A request frame is `be32 (4 + |H| + |M| + |P|) ++ be32 |H| ++ H ++ M ++ P` with a header `H` that
declares the sizes of the metadata `M` and of the payload `P`; a response frame has one payload.
The decoders accept exactly these frames, refuse everything else as an invalid packet and stay
inside the frame with every read.  Encoding a message and decoding the frame gives the message back,
or an invalid packet when the body does not fit a 32-bit length.
-/

namespace Hxrpc

open BigEndian RpcStatusCode

/-! ## Splitting -/

/-- A frame of the wire format: its body stays below `2 ^ 32` bytes. -/
structure Framed (frame header body : Bytes) : Prop where
  fits : 4 + header.length + body.length < 2 ^ 32
  eq : frame = encode32 (4 + header.length + body.length) ++
    (encode32 header.length ++ (header ++ body))

theorem Framed.encoded {frame header body : Bytes} (framed : Framed frame header body) :
    encodeFrame header body = .ok frame := by
  rw [framed.eq]
  rfl

/-- `SplitFrame` accepts exactly the frames and returns their parts. -/
theorem splitFrame_eq_ok_iff {frame header body : Bytes} :
    splitFrame frame = .ok (header, body) ↔ Framed frame header body := by
  constructor
  · intro split_ok
    have small := decode32_lt frame
    simp only [splitFrame, kLengthPrefixSize] at split_ok
    split at split_ok
    · cases split_ok
    split at split_ok
    · cases split_ok
    split at split_ok
    · cases split_ok
    · rename_i declared header_fits
      obtain ⟨rfl, rfl⟩ := Prod.mk.inj (Except.ok.inj split_ok)
      have sizes : 4 + ((frame.drop (4 * 2)).take (decode32 (frame.drop 4))).length +
          (frame.drop (4 * 2 + decode32 (frame.drop 4))).length = decode32 frame := by
        simp only [List.length_take, List.length_drop]
        omega
      have header_length : ((frame.drop (4 * 2)).take (decode32 (frame.drop 4))).length =
          decode32 (frame.drop 4) := by
        simp only [List.length_take, List.length_drop]
        omega
      refine ⟨sizes ▸ small, ?_⟩
      rw [sizes, header_length, ← List.drop_drop, List.take_append_drop]
      have inner := encode32_decode32_append_drop (frame.drop 4) (by
        rw [List.length_drop]
        omega)
      rw [List.drop_drop] at inner
      rw [inner, encode32_decode32_append_drop frame (by omega)]
  · intro framed
    apply splitFrame_of_encodeFrame framed.encoded
    have length := length_of_encodeFrame framed.encoded
    have fits := framed.fits
    simp only [kLengthPrefixSize] at length ⊢
    omega

theorem parseFromArray_eq_some_iff {Header : Type} {parse : Bytes → Option Header} {bytes : Bytes}
    {header : Header} :
    parseFromArray parse bytes = some header ↔
      bytes.length < 2 ^ 31 ∧ parse bytes = some header := by
  simp only [parseFromArray]
  split <;> simp_all

namespace RpcCodec

/-! ## The grammar of requests and responses -/

/-- The frame carries the request: the header parses and declares the sizes of both parts behind
it. -/
structure IsRequestFrame (headers : HeaderCodec) (frame : Bytes) (request : RpcRequest) : Prop where
  parts : ∃ bytes header, bytes.length < 2 ^ 31 ∧ headers.parseRequest bytes = some header ∧
    Framed frame bytes (request.metadata ++ request.payload) ∧
    header.metaSize.toNat = request.metadata.length ∧
    header.argsSize.toNat = request.payload.length ∧
    request.requestId = header.requestId ∧ request.serviceName = header.serviceName ∧
    request.methodName = header.methodName

/-- The frame carries the response: the header parses and declares the size of the payload. -/
structure IsResponseFrame (headers : HeaderCodec) (frame : Bytes) (response : RpcResponse) :
    Prop where
  parts : ∃ bytes header, bytes.length < 2 ^ 31 ∧ headers.parseResponse bytes = some header ∧
    Framed frame bytes response.payload ∧ header.payloadSize.toNat = response.payload.length ∧
    response.requestId = header.requestId ∧ response.status = ⟨header.statusCode⟩ ∧
    response.errorText = header.errorText

/-- `DecodeRequest` returns exactly the request that the frame carries. -/
theorem decodeRequest_eq_ok_iff {headers : HeaderCodec} {frame : Bytes} {request : RpcRequest} :
    decodeRequest headers frame = .ok request ↔ IsRequestFrame headers frame request := by
  constructor
  · intro decoded
    simp only [decodeRequest] at decoded
    split at decoded
    · cases decoded
    · rename_i bytes body split_ok
      split at decoded
      · cases decoded
      · rename_i header parsed
        obtain ⟨short, parsed⟩ := parseFromArray_eq_some_iff.mp parsed
        split at decoded
        · cases decoded
        · rename_i sizes
          obtain rfl := Except.ok.inj decoded
          have framed := splitFrame_eq_ok_iff.mp split_ok
          refine ⟨bytes, header, short, parsed, ?_, ?_, ?_, rfl, rfl, rfl⟩
          · rw [List.take_append_drop]
            exact framed
          · simp only [List.length_take]
            omega
          · simp only [List.length_drop]
            omega
  · rintro ⟨bytes, header, short, parsed, framed, meta_size, args_size, id_eq, service_eq,
      method_eq⟩
    have parsed := parseFromArray_eq_some_iff.mpr ⟨short, parsed⟩
    simp only [decodeRequest, splitFrame_eq_ok_iff.mpr framed, parsed]
    rw [if_neg (by rw [List.length_append, meta_size, args_size]; simp), meta_size,
      List.take_left, List.drop_left, ← id_eq, ← service_eq, ← method_eq]

/-- `DecodeResponse` returns exactly the response that the frame carries. -/
theorem decodeResponse_eq_ok_iff {headers : HeaderCodec} {frame : Bytes} {response : RpcResponse} :
    decodeResponse headers frame = .ok response ↔ IsResponseFrame headers frame response := by
  constructor
  · intro decoded
    simp only [decodeResponse] at decoded
    split at decoded
    · cases decoded
    · rename_i bytes body split_ok
      split at decoded
      · cases decoded
      · rename_i header parsed
        obtain ⟨short, parsed⟩ := parseFromArray_eq_some_iff.mp parsed
        split at decoded
        · cases decoded
        · rename_i sizes
          obtain rfl := Except.ok.inj decoded
          exact ⟨bytes, header, short, parsed, splitFrame_eq_ok_iff.mp split_ok,
            (not_not.mp sizes).symm, rfl, rfl, rfl⟩
  · rintro ⟨bytes, header, short, parsed, framed, payload_size, id_eq, status_eq, text_eq⟩
    have parsed := parseFromArray_eq_some_iff.mpr ⟨short, parsed⟩
    simp only [decodeResponse, splitFrame_eq_ok_iff.mpr framed, parsed]
    rw [if_neg (by simp [payload_size]), ← id_eq, ← status_eq, ← text_eq]

theorem code_of_decodeRequest_error {headers : HeaderCodec} {frame : Bytes} {error : RpcError}
    (failed : decodeRequest headers frame = .error error) : error.code = kInvalidPacket := by
  have codes : ∀ error ∈ requestErrors, error.code = kInvalidPacket := by decide
  exact codes error (mem_of_decodeRequest_error failed)

theorem code_of_decodeResponse_error {headers : HeaderCodec} {frame : Bytes} {error : RpcError}
    (failed : decodeResponse headers frame = .error error) : error.code = kInvalidPacket := by
  have codes : ∀ error ∈ responseErrors, error.code = kInvalidPacket := by decide
  exact codes error (mem_of_decodeResponse_error failed)

end RpcCodec

/-! ## Reads inside the frame -/

/-- `memcpy` of a 32-bit word; none when it leaves the view. -/
def memcpy32 (view : Bytes) (offset : Nat) : Option Nat :=
  if offset + kLengthPrefixSize ≤ view.length then some (decode32 (view.drop offset)) else none

/-- `substr(position, count)`; none when the range leaves the view. -/
def substr (view : Bytes) (position count : Nat) : Option Bytes :=
  if position + count ≤ view.length then some ((view.drop position).take count) else none

/-- `substr(position)`; none when the position leaves the view. -/
def substrFrom (view : Bytes) (position : Nat) : Option Bytes :=
  if position ≤ view.length then some (view.drop position) else none

/-- `SplitFrame` with every read of the frame checked. -/
def splitFrameReads (frame : Bytes) : Option (Except RpcError (Bytes × Bytes)) :=
  if frame.length < kLengthPrefixSize * 2 then
    some (.error ⟨kInvalidPacket, text "frame is too small"⟩)
  else do
    let declaredFrameSize ← memcpy32 frame 0
    if frame.length ≠ kLengthPrefixSize + declaredFrameSize then
      some (.error ⟨kInvalidPacket, text "frame length prefix does not match"⟩)
    else do
      let headerSize ← memcpy32 frame kLengthPrefixSize
      if frame.length < kLengthPrefixSize * 2 + headerSize then
        some (.error ⟨kInvalidPacket, text "header length exceeds frame size"⟩)
      else do
        let header ← substr frame (kLengthPrefixSize * 2) headerSize
        let payload ← substrFrom frame (kLengthPrefixSize * 2 + headerSize)
        return .ok (header, payload)

theorem splitFrameReads_eq (frame : Bytes) : splitFrameReads frame = some (splitFrame frame) := by
  simp only [splitFrameReads, splitFrame, kLengthPrefixSize]
  split
  · rfl
  rename_i complete
  have first : memcpy32 frame 0 = some (decode32 frame) := if_pos (by
    simp only [kLengthPrefixSize]
    omega)
  have second : memcpy32 frame 4 = some (decode32 (frame.drop 4)) := if_pos (by
    simp only [kLengthPrefixSize]
    omega)
  simp only [first, second, Option.bind_eq_bind, Option.bind_some]
  split
  · rfl
  split
  · rfl
  · rename_i header_fits
    have header : substr frame (4 * 2) (decode32 (frame.drop 4)) =
        some ((frame.drop (4 * 2)).take (decode32 (frame.drop 4))) := if_pos (by omega)
    have payload : substrFrom frame (4 * 2 + decode32 (frame.drop 4)) =
        some (frame.drop (4 * 2 + decode32 (frame.drop 4))) := if_pos (by omega)
    simp only [header, payload, Option.bind_some]
    rfl

namespace RpcCodec

/-- `DecodeRequest` with every read of the frame checked. -/
def decodeRequestReads (headers : HeaderCodec) (frame : Bytes) :
    Option (Except RpcError RpcRequest) := do
  match ← splitFrameReads frame with
  | .error error => return .error error
  | .ok (headerView, payloadView) =>
      match parseFromArray headers.parseRequest headerView with
      | none => return .error ⟨kInvalidPacket, text "failed to parse request header"⟩
      | some header =>
          if payloadView.length ≠ header.metaSize.toNat + header.argsSize.toNat then
            return .error ⟨kInvalidPacket, text "request payload length mismatch"⟩
          else
            let metadata ← substr payloadView 0 header.metaSize.toNat
            let payload ← substrFrom payloadView header.metaSize.toNat
            return .ok
              { requestId := header.requestId
                serviceName := header.serviceName
                methodName := header.methodName
                metadata := metadata
                payload := payload }

/-- `DecodeResponse` with every read of the frame checked. -/
def decodeResponseReads (headers : HeaderCodec) (frame : Bytes) :
    Option (Except RpcError RpcResponse) := do
  match ← splitFrameReads frame with
  | .error error => return .error error
  | .ok (headerView, payloadView) =>
      match parseFromArray headers.parseResponse headerView with
      | none => return .error ⟨kInvalidPacket, text "failed to parse response header"⟩
      | some header =>
          if payloadView.length ≠ header.payloadSize.toNat then
            return .error ⟨kInvalidPacket, text "response payload length mismatch"⟩
          else
            return .ok
              { requestId := header.requestId
                status := ⟨header.statusCode⟩
                errorText := header.errorText
                payload := payloadView }

theorem decodeRequestReads_eq (headers : HeaderCodec) (frame : Bytes) :
    decodeRequestReads headers frame = some (decodeRequest headers frame) := by
  simp only [decodeRequestReads, decodeRequest, splitFrameReads_eq, Option.bind_eq_bind,
    Option.bind_some]
  rcases splitFrame frame with error | ⟨bytes, body⟩
  · rfl
  cases parsed : parseFromArray headers.parseRequest bytes with
  | none => simp [parsed]
  | some header =>
      simp only [parsed]
      split
      · rfl
      · have metadata : substr body 0 header.metaSize.toNat =
            some (body.take header.metaSize.toNat) := if_pos (by omega)
        have payload : substrFrom body header.metaSize.toNat =
            some (body.drop header.metaSize.toNat) := if_pos (by omega)
        simp only [metadata, payload, Option.bind_some]
        rfl

theorem decodeResponseReads_eq (headers : HeaderCodec) (frame : Bytes) :
    decodeResponseReads headers frame = some (decodeResponse headers frame) := by
  simp only [decodeResponseReads, decodeResponse, splitFrameReads_eq, Option.bind_eq_bind,
    Option.bind_some]
  rcases splitFrame frame with error | ⟨bytes, body⟩
  · rfl
  cases parsed : parseFromArray headers.parseResponse bytes with
  | none => simp [parsed]
  | some header =>
      simp only [parsed]
      split <;> rfl

/-- Whatever the header parser does, the decoders accept exactly the frames of the grammar, refuse
everything else as an invalid packet, and read inside the frame only. -/
theorem decoders_accept_frame_grammar (headers : HeaderCodec) (frame : Bytes) :
    (∀ request, decodeRequest headers frame = .ok request ↔
      IsRequestFrame headers frame request) ∧
    (∀ error, decodeRequest headers frame = .error error → error.code = kInvalidPacket) ∧
    decodeRequestReads headers frame = some (decodeRequest headers frame) ∧
    (∀ response, decodeResponse headers frame = .ok response ↔
      IsResponseFrame headers frame response) ∧
    (∀ error, decodeResponse headers frame = .error error → error.code = kInvalidPacket) ∧
    decodeResponseReads headers frame = some (decodeResponse headers frame) :=
  ⟨fun _ => decodeRequest_eq_ok_iff, fun _ => code_of_decodeRequest_error,
    decodeRequestReads_eq headers frame, fun _ => decodeResponse_eq_ok_iff,
    fun _ => code_of_decodeResponse_error, decodeResponseReads_eq headers frame⟩

/-! ## Decoding what was encoded -/

theorem decodeRequest_of_large {headers : HeaderCodec} {frame : Bytes}
    (large : kLengthPrefixSize + 2 ^ 32 ≤ frame.length) :
    decodeRequest headers frame =
      .error ⟨kInvalidPacket, text "frame length prefix does not match"⟩ := by
  simp only [decodeRequest, splitFrame_of_large large]

theorem decodeResponse_of_large {headers : HeaderCodec} {frame : Bytes}
    (large : kLengthPrefixSize + 2 ^ 32 ≤ frame.length) :
    decodeResponse headers frame =
      .error ⟨kInvalidPacket, text "frame length prefix does not match"⟩ := by
  simp only [decodeResponse, splitFrame_of_large large]

/-- An encoded message decodes to itself while the body fits a 32-bit length, and to an invalid
packet from there on. -/
theorem decode_encode_of_every_size (headers : HeaderCodec) (lawful : headers.Lawful) :
    (∀ request frame, encodeRequest headers request = .ok frame →
      ∃ header, headers.serializeRequest (requestHeader request) = some header ∧
        if 4 + header.length + request.metadata.length + request.payload.length < 2 ^ 32 then
          decodeRequest headers frame = .ok request
        else ∃ message, decodeRequest headers frame = .error ⟨kInvalidPacket, message⟩) ∧
    ∀ response frame, encodeResponse headers response = .ok frame →
      ∃ header, headers.serializeResponse (responseHeader response) = some header ∧
        if 4 + header.length + response.payload.length < 2 ^ 32 then
          decodeResponse headers frame = .ok response
        else ∃ message, decodeResponse headers frame = .error ⟨kInvalidPacket, message⟩ := by
  constructor
  · intro request frame encoded
    obtain ⟨header, serialized, framed⟩ := encodeRequest_eq_ok encoded
    have length := length_of_encodeFrame framed
    rw [List.length_append] at length
    refine ⟨header, serialized, ?_⟩
    split
    · exact decodeRequest_encodeRequest lawful encoded
        (by simp only [kLengthPrefixSize] at *; omega)
    · exact ⟨_, decodeRequest_of_large (by simp only [kLengthPrefixSize] at *; omega)⟩
  · intro response frame encoded
    obtain ⟨header, serialized, framed⟩ := encodeResponse_eq_ok encoded
    have length := length_of_encodeFrame framed
    refine ⟨header, serialized, ?_⟩
    split
    · exact decodeResponse_encodeResponse lawful encoded
        (by simp only [kLengthPrefixSize] at *; omega)
    · exact ⟨_, decodeResponse_of_large (by simp only [kLengthPrefixSize] at *; omega)⟩

theorem decode_encode_of_sampleRequest :
    decodeRequest Proto3.headers
      [0, 0, 0, 18, 0, 0, 0, 12, 8, 1, 18, 1, 83, 26, 1, 77, 32, 1, 40, 1, 9, 7] =
        .ok ⟨1, text "S", text "M", [9], [7]⟩ := by
  obtain ⟨header, serialized, decoded⟩ :=
    (decode_encode_of_every_size Proto3.headers Proto3.headers_lawful).1
      ⟨1, text "S", text "M", [9], [7]⟩ _ rfl
  have header_eq : some header = some [8, 1, 18, 1, 83, 26, 1, 77, 32, 1, 40, 1] :=
    serialized.symm
  obtain rfl := Option.some.inj header_eq
  rw [if_pos (by norm_num [text])] at decoded
  exact decoded

end RpcCodec

end Hxrpc
