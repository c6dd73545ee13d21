import Hxrpc.Client.Transport
import Hxrpc.Server.Deframing

/-!
# The three deframers and the encoders

The server's `ProcessInput`, the client's `ReceiveFrame` and its asynchronous variant cut the same
frames from every stream, whatever the chunks.  What the encoders emit is admitted by the receivers
exactly up to the limit that only the receivers know.
-/

namespace Hxrpc

open BigEndian RpcStatusCode StreamCut ConnectionManager

namespace TcpClientTransport

/-- Call a receiving function again and again until it fails or waits: the frames, and the error
that ended it. -/
def receiveFrames (receive : List RecvAttempt → Transfer Bytes) :
    Nat → List RecvAttempt → List Bytes × Option RpcError
  | 0, _ => ([], none)
  | fuel + 1, attempts =>
      match receive attempts with
      | .waiting => ([], none)
      | .failed error _ => ([], some error)
      | .done frame rest =>
          let behind := receiveFrames receive fuel rest
          (frame :: behind.1, behind.2)

/-- How repeated receiving ends: with an error where the grammar refuses the stream, otherwise
waiting for the rest of a frame. -/
def streamEnd (stream : Bytes) : Option RpcError :=
  if (frameCutter.split stream).rejected then
    some ⟨kInvalidPacket, text "response frame length is invalid"⟩
  else none

/-- Repeated receiving yields the frames of the grammar. -/
theorem receiveFrames_spec {iteration : Bytes → RecvAttempt → Except RpcError Bytes}
    {receive : Nat → List RecvAttempt → Transfer Bytes} (receives : Receives iteration receive)
    {attempts : List RecvAttempt} (benign : Benign iteration attempts) {fuel : Nat}
    (enough : (frameCutter.split (RecvAttempt.stream attempts)).items.length < fuel) :
    receiveFrames (receiveFrameWith receive) fuel attempts =
      ((frameCutter.split (RecvAttempt.stream attempts)).items,
        streamEnd (RecvAttempt.stream attempts)) := by
  obtain ⟨fuel, rfl⟩ : ∃ smaller, fuel = smaller + 1 := ⟨fuel - 1, by omega⟩
  generalize stream_eq : RecvAttempt.stream attempts = stream at enough ⊢
  induction stream using frameCutter.split_induction generalizing fuel attempts with
  | more stream decision =>
      have received := receiveFrameWith_spec receives benign
      rw [frameCutter_cut] at decision
      simp only [stream_eq, decision] at received
      simp [receiveFrames, received, streamEnd, frameCutter.split_of_more decision]
  | reject stream decision =>
      have received := receiveFrameWith_spec receives benign
      rw [frameCutter_cut] at decision
      simp only [stream_eq, decision] at received
      obtain ⟨rest, failed⟩ := received
      simp [receiveFrames, failed, streamEnd, frameCutter.split_of_reject decision]
  | item stream frame behind decision ih =>
      have split_eq := frameCutter.split_of_item decision
      have received := receiveFrameWith_spec receives benign
      rw [frameCutter_cut] at decision
      simp only [stream_eq, decision] at received
      obtain ⟨rest, done, rest_stream, rest_benign⟩ := received
      rw [split_eq, List.length_cons] at enough
      obtain ⟨fuel, rfl⟩ : ∃ smaller, fuel = smaller + 1 := ⟨fuel - 1, by omega⟩
      have later := ih rest_benign fuel rest_stream (by omega)
      rw [receiveFrames, done]
      simp only [later, split_eq, streamEnd]

/-- Attempts of a blocking socket that bring `stream`: nonempty chunks and interrupts. -/
structure Brings (attempts : List RecvAttempt) (stream : Bytes) : Prop where
  bytes : RecvAttempt.stream attempts = stream
  quiet : ∀ attempt ∈ attempts, attempt.result.ends = false ∧ attempt.result ≠ .eagain

/-- Attempts of a nonblocking socket that bring `stream`: also `EAGAIN` followed by readiness. -/
structure BringsAsync (attempts : List RecvAttempt) (stream : Bytes) : Prop where
  bytes : RecvAttempt.stream attempts = stream
  quiet : ∀ attempt ∈ attempts,
    attempt.result.ends = false ∧ (attempt.result = .eagain → attempt.ready = true)

end TcpClientTransport

open TcpClientTransport

/-- The three deframers cut the frames of the grammar from every stream and under every cutting of
it.  Where the grammar refuses the stream the server closes and the client fails; otherwise the
server keeps an incomplete frame and the client waits for one. -/
theorem deframers_agree {App : Type} (handler : FrameHandler App) (strerror : Nat → Bytes)
    {server : Server App} {fd : Fd} {incarnation : Nat}
    (accepted : JustAccepted server fd incarnation) {stream : Bytes}
    {events : List ReadableEvent} (carries : Carries events stream)
    {blocking : List RecvAttempt} (brings : Brings blocking stream)
    {async : List RecvAttempt} (brings_async : BringsAsync async stream)
    {fuel : Nat} (enough : (frameCutter.split stream).items.length < fuel) :
    ∃ after, readAll handler fd events server = .ok after ∧
      (after.journal incarnation).delivered = (frameCutter.split stream).items ∧
      receiveFrames (receiveFrame strerror) fuel blocking =
        ((frameCutter.split stream).items, streamEnd stream) ∧
      receiveFrames (receiveFrameAsync strerror) fuel async =
        ((frameCutter.split stream).items, streamEnd stream) ∧
      ((frameCutter.split stream).rejected = true → after.connections fd = none) ∧
      ((frameCutter.split stream).rejected = false →
        ∃ connection, after.connections fd = some connection ∧
          (connection.inputBuffer.length < 4 ∨
            AdmissibleLength (decode32 connection.inputBuffer) ∧
              connection.inputBuffer.length < 4 + decode32 connection.inputBuffer)) ∧
      ∀ frame ∈ (frameCutter.split stream).items, ∀ error, splitFrame frame = .error error →
        error = ⟨kInvalidPacket, text "header length exceeds frame size"⟩ := by
  obtain ⟨after, read, history⟩ :=
    (arrived_nil accepted.opened rfl le_rfl).readAll handler carries
  rw [List.nil_append] at history
  obtain ⟨entries, effect, delivered⟩ := history.delivered
  refine ⟨after, read, ?_, ?_, ?_, fun rejected => (history.gone rejected).entry, ?_, ?_⟩
  · rw [effect.extends_journal, accepted.journal, List.nil_append, delivered]
  · rw [← brings.bytes] at enough ⊢
    exact receiveFrames_spec (receives_recvAll strerror)
      (benign_recvIteration strerror brings.quiet) enough
  · rw [← brings_async.bytes] at enough ⊢
    exact receiveFrames_spec (receives_recvAllAsync strerror)
      (benign_recvIterationAsync strerror brings_async.quiet) enough
  · intro stays_open
    obtain ⟨connection, interest, opened, -, buffer_eq, -⟩ := history.stays stays_open
    refine ⟨connection, opened.entry, cutFrame_more_iff.mp ?_⟩
    have waits := frameCutter.cut_residue stream
    rw [stays_open] at waits
    rw [buffer_eq]
    exact waits
  · intro frame member error failed
    exact splitFrame_of_isFrame (isFrame_of_mem_items member) failed

theorem deframers_agree_on_smallestFrame :
    ∃ after, readAll silentHandler 5
        [⟨[.bytes [0, 0, 0], .eintr, .bytes [4, 0, 0], .eagain], []⟩, ⟨[.bytes [0, 0]], []⟩]
        (oneConnection ()) = .ok after ∧
      (after.journal 0).delivered = (frameCutter.split smallestFrame).items ∧
      receiveFrames (receiveFrame fun _ => []) 2 [⟨.bytes smallestFrame, true⟩] =
        ((frameCutter.split smallestFrame).items, streamEnd smallestFrame) := by
  have one_frame : (frameCutter.split smallestFrame).items.length < 2 := by
    rw [frameCutter_split_frame ⟨by decide, by decide⟩]
    decide
  have carries : Carries
      [⟨[.bytes [0, 0, 0], .eintr, .bytes [4, 0, 0], .eagain], []⟩, ⟨[.bytes [0, 0]], []⟩]
      smallestFrame :=
    ⟨by decide, by decide, by simp [NoFailure]⟩
  obtain ⟨after, read, delivered, received, -⟩ := deframers_agree silentHandler (fun _ => [])
    (justAccepted_oneConnection ()) carries
    (⟨by decide, by decide⟩ : Brings [⟨.bytes smallestFrame, true⟩] smallestFrame)
    (⟨by decide, by decide⟩ : BringsAsync [⟨.eagain, true⟩, ⟨.bytes smallestFrame, true⟩]
      smallestFrame) one_frame
  exact ⟨after, read, delivered, received⟩

/-! ## What the encoders emit -/

/-- An encoded frame reaches the frame handler over a connection that stays open. -/
def Admits {App : Type} (handler : FrameHandler App) (server : Server App) (fd : Fd)
    (incarnation : Nat) (events : List ReadableEvent) (frame : Bytes) : Prop :=
  ∃ after, readAll handler fd events server = .ok after ∧
    (after.journal incarnation).delivered = (server.journal incarnation).delivered ++ [frame] ∧
    (after.connections fd).isSome

/-- A connection with an empty input buffer admits exactly the frames of the grammar. -/
theorem admits_iff_isFrame {App : Type} (handler : FrameHandler App) {server : Server App}
    {fd : Fd} {connection : ConnectionState} {interest : Events}
    (opened : Open server fd connection interest) (empty : connection.inputBuffer = [])
    (within : connection.bytesSent ≤ connection.outputBuffer.length)
    {events : List ReadableEvent} {frame : Bytes} (carries : Carries events frame) :
    Admits handler server fd connection.incarnation events frame ↔ IsFrame frame := by
  obtain ⟨after, read, history⟩ := (arrived_nil opened empty within).readAll handler carries
  rw [List.nil_append] at history
  obtain ⟨entries, effect, delivered⟩ := history.delivered
  have journal_eq : (after.journal connection.incarnation).delivered =
      (server.journal connection.incarnation).delivered ++ (frameCutter.split frame).items := by
    rw [effect.extends_journal, Journal.delivered_append, delivered]
  constructor
  · rintro ⟨same, same_read, delivered_eq, -⟩
    obtain rfl : after = same := Except.ok.inj (read.symm.trans same_read)
    rw [journal_eq] at delivered_eq
    exact isFrame_of_mem_items (by rw [List.append_cancel_left delivered_eq]; simp)
  · intro isFrame
    have split_eq := frameCutter_split_frame isFrame
    obtain ⟨changed, interest_after, stays, -⟩ := history.stays (by rw [split_eq])
    exact ⟨after, read, by rw [journal_eq, split_eq], by rw [stays.entry]; rfl⟩

/-- A blocking client receives exactly the frames of the grammar. -/
theorem receiveFrame_done_iff_isFrame (strerror : Nat → Bytes) {attempts : List RecvAttempt}
    {frame : Bytes} (brings : Brings attempts frame) :
    (∃ rest, receiveFrame strerror attempts = .done frame rest) ↔ IsFrame frame := by
  have received := receiveFrameWith_spec (receives_recvAll strerror)
    (benign_recvIteration strerror brings.quiet)
  rw [brings.bytes] at received
  constructor
  · rintro ⟨rest, done⟩
    simp only [receiveFrame] at done
    split at received
    · rw [received] at done
      cases done
    · obtain ⟨left, failed⟩ := received
      rw [failed] at done
      cases done
    · rename_i front behind decision
      obtain ⟨left, same_done, -⟩ := received
      rw [same_done] at done
      cases done
      exact isFrame_of_cut decision
  · intro isFrame
    have decision := cutFrame_of_isFrame isFrame []
    rw [List.append_nil] at decision
    simp only [decision] at received
    obtain ⟨rest, done, -⟩ := received
    exact ⟨rest, done⟩

/-- The receivers admit an encoded request or response exactly when its body, the header length, the
header, the metadata and the payload, is at most four mebibytes. -/
theorem encoded_frame_admitted_iff (headers : HeaderCodec) {App : Type}
    (handler : FrameHandler App) (strerror : Nat → Bytes) :
    (∀ request header frame,
      headers.serializeRequest (RpcCodec.requestHeader request) = some header →
      RpcCodec.encodeRequest headers request = .ok frame →
      ∀ (server : Server App) fd connection interest events,
        Open server fd connection interest → connection.inputBuffer = [] →
        connection.bytesSent ≤ connection.outputBuffer.length → Carries events frame →
          (Admits handler server fd connection.incarnation events frame ↔
            4 + header.length + request.metadata.length + request.payload.length ≤
              4 * 1024 * 1024)) ∧
    ∀ response header frame,
      headers.serializeResponse (RpcCodec.responseHeader response) = some header →
      RpcCodec.encodeResponse headers response = .ok frame →
      ∀ attempts, Brings attempts frame →
        ((∃ rest, receiveFrame strerror attempts = .done frame rest) ↔
          4 + header.length + response.payload.length ≤ 4 * 1024 * 1024) := by
  constructor
  · intro request header frame serialized encoded server fd connection interest events opened empty
      within carries
    obtain ⟨same, same_serialized, framed⟩ := RpcCodec.encodeRequest_eq_ok encoded
    obtain rfl : header = same := Option.some.inj (serialized.symm.trans same_serialized)
    have length := length_of_encodeFrame framed
    rw [admits_iff_isFrame handler opened empty within carries, isFrame_of_encodeFrame_iff framed]
    simp only [maxFrameBody, kLengthPrefixSize, List.length_append] at length ⊢
    omega
  · intro response header frame serialized encoded attempts brings
    obtain ⟨same, same_serialized, framed⟩ := RpcCodec.encodeResponse_eq_ok encoded
    obtain rfl : header = same := Option.some.inj (serialized.symm.trans same_serialized)
    have length := length_of_encodeFrame framed
    rw [receiveFrame_done_iff_isFrame strerror brings, isFrame_of_encodeFrame_iff framed]
    simp only [maxFrameBody, kLengthPrefixSize] at length ⊢
    omega

theorem encoded_request_admitted :
    Admits silentHandler (oneConnection ()) 5 0
      [⟨[.bytes [0, 0, 0, 15, 0, 0, 0, 10, 8, 1, 18, 1, 83, 26, 1, 77, 32, 1, 7]], []⟩]
      [0, 0, 0, 15, 0, 0, 0, 10, 8, 1, 18, 1, 83, 26, 1, 77, 32, 1, 7] :=
  ((encoded_frame_admitted_iff Proto3.headers silentHandler fun _ => []).1
    ⟨1, text "S", text "M", [], [7]⟩ [8, 1, 18, 1, 83, 26, 1, 77, 32, 1] _ rfl rfl
    (oneConnection ()) 5 _ _ _ (justAccepted_oneConnection ()).opened rfl le_rfl
    ⟨by decide, by decide, by simp [NoFailure]⟩).mpr (by decide)

/-- A request whose body is over the limit is encoded, and then refused: nothing is delivered and
the connection is closed. -/
theorem refused_of_large {headers : HeaderCodec} {request : RpcRequest} {header frame : Bytes}
    (serialized : headers.serializeRequest (RpcCodec.requestHeader request) = some header)
    (encoded : RpcCodec.encodeRequest headers request = .ok frame)
    (large : 4 * 1024 * 1024 <
      4 + header.length + request.metadata.length + request.payload.length)
    (fits : 4 + header.length + request.metadata.length + request.payload.length < 2 ^ 32)
    {App : Type} (handler : FrameHandler App) {server : Server App} {fd : Fd} {incarnation : Nat}
    (accepted : JustAccepted server fd incarnation) {events : List ReadableEvent}
    (carries : Carries events frame) :
    ∃ after, readAll handler fd events server = .ok after ∧
      (after.journal incarnation).delivered = [] ∧ after.connections fd = none := by
  obtain ⟨same, same_serialized, framed⟩ := RpcCodec.encodeRequest_eq_ok encoded
  obtain rfl : header = same := Option.some.inj (serialized.symm.trans same_serialized)
  have length := length_of_encodeFrame framed
  have declared := decode32_of_encodeFrame framed
  simp only [kLengthPrefixSize, List.length_append] at length declared
  have refused : cutFrame frame = .reject := by
    refine cutFrame_reject_iff.mpr ⟨by omega, fun admissible => ?_⟩
    have upper := admissible.2
    simp only [maxFrameBody] at upper
    omega
  have split_eq := frameCutter.split_of_reject refused
  obtain ⟨after, read, history⟩ :=
    (arrived_nil accepted.opened rfl le_rfl).readAll handler carries
  rw [List.nil_append] at history
  obtain ⟨entries, effect, delivered⟩ := history.delivered
  refine ⟨after, read, ?_, (history.gone (by rw [split_eq])).entry⟩
  rw [effect.extends_journal, accepted.journal, List.nil_append, delivered, split_eq]

/-- A request whose payload is one byte longer than the limit of the receivers. -/
def oversizedRequest : RpcRequest where
  requestId := 1
  serviceName := text "S"
  methodName := text "M"
  metadata := []
  payload := List.replicate 4194305 0

theorem length_oversizedRequest : oversizedRequest.payload.length = 4194305 :=
  List.length_replicate

theorem requestHeader_oversizedRequest :
    RpcCodec.requestHeader oversizedRequest = ⟨1, text "S", text "M", 4194305, 0⟩ := by
  rw [RpcCodec.requestHeader, length_oversizedRequest]
  rfl

/-- The encoder accepts the request; the server delivers nothing and closes the connection. -/
theorem oversized_request_refused :
    ∃ frame, RpcCodec.encodeRequest Proto3.headers oversizedRequest = .ok frame ∧
      ∀ events, Carries events frame →
        ∃ after, readAll silentHandler 5 events (oneConnection ()) = .ok after ∧
          (after.journal 0).delivered = [] ∧ after.connections 5 = none := by
  obtain ⟨header, serialized⟩ : ∃ header,
      Proto3.headers.serializeRequest (RpcCodec.requestHeader oversizedRequest) = some header :=
    Option.isSome_iff_exists.mp (by rw [requestHeader_oversizedRequest]; decide +kernel)
  obtain ⟨frame, encoded⟩ : ∃ frame,
      RpcCodec.encodeRequest Proto3.headers oversizedRequest = .ok frame := by
    rw [RpcCodec.encodeRequest, serialized]
    exact ⟨_, rfl⟩
  have short := Proto3.headers_lawful.serializeRequest_length serialized
  have no_metadata : oversizedRequest.metadata.length = 0 := rfl
  refine ⟨frame, encoded, fun events carries => refused_of_large serialized encoded ?_ ?_
    silentHandler (justAccepted_oneConnection ()) carries⟩
  · rw [no_metadata, length_oversizedRequest]
    omega
  · rw [no_metadata, length_oversizedRequest]
    omega

end Hxrpc
