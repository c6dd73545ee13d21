import Hxrpc.Framing
import Hxrpc.Syscall

/-!
# Transfer loops of the client transport

`SendAll`, `RecvAll` and `ReceiveFrame` of the TCP transport with their asynchronous variants.  The
loops differ only in what one iteration does with the result of the system call: the blocking
variant fails on `EAGAIN`, the asynchronous one waits for readiness and tries again.  A script that
is used up stands for a call that has not returned.
-/

namespace Hxrpc

open BigEndian RpcStatusCode StreamCut

namespace TcpClientTransport

/-- `BuildSystemError`; `strerror` is the text of an error number. -/
def buildSystemError (strerror : Nat → Bytes) (what : Bytes) (errno : Nat) : Bytes :=
  what ++ text ": " ++ strerror errno

/-- `EAGAIN`. -/
def kEagain : Nat := 11

/-- One try of `recv`.  After `EAGAIN` the asynchronous loop waits; `ready` tells whether the wait
ended before the timeout. -/
structure RecvAttempt where
  /-- Result of `recv`. -/
  result : RecvResult
  /-- Result of `WaitFor`. -/
  ready : Bool := true
  deriving DecidableEq

namespace RecvAttempt

/-- The first bytes of the attempt. -/
def take (attempt : RecvAttempt) (count : Nat) : RecvAttempt :=
  { attempt with result := .bytes (attempt.result.chunk.take count) }

/-- The bytes behind the first. -/
def drop (attempt : RecvAttempt) (count : Nat) : RecvAttempt :=
  { attempt with result := .bytes (attempt.result.chunk.drop count) }

/-- The bytes of a script. -/
def stream (attempts : List RecvAttempt) : Bytes :=
  attempts.flatMap fun attempt => attempt.result.chunk

end RecvAttempt

/-- How far a receiving call came. -/
inductive Transfer (α : Type) where
  /-- It returned a value. -/
  | done (value : α) (rest : List RecvAttempt)
  /-- It returned an error. -/
  | failed (error : RpcError) (rest : List RecvAttempt)
  /-- It has not returned. -/
  | waiting
  deriving DecidableEq

/-- One iteration of `RecvAll`: the buffer afterwards. -/
def recvIteration (strerror : Nat → Bytes) (buffer : Bytes) (attempt : RecvAttempt) :
    Except RpcError Bytes :=
  match attempt.result with
  | .bytes [] => .error ⟨kNetworkError, text "peer closed connection"⟩
  | .bytes chunk => .ok (buffer ++ chunk)
  | .eintr => .ok buffer
  | .eagain => .error ⟨kNetworkError, buildSystemError strerror (text "recv failed") kEagain⟩
  | .error errno => .error ⟨kNetworkError, buildSystemError strerror (text "recv failed") errno⟩

/-- One iteration of `RecvAllAsync`. -/
def recvIterationAsync (strerror : Nat → Bytes) (buffer : Bytes) (attempt : RecvAttempt) :
    Except RpcError Bytes :=
  match attempt.result with
  | .eagain =>
      if attempt.ready then .ok buffer else .error ⟨kNetworkError, text "recv timed out"⟩
  | _ => recvIteration strerror buffer attempt

/-- The loop of both variants.  `recv` asks for the missing bytes only; what arrived beyond them
stays in the socket. -/
def recvLoop (iteration : Bytes → RecvAttempt → Except RpcError Bytes) (size : Nat) :
    Bytes → List RecvAttempt → Transfer Bytes
  | buffer, [] => if size ≤ buffer.length then .done buffer [] else .waiting
  | buffer, attempt :: rest =>
      let missing := size - buffer.length
      if missing = 0 then .done buffer (attempt :: rest)
      else if missing < attempt.result.chunk.length then
        match iteration buffer (attempt.take missing) with
        | .error error => .failed error (attempt.drop missing :: rest)
        | .ok buffer => .done buffer (attempt.drop missing :: rest)
      else
        match iteration buffer attempt with
        | .error error => .failed error rest
        | .ok buffer => recvLoop iteration size buffer rest

/-- `TcpClientTransport::RecvAll`. -/
def recvAll (strerror : Nat → Bytes) (size : Nat) (attempts : List RecvAttempt) : Transfer Bytes :=
  recvLoop (recvIteration strerror) size [] attempts

/-- `TcpClientTransport::RecvAllAsync`. -/
def recvAllAsync (strerror : Nat → Bytes) (size : Nat) (attempts : List RecvAttempt) :
    Transfer Bytes :=
  recvLoop (recvIterationAsync strerror) size [] attempts

/-- `kMaxFrameSize`, declared once in each variant. -/
def kMaxFrameSize : Nat := 4 * 1024 * 1024

/-- The check of the length field. -/
def checkFrameSize (lengthField : Bytes) : Except RpcError Nat :=
  let frameSize := decode32 lengthField
  if frameSize < 4 ∨ frameSize > kMaxFrameSize then
    .error ⟨kInvalidPacket, text "response frame length is invalid"⟩
  else
    .ok frameSize

/-- The body of both variants of `ReceiveFrame`. -/
def receiveFrameWith (receive : Nat → List RecvAttempt → Transfer Bytes)
    (attempts : List RecvAttempt) : Transfer Bytes :=
  match receive 4 attempts with
  | .waiting => .waiting
  | .failed error rest => .failed error rest
  | .done lengthField rest =>
      match checkFrameSize lengthField with
      | .error error => .failed error rest
      | .ok frameSize =>
          match receive frameSize rest with
          | .waiting => .waiting
          | .failed error rest => .failed error rest
          | .done body rest => .done (lengthField ++ body) rest

/-- `TcpClientTransport::ReceiveFrame`. -/
def receiveFrame (strerror : Nat → Bytes) (attempts : List RecvAttempt) : Transfer Bytes :=
  receiveFrameWith (recvAll strerror) attempts

/-- `TcpClientTransport::ReceiveFrameAsync`. -/
def receiveFrameAsync (strerror : Nat → Bytes) (attempts : List RecvAttempt) : Transfer Bytes :=
  receiveFrameWith (recvAllAsync strerror) attempts

/-- One try of `send`, with the result of the wait after `EAGAIN`. -/
structure SendAttempt where
  /-- Result of `send`. -/
  result : SendResult
  /-- Result of `WaitFor`. -/
  ready : Bool := true
  deriving DecidableEq

/-- One iteration of `SendAll`: by how much the offset grows. -/
def sendIteration (strerror : Nat → Bytes) (attempt : SendAttempt) : Except RpcError Nat :=
  match attempt.result with
  | .written 0 => .error ⟨kNetworkError, text "send returned zero bytes"⟩
  | .written count => .ok count
  | .eintr => .ok 0
  | .eagain => .error ⟨kNetworkError, buildSystemError strerror (text "send failed") kEagain⟩
  | .error errno => .error ⟨kNetworkError, buildSystemError strerror (text "send failed") errno⟩

/-- What a sending call did: the bytes the kernel took, and the result if it returned. -/
structure Sending where
  /-- Bytes taken by the kernel. -/
  taken : Bytes
  /-- Result of the call. -/
  result : Option (Except RpcError Unit)
  deriving DecidableEq

/-- `TcpClientTransport::SendAll` on the bytes from the offset on. -/
def sendAll (strerror : Nat → Bytes) : Bytes → List SendAttempt → Sending
  | pending, [] => { taken := [], result := if pending = [] then some (.ok ()) else none }
  | pending, attempt :: rest =>
      if pending = [] then { taken := [], result := some (.ok ()) }
      else
        match sendIteration strerror attempt with
        | .error error => { taken := [], result := some (.error error) }
        | .ok count =>
            let behind := sendAll strerror (pending.drop count) rest
            { behind with taken := pending.take count ++ behind.taken }

/-- `TcpClientTransport::RoundTrip` on the connection that `BorrowConnection` returned; none while
the call has not returned. -/
def roundTrip (strerror : Nat → Bytes) (frame : Bytes) (sends : List SendAttempt)
    (recvs : List RecvAttempt) : Option (Except RpcError Bytes) :=
  match (sendAll strerror frame sends).result with
  | none => none
  | some (.error error) => some (.error error)
  | some (.ok ()) =>
      match receiveFrame strerror recvs with
      | .waiting => none
      | .failed error _ => some (.error error)
      | .done response _ => some (.ok response)

/-! ## What the loops do without an error -/

/-- How much of the frame an attempt takes. -/
def SendAttempt.count (attempt : SendAttempt) : Nat :=
  match attempt.result with
  | .written count => count
  | _ => 0

/-- Blocking writes: nonempty parts of the frame and interrupts. -/
def QuietSends (attempts : List SendAttempt) : Prop :=
  ∀ attempt ∈ attempts, attempt.result = .eintr ∨ ∃ count, attempt.result = .written (count + 1)

/-- A frame that the kernel takes in any parts is sent completely. -/
theorem sendAll_of_quiet (strerror : Nat → Bytes) {pending : Bytes} {attempts : List SendAttempt}
    (quiet : QuietSends attempts)
    (enough : pending.length ≤ (attempts.map SendAttempt.count).sum) :
    sendAll strerror pending attempts = { taken := pending, result := some (.ok ()) } := by
  induction attempts generalizing pending with
  | nil =>
      obtain rfl : pending = [] := List.eq_nil_of_length_eq_zero (Nat.le_zero.mp enough)
      rfl
  | cons attempt rest ih =>
      have rest_quiet : QuietSends rest :=
        fun other member => quiet other (List.mem_cons_of_mem attempt member)
      by_cases sent : pending = []
      · simp [sendAll, sent]
      have iteration : sendIteration strerror attempt = .ok attempt.count := by
        rcases quiet attempt List.mem_cons_self with interrupted | ⟨count, written⟩
        · simp [sendIteration, SendAttempt.count, interrupted]
        · simp [sendIteration, SendAttempt.count, written]
      have rest_enough : (pending.drop attempt.count).length ≤
          (rest.map SendAttempt.count).sum := by
        rw [List.map_cons, List.sum_cons] at enough
        rw [List.length_drop]
        omega
      simp [sendAll, sent, iteration, ih rest_quiet rest_enough]

/-- An iteration that appends whatever bytes arrive. -/
def Appends (iteration : Bytes → RecvAttempt → Except RpcError Bytes) : Prop :=
  ∀ buffer first chunk ready,
    iteration buffer ⟨.bytes (first :: chunk), ready⟩ = .ok (buffer ++ first :: chunk)

theorem appends_recvIteration (strerror : Nat → Bytes) : Appends (recvIteration strerror) :=
  fun _ _ _ _ => rfl

theorem appends_recvIterationAsync (strerror : Nat → Bytes) :
    Appends (recvIterationAsync strerror) :=
  fun _ _ _ _ => rfl

/-- Attempts that bring bytes or nothing, but no error. -/
def Benign (iteration : Bytes → RecvAttempt → Except RpcError Bytes)
    (attempts : List RecvAttempt) : Prop :=
  ∀ attempt ∈ attempts, ∀ buffer,
    iteration buffer attempt = .ok (buffer ++ attempt.result.chunk)

/-- Blocking reads: nonempty chunks and interrupts. -/
theorem benign_recvIteration (strerror : Nat → Bytes) {attempts : List RecvAttempt}
    (quiet : ∀ attempt ∈ attempts,
      attempt.result.ends = false ∧ attempt.result ≠ .eagain) :
    Benign (recvIteration strerror) attempts := by
  intro attempt member buffer
  obtain ⟨no_end, no_block⟩ := quiet attempt member
  obtain ⟨result, ready⟩ := attempt
  match result with
  | .bytes [] => cases no_end
  | .bytes (first :: chunk) => rfl
  | .eintr => simp [recvIteration, RecvResult.chunk]
  | .eagain => exact absurd rfl no_block
  | .error errno => cases no_end

/-- Asynchronous reads: also `EAGAIN` when the wait ends with readiness. -/
theorem benign_recvIterationAsync (strerror : Nat → Bytes) {attempts : List RecvAttempt}
    (quiet : ∀ attempt ∈ attempts,
      attempt.result.ends = false ∧ (attempt.result = .eagain → attempt.ready = true)) :
    Benign (recvIterationAsync strerror) attempts := by
  intro attempt member buffer
  obtain ⟨no_end, wakes⟩ := quiet attempt member
  obtain ⟨result, ready⟩ := attempt
  match result with
  | .bytes [] => cases no_end
  | .bytes (first :: chunk) => rfl
  | .eintr => simp [recvIterationAsync, recvIteration, RecvResult.chunk]
  | .eagain =>
      obtain rfl : ready = true := wakes rfl
      simp [recvIterationAsync, RecvResult.chunk]
  | .error errno => cases no_end

/-- An attempt that brings too much is read up to the missing bytes, and again from there. -/
theorem Appends.cut_attempt {iteration : Bytes → RecvAttempt → Except RpcError Bytes}
    (appends : Appends iteration) (buffer : Bytes) (attempt : RecvAttempt) {missing : Nat}
    (positive : 0 < missing) (more : missing < attempt.result.chunk.length) :
    (∀ later, iteration later (attempt.drop missing) =
        .ok (later ++ (attempt.drop missing).result.chunk)) ∧
      iteration buffer (attempt.take missing) =
        .ok (buffer ++ attempt.result.chunk.take missing) := by
  constructor
  · intro later
    cases behind : attempt.result.chunk.drop missing with
    | nil =>
        have empty := congrArg List.length behind
        rw [List.length_drop, List.length_nil] at empty
        omega
    | cons first chunk =>
        show iteration later ⟨.bytes (attempt.result.chunk.drop missing), attempt.ready⟩ =
          .ok (later ++ attempt.result.chunk.drop missing)
        rw [behind]
        exact appends later first chunk attempt.ready
  · cases front : attempt.result.chunk.take missing with
    | nil =>
        have empty := congrArg List.length front
        rw [List.length_take, List.length_nil] at empty
        omega
    | cons first chunk =>
        simp only [RecvAttempt.take, front]
        exact appends buffer first chunk attempt.ready

/-- The receive loop takes exactly the missing bytes off the stream, or waits. -/
theorem recvLoop_spec {iteration : Bytes → RecvAttempt → Except RpcError Bytes}
    (appends : Appends iteration) (size : Nat) (buffer : Bytes) {attempts : List RecvAttempt}
    (benign : Benign iteration attempts) :
    (size - buffer.length ≤ (RecvAttempt.stream attempts).length →
      ∃ rest, recvLoop iteration size buffer attempts =
          .done (buffer ++ (RecvAttempt.stream attempts).take (size - buffer.length)) rest ∧
        RecvAttempt.stream rest =
          (RecvAttempt.stream attempts).drop (size - buffer.length) ∧
        Benign iteration rest) ∧
      ((RecvAttempt.stream attempts).length < size - buffer.length →
        recvLoop iteration size buffer attempts = .waiting) := by
  induction attempts generalizing buffer with
  | nil =>
      simp only [recvLoop, RecvAttempt.stream, List.flatMap_nil, List.length_nil, Nat.le_zero,
        List.take_nil, List.drop_nil, List.append_nil]
      constructor
      · intro complete
        exact ⟨[], if_pos (by omega), rfl, benign⟩
      · intro missing
        exact if_neg (by omega)
  | cons attempt rest ih =>
      have rest_benign : Benign iteration rest :=
        fun other member => benign other (List.mem_cons_of_mem attempt member)
      have stream_cons : RecvAttempt.stream (attempt :: rest) =
          attempt.result.chunk ++ RecvAttempt.stream rest := List.flatMap_cons
      simp only [recvLoop, stream_cons, List.length_append]
      by_cases complete : size - buffer.length = 0
      · simp only [complete, if_true, List.take_zero, List.append_nil, List.drop_zero]
        exact ⟨fun _ => ⟨attempt :: rest, rfl, stream_cons, benign⟩, by omega⟩
      simp only [complete, if_false]
      by_cases more : size - buffer.length < attempt.result.chunk.length
      · obtain ⟨dropped_benign, taken⟩ := appends.cut_attempt buffer attempt (by omega) more
        simp only [more, if_true, taken]
        refine ⟨fun _ => ⟨attempt.drop (size - buffer.length) :: rest, ?_, ?_, ?_⟩, by omega⟩
        · rw [List.take_append_of_le_length (by omega)]
        · rw [List.drop_append_of_le_length (by omega)]
          exact List.flatMap_cons
        · intro other member
          rcases List.mem_cons.mp member with rfl | member
          · exact dropped_benign
          · exact rest_benign other member
      · have behind := ih (buffer ++ attempt.result.chunk) rest_benign
        have smaller : size - (buffer ++ attempt.result.chunk).length =
            size - buffer.length - attempt.result.chunk.length := by
          rw [List.length_append]
          omega
        rw [smaller] at behind
        simp only [more, if_false, benign attempt List.mem_cons_self buffer]
        refine ⟨fun enough => ?_, fun short => behind.2 (by omega)⟩
        obtain ⟨left, ok, left_stream, left_benign⟩ := behind.1 (by omega)
        have all_taken : attempt.result.chunk.take (size - buffer.length) = attempt.result.chunk :=
          List.take_of_length_le (by omega)
        have none_left : attempt.result.chunk.drop (size - buffer.length) = [] :=
          List.drop_of_length_le (by omega)
        refine ⟨left, ?_, ?_, left_benign⟩
        · rw [ok, List.take_append, all_taken, List.append_assoc]
        · rw [left_stream, List.drop_append, none_left, List.nil_append]

/-- Both variants of the receive loop on a fresh buffer. -/
def Receives (iteration : Bytes → RecvAttempt → Except RpcError Bytes)
    (receive : Nat → List RecvAttempt → Transfer Bytes) : Prop :=
  Appends iteration ∧ ∀ size attempts, receive size attempts = recvLoop iteration size [] attempts

theorem receives_recvAll (strerror : Nat → Bytes) :
    Receives (recvIteration strerror) (recvAll strerror) :=
  ⟨appends_recvIteration strerror, fun _ _ => rfl⟩

theorem receives_recvAllAsync (strerror : Nat → Bytes) :
    Receives (recvIterationAsync strerror) (recvAllAsync strerror) :=
  ⟨appends_recvIterationAsync strerror, fun _ _ => rfl⟩

theorem Receives.spec {iteration : Bytes → RecvAttempt → Except RpcError Bytes}
    {receive : Nat → List RecvAttempt → Transfer Bytes} (receives : Receives iteration receive)
    (size : Nat) {attempts : List RecvAttempt} (benign : Benign iteration attempts) :
    (size ≤ (RecvAttempt.stream attempts).length →
      ∃ rest, receive size attempts = .done ((RecvAttempt.stream attempts).take size) rest ∧
        RecvAttempt.stream rest = (RecvAttempt.stream attempts).drop size ∧
        Benign iteration rest) ∧
      ((RecvAttempt.stream attempts).length < size → receive size attempts = .waiting) := by
  obtain ⟨appends, receive_eq⟩ := receives
  simpa [receive_eq] using recvLoop_spec appends size [] benign

theorem checkFrameSize_eq (lengthField : Bytes) :
    checkFrameSize lengthField =
      if AdmissibleLength (decode32 lengthField) then .ok (decode32 lengthField)
      else .error ⟨kInvalidPacket, text "response frame length is invalid"⟩ := by
  have refused : (decode32 lengthField < 4 ∨ decode32 lengthField > kMaxFrameSize) ↔
      ¬ AdmissibleLength (decode32 lengthField) := by
    simp only [AdmissibleLength, maxFrameBody, kMaxFrameSize]
    omega
  simp only [checkFrameSize, refused, ite_not]

/-- Receiving one frame decides on the stream as the grammar does. -/
theorem receiveFrameWith_spec {iteration : Bytes → RecvAttempt → Except RpcError Bytes}
    {receive : Nat → List RecvAttempt → Transfer Bytes} (receives : Receives iteration receive)
    {attempts : List RecvAttempt} (benign : Benign iteration attempts) :
    match cutFrame (RecvAttempt.stream attempts) with
    | .more => receiveFrameWith receive attempts = .waiting
    | .reject => ∃ rest, receiveFrameWith receive attempts =
        .failed ⟨kInvalidPacket, text "response frame length is invalid"⟩ rest
    | .item frame behind => ∃ rest, receiveFrameWith receive attempts = .done frame rest ∧
        RecvAttempt.stream rest = behind ∧ Benign iteration rest := by
  generalize stream_eq : RecvAttempt.stream attempts = stream
  obtain ⟨field_done, field_waits⟩ := receives.spec 4 benign
  rw [stream_eq] at field_done field_waits
  by_cases short : stream.length < 4
  · have decision : cutFrame stream = .more := cutFrame_more_iff.mpr (Or.inl short)
    simp only [decision, receiveFrameWith, field_waits short]
  · obtain ⟨behind, field_eq, behind_stream, behind_benign⟩ := field_done (by omega)
    have field_size : decode32 (stream.take 4) = decode32 stream := by
      have complete : 4 ≤ (stream.take 4).length := by
        rw [List.length_take]
        omega
      have whole := decode32_append (stream.take 4) (stream.drop 4) complete
      rw [List.take_append_drop] at whole
      exact whole.symm
    by_cases admissible : AdmissibleLength (decode32 stream)
    · obtain ⟨body_done, body_waits⟩ := receives.spec (decode32 stream) behind_benign
      rw [behind_stream, List.length_drop] at body_done body_waits
      by_cases incomplete : stream.length < 4 + decode32 stream
      · have decision : cutFrame stream = .more :=
          cutFrame_more_iff.mpr (Or.inr ⟨admissible, incomplete⟩)
        simp only [decision, receiveFrameWith, field_eq, checkFrameSize_eq, field_size, admissible,
          if_true, body_waits (show stream.length - 4 < decode32 stream by omega)]
      · have decision : cutFrame stream = .item (stream.take (4 + decode32 stream))
            (stream.drop (4 + decode32 stream)) :=
          cutFrame_item_iff.mpr ⟨admissible, by omega, rfl, rfl⟩
        obtain ⟨rest, body_eq, rest_stream, rest_benign⟩ := body_done (by omega)
        simp only [decision, receiveFrameWith, field_eq, checkFrameSize_eq, field_size, admissible,
          if_true, body_eq]
        refine ⟨rest, ?_, ?_, rest_benign⟩
        · rw [← List.take_add]
        · rw [rest_stream, List.drop_drop]
    · have decision : cutFrame stream = .reject :=
        cutFrame_reject_iff.mpr ⟨by omega, admissible⟩
      simp only [decision, receiveFrameWith, field_eq, checkFrameSize_eq, field_size, admissible,
        if_false]
      exact ⟨behind, rfl⟩

/-- A stream that is one frame is received as that frame. -/
theorem receiveFrame_of_isFrame (strerror : Nat → Bytes) {attempts : List RecvAttempt}
    (quiet : ∀ attempt ∈ attempts, attempt.result.ends = false ∧ attempt.result ≠ .eagain)
    (isFrame : IsFrame (RecvAttempt.stream attempts)) :
    ∃ rest, receiveFrame strerror attempts = .done (RecvAttempt.stream attempts) rest := by
  have decision := cutFrame_of_isFrame isFrame []
  rw [List.append_nil] at decision
  have received := receiveFrameWith_spec (receives_recvAll strerror)
    (benign_recvIteration strerror quiet)
  simp only [decision] at received
  obtain ⟨rest, done, -⟩ := received
  exact ⟨rest, done⟩

/-- A round trip whose bytes all arrive returns the response frame. -/
theorem roundTrip_of_quiet (strerror : Nat → Bytes) {frame : Bytes} {sends : List SendAttempt}
    (sends_quiet : QuietSends sends)
    (enough : frame.length ≤ (sends.map SendAttempt.count).sum) {recvs : List RecvAttempt}
    (recvs_quiet : ∀ attempt ∈ recvs, attempt.result.ends = false ∧ attempt.result ≠ .eagain)
    (isFrame : IsFrame (RecvAttempt.stream recvs)) :
    roundTrip strerror frame sends recvs = some (.ok (RecvAttempt.stream recvs)) := by
  obtain ⟨rest, received⟩ := receiveFrame_of_isFrame strerror recvs_quiet isFrame
  simp only [roundTrip, sendAll_of_quiet strerror sends_quiet enough, received]

end TcpClientTransport

end Hxrpc
