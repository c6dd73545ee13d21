import Hxrpc.Client.Transport

/-!
# The transfer loops byte by byte

What `SendAll`, `RecvAll` and their asynchronous variants have transferred when they return, and how
the variants agree.  The asynchronous loop waits where the blocking one fails, so the scripts differ
by the attempts after which the wait ended with readiness.
-/

namespace Hxrpc

open RpcStatusCode

namespace TcpClientTransport

/-- One iteration of `SendAllAsync`. -/
def sendIterationAsync (strerror : Nat → Bytes) (attempt : SendAttempt) : Except RpcError Nat :=
  match attempt.result with
  | .written 0 => .error ⟨kNetworkError, text "send returned zero bytes"⟩
  | .written count => .ok count
  | .eintr => .ok 0
  | .eagain => if attempt.ready then .ok 0 else .error ⟨kNetworkError, text "send timed out"⟩
  | .error errno => .error ⟨kNetworkError, buildSystemError strerror (text "send failed") errno⟩

/-- The loop of both sending variants on the bytes from the offset on. -/
def sendLoop (iteration : SendAttempt → Except RpcError Nat) : Bytes → List SendAttempt → Sending
  | pending, [] => { taken := [], result := if pending = [] then some (.ok ()) else none }
  | pending, attempt :: rest =>
      if pending = [] then { taken := [], result := some (.ok ()) }
      else
        match iteration attempt with
        | .error error => { taken := [], result := some (.error error) }
        | .ok count =>
            let behind := sendLoop iteration (pending.drop count) rest
            { behind with taken := pending.take count ++ behind.taken }

/-- `TcpClientTransport::SendAllAsync`. -/
def sendAllAsync (strerror : Nat → Bytes) (data : Bytes) (attempts : List SendAttempt) : Sending :=
  sendLoop (sendIterationAsync strerror) data attempts

/-- What the buffer holds when a receiving loop returns or waits. -/
def recvBuffer (iteration : Bytes → RecvAttempt → Except RpcError Bytes) (size : Nat) :
    Bytes → List RecvAttempt → Bytes
  | buffer, [] => buffer
  | buffer, attempt :: rest =>
      let missing := size - buffer.length
      if missing = 0 then buffer
      else if missing < attempt.result.chunk.length then
        match iteration buffer (attempt.take missing) with
        | .error _ => buffer
        | .ok buffer => buffer
      else
        match iteration buffer attempt with
        | .error _ => buffer
        | .ok buffer => recvBuffer iteration size buffer rest

/-- `EAGAIN`, and then the socket became writable. -/
def SendAttempt.waited (attempt : SendAttempt) : Bool :=
  attempt.result = .eagain ∧ attempt.ready = true

/-- `EAGAIN`, and then the socket became readable. -/
def RecvAttempt.waited (attempt : RecvAttempt) : Bool :=
  attempt.result = .eagain ∧ attempt.ready = true

/-- The script without the attempts after which the socket became writable. -/
def SendAttempt.withoutWaits (attempts : List SendAttempt) : List SendAttempt :=
  attempts.filter fun attempt => !attempt.waited

/-- The script without the attempts after which the socket became readable. -/
def RecvAttempt.withoutWaits (attempts : List RecvAttempt) : List RecvAttempt :=
  attempts.filter fun attempt => !attempt.waited

/-! ## Sending -/

theorem sendAll_eq_sendLoop (strerror : Nat → Bytes) (pending : Bytes)
    (attempts : List SendAttempt) :
    sendAll strerror pending attempts = sendLoop (sendIteration strerror) pending attempts := by
  induction attempts generalizing pending with
  | nil => simp only [sendAll, sendLoop]
  | cons attempt rest ih =>
      simp only [sendAll, sendLoop]
      split_ifs
      · rfl
      · cases sendIteration strerror attempt with
        | error error => rfl
        | ok count => simp only [ih]

/-- A sending loop takes the bytes from the front on; it has taken all of them exactly if it
succeeds. -/
theorem sendLoop_exact (iteration : SendAttempt → Except RpcError Nat) (pending : Bytes)
    (attempts : List SendAttempt) :
    (sendLoop iteration pending attempts).taken <+: pending ∧
      ((sendLoop iteration pending attempts).taken = pending ↔
        (sendLoop iteration pending attempts).result = some (.ok ())) := by
  induction attempts generalizing pending with
  | nil =>
      rw [sendLoop]
      refine ⟨List.nil_prefix, ?_⟩
      cases pending with
      | nil => simp
      | cons first pending => simp
  | cons attempt rest ih =>
      rw [sendLoop]
      split_ifs with sent
      · simp [sent]
      · cases iteration attempt with
        | error error => simpa [eq_comm] using sent
        | ok count =>
            obtain ⟨rest_leads, behind_iff⟩ := ih (pending.drop count)
            constructor
            · calc
                pending.take count ++ (sendLoop iteration (pending.drop count) rest).taken <+:
                    pending.take count ++ pending.drop count :=
                  (List.prefix_append_right_inj _).mpr rest_leads
                _ = pending := List.take_append_drop count pending
            · rw [← behind_iff]
              calc
                pending.take count ++ (sendLoop iteration (pending.drop count) rest).taken =
                    pending ↔
                  pending.take count ++ (sendLoop iteration (pending.drop count) rest).taken =
                    pending.take count ++ pending.drop count := by
                      rw [List.take_append_drop]
                _ ↔ (sendLoop iteration (pending.drop count) rest).taken = pending.drop count := by
                  rw [List.append_cancel_left_eq]

/-- A sending loop that fails does so at one attempt, before which it has not returned. -/
theorem sendLoop_error {iteration : SendAttempt → Except RpcError Nat} {pending : Bytes}
    {attempts : List SendAttempt} {error : RpcError}
    (failed : (sendLoop iteration pending attempts).result = some (.error error)) :
    ∃ front last rest, attempts = front ++ last :: rest ∧
      (sendLoop iteration pending front).result = none ∧ iteration last = .error error := by
  induction attempts generalizing pending with
  | nil =>
      rw [sendLoop] at failed
      rcases eq_or_ne pending [] with rfl | unsent
      · cases failed
      · simp [unsent] at failed
  | cons attempt rest ih =>
      rw [sendLoop] at failed
      rcases eq_or_ne pending [] with rfl | unsent
      · cases failed
      rw [if_neg unsent] at failed
      cases step : iteration attempt with
      | error stopped =>
          rw [step] at failed
          obtain rfl := Except.error.inj (Option.some.inj failed)
          exact ⟨[], attempt, rest, rfl, by rw [sendLoop, if_neg unsent], step⟩
      | ok count =>
          rw [step] at failed
          obtain ⟨front, last, behind, rfl, waiting, stopped⟩ := ih failed
          refine ⟨attempt :: front, last, behind, rfl, ?_, stopped⟩
          rw [sendLoop, if_neg unsent, step]
          exact waiting

/-! ## The blocking and the asynchronous variant -/

/-- The result with another error. -/
def Sending.mapError (replace : RpcError → RpcError) (sending : Sending) : Sending :=
  { sending with result := sending.result.map (Except.mapError replace) }

/-- The result with another error and the rest of another script. -/
def Transfer.mapError (replace : RpcError → RpcError)
    (script : List RecvAttempt → List RecvAttempt) : Transfer Bytes → Transfer Bytes
  | .done value rest => .done value (script rest)
  | .failed error rest => .failed (replace error) (script rest)
  | .waiting => .waiting

/-- The error of the blocking loop where the asynchronous one gives up waiting. -/
def blockedError (strerror : Nat → Bytes) (what : Bytes) (error : RpcError) : RpcError :=
  if error = ⟨kNetworkError, what ++ text " timed out"⟩ then
    ⟨kNetworkError, buildSystemError strerror (what ++ text " failed") kEagain⟩
  else error

/-- A text that starts otherwise is no system error of this call. -/
theorem buildSystemError_ne (strerror : Nat → Bytes) {what other : Bytes} (errno : Nat)
    (differ : other.take what.length ≠ what) : buildSystemError strerror what errno ≠ other := by
  rintro rfl
  apply differ
  rw [buildSystemError, List.append_assoc, List.take_left]

theorem blockedError_of_ne {strerror : Nat → Bytes} {what message : Bytes} {code : RpcStatusCode}
    (other : message ≠ what ++ text " timed out") :
    blockedError strerror what ⟨code, message⟩ = ⟨code, message⟩ := by
  apply if_neg
  intro same
  exact other (congrArg RpcError.message same)

/-- Unless the socket became writable, the iterations differ by the error at `EAGAIN`. -/
theorem sendIteration_eq (strerror : Nat → Bytes) {attempt : SendAttempt}
    (kept : attempt.waited = false) :
    sendIteration strerror attempt =
      (sendIterationAsync strerror attempt).mapError (blockedError strerror (text "send")) := by
  obtain ⟨result, ready⟩ := attempt
  match result with
  | .written 0 =>
      have other : blockedError strerror (text "send")
          ⟨kNetworkError, text "send returned zero bytes"⟩ =
            ⟨kNetworkError, text "send returned zero bytes"⟩ := blockedError_of_ne (by decide)
      simp only [sendIteration, sendIterationAsync, Except.mapError, other]
  | .written (count + 1) => rfl
  | .eintr => rfl
  | .eagain =>
      cases ready with
      | true => cases kept
      | false => rfl
  | .error errno =>
      have other : blockedError strerror (text "send")
          ⟨kNetworkError, buildSystemError strerror (text "send failed") errno⟩ =
            ⟨kNetworkError, buildSystemError strerror (text "send failed") errno⟩ :=
        blockedError_of_ne (buildSystemError_ne strerror errno (by decide))
      simp only [sendIteration, sendIterationAsync, Except.mapError, other]

theorem sendIterationAsync_of_waited (strerror : Nat → Bytes) {attempt : SendAttempt}
    (waited : attempt.waited = true) : sendIterationAsync strerror attempt = .ok 0 := by
  obtain ⟨eagain, ready⟩ := of_decide_eq_true waited
  simp only [sendIterationAsync, eagain, ready, if_true]

/-- The blocking loop on the script without waits does what the asynchronous loop does. -/
theorem sendAll_withoutWaits (strerror : Nat → Bytes) (pending : Bytes)
    (attempts : List SendAttempt) :
    sendAll strerror pending (SendAttempt.withoutWaits attempts) =
      (sendAllAsync strerror pending attempts).mapError
        (blockedError strerror (text "send")) := by
  rw [sendAll_eq_sendLoop, sendAllAsync]
  induction attempts generalizing pending with
  | nil =>
      rcases eq_or_ne pending [] with rfl | unsent
      · rfl
      · simp [SendAttempt.withoutWaits, sendLoop, Sending.mapError, unsent]
  | cons attempt rest ih =>
      rcases eq_or_ne pending [] with rfl | unsent
      · cases SendAttempt.withoutWaits (attempt :: rest) with
        | nil => rfl
        | cons other others => rfl
      cases waited : attempt.waited with
      | true =>
          have removed : SendAttempt.withoutWaits (attempt :: rest) =
              SendAttempt.withoutWaits rest := by
            simp [SendAttempt.withoutWaits, waited]
          rw [removed, ih, sendLoop, if_neg unsent,
            sendIterationAsync_of_waited strerror waited]
          rfl
      | false =>
          have kept : SendAttempt.withoutWaits (attempt :: rest) =
              attempt :: SendAttempt.withoutWaits rest := by
            simp [SendAttempt.withoutWaits, waited]
          rw [kept, sendLoop, if_neg unsent, sendLoop, if_neg unsent,
            sendIteration_eq strerror waited]
          cases sendIterationAsync strerror attempt with
          | error error => rfl
          | ok count =>
              simp only [Except.mapError, ih]
              rfl

/-- Unless the socket became readable, the iterations differ by the error at `EAGAIN`. -/
theorem recvIteration_eq (strerror : Nat → Bytes) (buffer : Bytes) {attempt : RecvAttempt}
    (kept : attempt.waited = false) :
    recvIteration strerror buffer attempt =
      (recvIterationAsync strerror buffer attempt).mapError
        (blockedError strerror (text "recv")) := by
  obtain ⟨result, ready⟩ := attempt
  match result with
  | .bytes [] =>
      have other : blockedError strerror (text "recv")
          ⟨kNetworkError, text "peer closed connection"⟩ =
            ⟨kNetworkError, text "peer closed connection"⟩ := blockedError_of_ne (by decide)
      simp only [recvIteration, recvIterationAsync, Except.mapError, other]
  | .bytes (first :: chunk) => rfl
  | .eintr => rfl
  | .eagain =>
      cases ready with
      | true => cases kept
      | false => rfl
  | .error errno =>
      have other : blockedError strerror (text "recv")
          ⟨kNetworkError, buildSystemError strerror (text "recv failed") errno⟩ =
            ⟨kNetworkError, buildSystemError strerror (text "recv failed") errno⟩ :=
        blockedError_of_ne (buildSystemError_ne strerror errno (by decide))
      simp only [recvIteration, recvIterationAsync, Except.mapError, other]

theorem recvIterationAsync_of_waited (strerror : Nat → Bytes) (buffer : Bytes)
    {attempt : RecvAttempt} (waited : attempt.waited = true) :
    recvIterationAsync strerror buffer attempt = .ok buffer := by
  obtain ⟨eagain, ready⟩ := of_decide_eq_true waited
  simp only [recvIterationAsync, eagain, ready, if_true]

/-- Once the buffer is full, the loop is over. -/
theorem recvLoop_of_full {iteration : Bytes → RecvAttempt → Except RpcError Bytes} {size : Nat}
    {buffer : Bytes} (full : size - buffer.length = 0) (attempts : List RecvAttempt) :
    recvLoop iteration size buffer attempts = .done buffer attempts := by
  cases attempts with
  | nil => rw [recvLoop, if_pos (Nat.sub_eq_zero_iff_le.mp full)]
  | cons attempt rest => simp only [recvLoop, full, if_true]

theorem recvLoop_withoutWaits (strerror : Nat → Bytes) (size : Nat) (buffer : Bytes)
    (attempts : List RecvAttempt) :
    recvLoop (recvIteration strerror) size buffer (RecvAttempt.withoutWaits attempts) =
      (recvLoop (recvIterationAsync strerror) size buffer attempts).mapError
        (blockedError strerror (text "recv")) RecvAttempt.withoutWaits := by
  induction attempts generalizing buffer with
  | nil =>
      simp only [RecvAttempt.withoutWaits, List.filter_nil, recvLoop]
      split_ifs
      · rfl
      · rfl
  | cons attempt rest ih =>
      by_cases full : size - buffer.length = 0
      · rw [recvLoop_of_full full, recvLoop_of_full full, Transfer.mapError]
      cases waited : attempt.waited with
      | true =>
          have removed : RecvAttempt.withoutWaits (attempt :: rest) =
              RecvAttempt.withoutWaits rest := by
            simp [RecvAttempt.withoutWaits, waited]
          have no_chunk : attempt.result.chunk = [] := by
            rw [(of_decide_eq_true waited).1]
            rfl
          rw [removed, ih]
          simp only [recvLoop, full, no_chunk, List.length_nil, Nat.not_lt_zero, if_false,
            recvIterationAsync_of_waited strerror buffer waited]
      | false =>
          have kept : RecvAttempt.withoutWaits (attempt :: rest) =
              attempt :: RecvAttempt.withoutWaits rest := by
            simp [RecvAttempt.withoutWaits, waited]
          simp only [kept, recvLoop, full, if_false]
          by_cases more : size - buffer.length < attempt.result.chunk.length
          · have front_kept : (attempt.take (size - buffer.length)).waited = false := rfl
            have back_kept : RecvAttempt.withoutWaits
                (attempt.drop (size - buffer.length) :: rest) =
                  attempt.drop (size - buffer.length) :: RecvAttempt.withoutWaits rest := rfl
            simp only [more, if_true, recvIteration_eq strerror buffer front_kept]
            cases recvIterationAsync strerror buffer (attempt.take (size - buffer.length)) with
            | error error => simp only [Except.mapError, Transfer.mapError, back_kept]
            | ok next => simp only [Except.mapError, Transfer.mapError, back_kept]
          · simp only [more, if_false, recvIteration_eq strerror buffer waited]
            cases recvIterationAsync strerror buffer attempt with
            | error error => simp only [Except.mapError, Transfer.mapError]
            | ok next => simp only [Except.mapError, ih]

/-! ## Receiving -/

/-- An iteration appends what arrived, and what fails brings nothing. -/
def Honest (iteration : Bytes → RecvAttempt → Except RpcError Bytes) : Prop :=
  ∀ buffer attempt, match iteration buffer attempt with
    | .ok next => next = buffer ++ attempt.result.chunk
    | .error _ => attempt.result.chunk = []

theorem honest_recvIteration (strerror : Nat → Bytes) : Honest (recvIteration strerror) := by
  intro buffer attempt
  obtain ⟨result, ready⟩ := attempt
  match result with
  | .bytes [] => rfl
  | .bytes (first :: chunk) => rfl
  | .eintr => exact (List.append_nil buffer).symm
  | .eagain => rfl
  | .error errno => rfl

theorem honest_recvIterationAsync (strerror : Nat → Bytes) :
    Honest (recvIterationAsync strerror) := by
  intro buffer attempt
  obtain ⟨result, ready⟩ := attempt
  match result, ready with
  | .bytes [], _ => rfl
  | .bytes (first :: chunk), _ => rfl
  | .eintr, _ => exact (List.append_nil buffer).symm
  | .eagain, true => exact (List.append_nil buffer).symm
  | .eagain, false => rfl
  | .error errno, _ => rfl

theorem Honest.of_ok {iteration : Bytes → RecvAttempt → Except RpcError Bytes}
    (honest : Honest iteration) {buffer next : Bytes} {attempt : RecvAttempt}
    (step : iteration buffer attempt = .ok next) : next = buffer ++ attempt.result.chunk := by
  have said := honest buffer attempt
  rw [step] at said
  exact said

theorem Honest.of_error {iteration : Bytes → RecvAttempt → Except RpcError Bytes}
    (honest : Honest iteration) {buffer : Bytes} {attempt : RecvAttempt} {error : RpcError}
    (step : iteration buffer attempt = .error error) : attempt.result.chunk = [] := by
  have said := honest buffer attempt
  rw [step] at said
  exact said

/-- What a receiving loop did to the stream: on success the buffer holds its first `size` bytes and
the rest is still there, on failure it holds fewer. -/
def ReceivesExactly (iteration : Bytes → RecvAttempt → Except RpcError Bytes) (size : Nat)
    (buffer : Bytes) (attempts : List RecvAttempt) : Prop :=
  match recvLoop iteration size buffer attempts with
  | .done value rest =>
      value = recvBuffer iteration size buffer attempts ∧ value.length = size ∧
        buffer ++ RecvAttempt.stream attempts = value ++ RecvAttempt.stream rest
  | .failed error rest =>
      (recvBuffer iteration size buffer attempts).length < size ∧
        buffer ++ RecvAttempt.stream attempts =
          recvBuffer iteration size buffer attempts ++ RecvAttempt.stream rest ∧
        ∃ front last, attempts = front ++ last :: rest ∧
          recvLoop iteration size buffer front = .waiting ∧
          ∃ before, iteration before last = .error error
  | .waiting => (recvBuffer iteration size buffer attempts).length < size

@[simp] theorem RecvAttempt.chunk_take (attempt : RecvAttempt) (count : Nat) :
    (attempt.take count).result.chunk = attempt.result.chunk.take count := rfl

@[simp] theorem RecvAttempt.chunk_drop (attempt : RecvAttempt) (count : Nat) :
    (attempt.drop count).result.chunk = attempt.result.chunk.drop count := rfl

theorem stream_cons (attempt : RecvAttempt) (rest : List RecvAttempt) :
    RecvAttempt.stream (attempt :: rest) = attempt.result.chunk ++ RecvAttempt.stream rest :=
  List.flatMap_cons

section Receiving

variable {iteration : Bytes → RecvAttempt → Except RpcError Bytes} {size : Nat} {buffer : Bytes}
  {attempt : RecvAttempt}

/-- The last attempt brings what is missing, and the rest of it stays in the stream. -/
theorem receivesExactly_of_more (honest : Honest iteration) (missing : size - buffer.length ≠ 0)
    (more : size - buffer.length < attempt.result.chunk.length) (rest : List RecvAttempt) :
    ReceivesExactly iteration size buffer (attempt :: rest) := by
  rw [ReceivesExactly, stream_cons]
  simp only [recvLoop, recvBuffer, missing, more, if_true, if_false]
  cases step : iteration buffer (attempt.take (size - buffer.length)) with
  | error error =>
      have empty := congrArg List.length (honest.of_error step)
      rw [RecvAttempt.chunk_take, List.length_take, List.length_nil] at empty
      omega
  | ok next =>
      obtain rfl := honest.of_ok step
      simp only [RecvAttempt.chunk_take, RecvAttempt.chunk_drop, stream_cons, List.length_append,
        List.length_take, true_and]
      refine ⟨by omega, ?_⟩
      rw [List.append_assoc, ← List.append_assoc (List.take _ _), List.take_append_drop]

/-- An attempt that fails leaves the stream as it is. -/
theorem receivesExactly_of_error (honest : Honest iteration)
    (missing : size - buffer.length ≠ 0)
    (whole : ¬ size - buffer.length < attempt.result.chunk.length) {error : RpcError}
    (step : iteration buffer attempt = .error error) (rest : List RecvAttempt) :
    ReceivesExactly iteration size buffer (attempt :: rest) := by
  rw [ReceivesExactly, stream_cons, honest.of_error step, List.nil_append]
  simp only [recvLoop, recvBuffer, missing, whole, if_false, step]
  refine ⟨by omega, trivial, [], attempt, rfl, ?_, buffer, step⟩
  rw [recvLoop, if_neg (by omega)]

/-- Behind an attempt that is taken whole the loop goes on. -/
theorem receivesExactly_of_ok (missing : size - buffer.length ≠ 0)
    (whole : ¬ size - buffer.length < attempt.result.chunk.length) {rest : List RecvAttempt}
    (step : iteration buffer attempt = .ok (buffer ++ attempt.result.chunk))
    (behind : ReceivesExactly iteration size (buffer ++ attempt.result.chunk) rest) :
    ReceivesExactly iteration size buffer (attempt :: rest) := by
  rw [ReceivesExactly] at behind ⊢
  simp only [recvLoop, recvBuffer, missing, whole, if_false, step, stream_cons,
    ← List.append_assoc]
  cases outcome : recvLoop iteration size (buffer ++ attempt.result.chunk) rest with
  | done value left =>
      rw [outcome] at behind
      exact behind
  | failed error left =>
      rw [outcome] at behind
      obtain ⟨short, stream_eq, front, last, rfl, waiting, stopped⟩ := behind
      refine ⟨short, stream_eq, attempt :: front, last, rfl, ?_, stopped⟩
      simp only [recvLoop, missing, whole, if_false, step, waiting]
  | waiting =>
      rw [outcome] at behind
      exact behind

theorem receivesExactly (honest : Honest iteration) (fits : buffer.length ≤ size)
    (attempts : List RecvAttempt) : ReceivesExactly iteration size buffer attempts := by
  induction attempts generalizing buffer with
  | nil =>
      rw [ReceivesExactly, recvLoop, recvBuffer]
      split_ifs with full
      · exact ⟨rfl, Nat.le_antisymm fits full, rfl⟩
      · exact Nat.not_le.mp full
  | cons attempt rest ih =>
      by_cases full : size - buffer.length = 0
      · rw [ReceivesExactly, recvLoop_of_full full]
        simp only [recvBuffer, full, if_true]
        exact ⟨trivial, by omega, trivial⟩
      rcases Nat.lt_or_ge (size - buffer.length) attempt.result.chunk.length with more | whole
      · exact receivesExactly_of_more honest full more rest
      cases step : iteration buffer attempt with
      | error error =>
          exact receivesExactly_of_error honest full (Nat.not_lt.mpr whole) step rest
      | ok next =>
          obtain rfl := honest.of_ok step
          have longer : (buffer ++ attempt.result.chunk).length ≤ size := by
            rw [List.length_append]
            omega
          exact receivesExactly_of_ok full (Nat.not_lt.mpr whole) step (ih longer)

end Receiving

/-! ## Agreement -/

/-- The bytes taken are the front of the data, and all of it exactly on success. -/
def SendsExactly (data : Bytes) (sending : Sending) : Prop :=
  sending.taken <+: data ∧ (sending.taken = data ↔ sending.result = some (.ok ()))

/-- The outcomes of the sending loops.  A failure comes from one attempt, the last; the errors are
the same unless that attempt met `EAGAIN`. -/
def SendsAgree (strerror : Nat → Bytes) (data : Bytes) (attempts : List SendAttempt) : Prop :=
  match (sendAllAsync strerror data attempts).result with
  | none => (sendAll strerror data (SendAttempt.withoutWaits attempts)).result = none
  | some (.ok ()) =>
      (sendAll strerror data (SendAttempt.withoutWaits attempts)).result = some (.ok ())
  | some (.error error) => ∃ front last rest, attempts = front ++ last :: rest ∧
      (sendAllAsync strerror data front).result = none ∧
      (sendAll strerror data (SendAttempt.withoutWaits attempts)).result =
        some (.error (if last.result = .eagain then
          ⟨kNetworkError, buildSystemError strerror (text "send failed") kEagain⟩ else error))

/-- The outcomes of the receiving loops, with the same reservation about `EAGAIN`. -/
def ReceivesAgree (strerror : Nat → Bytes) (size : Nat) (attempts : List RecvAttempt) : Prop :=
  match recvAllAsync strerror size attempts with
  | .waiting => recvAll strerror size (RecvAttempt.withoutWaits attempts) = .waiting
  | .done buffer rest =>
      recvAll strerror size (RecvAttempt.withoutWaits attempts) =
        .done buffer (RecvAttempt.withoutWaits rest)
  | .failed error rest => ∃ front last, attempts = front ++ last :: rest ∧
      recvAllAsync strerror size front = .waiting ∧
      recvAll strerror size (RecvAttempt.withoutWaits attempts) =
        .failed (if last.result = .eagain then
          ⟨kNetworkError, buildSystemError strerror (text "recv failed") kEagain⟩ else error)
          (RecvAttempt.withoutWaits rest)

theorem blockedError_of_sendIterationAsync {strerror : Nat → Bytes} {last : SendAttempt}
    {error : RpcError} (stopped : sendIterationAsync strerror last = .error error) :
    blockedError strerror (text "send") error =
      if last.result = .eagain then
        ⟨kNetworkError, buildSystemError strerror (text "send failed") kEagain⟩ else error := by
  have kept : last.waited = false := by
    rw [Bool.eq_false_iff]
    intro waited
    rw [sendIterationAsync_of_waited strerror waited] at stopped
    cases stopped
  have mapped := sendIteration_eq strerror kept
  rw [stopped] at mapped
  obtain ⟨result, ready⟩ := last
  match result with
  | .written 0 => exact (Except.error.inj (stopped.symm.trans mapped)).symm
  | .written (count + 1) => cases stopped
  | .eintr => cases stopped
  | .eagain => exact (Except.error.inj mapped).symm
  | .error errno => exact (Except.error.inj (stopped.symm.trans mapped)).symm

theorem blockedError_of_recvIterationAsync {strerror : Nat → Bytes} {buffer : Bytes}
    {last : RecvAttempt} {error : RpcError}
    (stopped : recvIterationAsync strerror buffer last = .error error) :
    blockedError strerror (text "recv") error =
      if last.result = .eagain then
        ⟨kNetworkError, buildSystemError strerror (text "recv failed") kEagain⟩ else error := by
  have kept : last.waited = false := by
    rw [Bool.eq_false_iff]
    intro waited
    rw [recvIterationAsync_of_waited strerror buffer waited] at stopped
    cases stopped
  have mapped := recvIteration_eq strerror buffer kept
  rw [stopped] at mapped
  obtain ⟨result, ready⟩ := last
  cases result with
  | bytes chunk => exact (Except.error.inj (stopped.symm.trans mapped)).symm
  | eintr => cases stopped
  | eagain => exact (Except.error.inj mapped).symm
  | error errno => exact (Except.error.inj (stopped.symm.trans mapped)).symm

theorem sends_agree (strerror : Nat → Bytes) (data : Bytes) (attempts : List SendAttempt) :
    SendsAgree strerror data attempts := by
  have blocking := sendAll_withoutWaits strerror data attempts
  rw [SendsAgree, blocking, Sending.mapError]
  cases outcome : (sendAllAsync strerror data attempts).result with
  | none => rfl
  | some result =>
      cases result with
      | ok value => rfl
      | error error =>
          obtain ⟨front, last, rest, rfl, waiting, stopped⟩ := sendLoop_error outcome
          refine ⟨front, last, rest, rfl, waiting, ?_⟩
          rw [← blockedError_of_sendIterationAsync stopped]
          rfl

theorem receives_agree (strerror : Nat → Bytes) (size : Nat) (attempts : List RecvAttempt) :
    ReceivesAgree strerror size attempts := by
  have blocking := recvLoop_withoutWaits strerror size [] attempts
  have received : ReceivesExactly (recvIterationAsync strerror) size [] attempts :=
    receivesExactly (honest_recvIterationAsync strerror) (Nat.zero_le size) attempts
  rw [ReceivesExactly] at received
  rw [ReceivesAgree, recvAllAsync, recvAll, blocking]
  cases outcome : recvLoop (recvIterationAsync strerror) size [] attempts with
  | waiting => rfl
  | done buffer rest => rfl
  | failed error rest =>
      rw [outcome] at received
      obtain ⟨-, -, front, last, rfl, waiting, before, stopped⟩ := received
      refine ⟨front, last, rfl, waiting, ?_⟩
      rw [← blockedError_of_recvIterationAsync stopped]
      rfl

/-- The asynchronous loops succeed exactly if the blocking ones do on the script without waits, and
fail with the same error unless they stop at `EAGAIN`.  Every loop transfers exactly the bytes it
was given or asked for when it succeeds, and fewer of them, from the front on, when it fails. -/
theorem transfer_loops_agree (strerror : Nat → Bytes) :
    (∀ data attempts, SendsAgree strerror data attempts ∧
      SendsExactly data (sendAllAsync strerror data attempts) ∧
      SendsExactly data (sendAll strerror data attempts)) ∧
    ∀ size attempts, ReceivesAgree strerror size attempts ∧
      ReceivesExactly (recvIterationAsync strerror) size [] attempts ∧
      ReceivesExactly (recvIteration strerror) size [] attempts := by
  constructor
  · intro data attempts
    refine ⟨sends_agree strerror data attempts, sendLoop_exact _ data attempts, ?_⟩
    rw [sendAll_eq_sendLoop]
    exact sendLoop_exact _ data attempts
  · intro size attempts
    exact ⟨receives_agree strerror size attempts,
      receivesExactly (honest_recvIterationAsync strerror) (Nat.zero_le size) attempts,
      receivesExactly (honest_recvIteration strerror) (Nat.zero_le size) attempts⟩

/-- A short write, a wait and the rest. -/
example : (sendAllAsync (fun _ => []) [1, 2, 3]
      [⟨.written 2, true⟩, ⟨.eagain, true⟩, ⟨.written 1, true⟩]).taken = [1, 2, 3] ∧
    (sendAllAsync (fun _ => []) [1, 2, 3] [⟨.written 2, true⟩, ⟨.eagain, false⟩]).result =
      some (.error ⟨kNetworkError, text "send timed out"⟩) := by
  decide

end TcpClientTransport

end Hxrpc
