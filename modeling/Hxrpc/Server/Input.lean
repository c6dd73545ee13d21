import Hxrpc.Server.Operations

/-!
# Reading and cutting

`ProcessInput` cuts exactly the frames of the grammar off the input buffer and answers each of them.
It runs on after the frame handler closed the connection precisely when a write of an answer fails;
otherwise it leaves the residue of the buffer, or closes the connection where the grammar refuses
the stream.
-/

namespace Hxrpc

open StreamCut

namespace ConnectionManager

/-- The frame handler answers every frame with `respond`, in every state that satisfies
`invariant`. -/
structure Answers {App : Type} (handler : FrameHandler App) (invariant : App → Prop)
    (respond : Bytes → Bytes) : Prop where
  reply : ∀ {app} frame, invariant app → (handler app frame).2 = some (respond frame)
  keeps : ∀ {app} frame, invariant app → invariant (handler app frame).1

/-- Whether a write fails while these replies are sent one after another, each behind the bytes
that the writes before it left. -/
def repliesFail : Bytes → List Bytes → List SendResult → Bool
  | _, [], _ => false
  | pending, reply :: replies, sends =>
      (flush (pending ++ reply) sends).ending = .failed ||
        repliesFail ((flush (pending ++ reply) sends).left (pending ++ reply)) replies
          (flush (pending ++ reply) sends).sends

/-- Results without a zero or fatal `send`. -/
def NoFailure (sends : List SendResult) : Prop :=
  ∀ result ∈ sends, result ≠ .written 0 ∧ ∀ errno, result ≠ .error errno

theorem flush_of_noFailure (pending : Bytes) {sends : List SendResult} (fine : NoFailure sends) :
    (flush pending sends).ending ≠ .failed ∧ NoFailure (flush pending sends).sends := by
  fun_induction flush pending sends with
  | case1 pending => exact ⟨by by_cases pending = [] <;> simp_all, fine⟩
  | case2 result rest => exact ⟨by simp, fine⟩
  | case3 pending rest nonempty => exact absurd rfl (fine (.written 0) (by simp)).1
  | case4 pending rest nonempty count behind ih =>
      exact ih fun result member => fine result (by simp [member])
  | case5 pending rest nonempty ih => exact ih fun result member => fine result (by simp [member])
  | case6 pending rest nonempty =>
      exact ⟨by simp, fun result member => fine result (by simp [member])⟩
  | case7 pending rest nonempty errno => exact absurd rfl ((fine (.error errno) (by simp)).2 errno)

/-- Without a zero or fatal result no reply fails. -/
theorem repliesFail_of_noFailure (pending : Bytes) (replies : List Bytes)
    {sends : List SendResult} (fine : NoFailure sends) :
    repliesFail pending replies sends = false := by
  induction replies generalizing pending sends with
  | nil => rfl
  | cons reply replies ih =>
      obtain ⟨no_fail, fine_rest⟩ := flush_of_noFailure (pending ++ reply) fine
      simp [repliesFail, no_fail, ih _ fine_rest]

/-- The loop of `ProcessInput` decides on the input buffer as the grammar does. -/
theorem processLoop_eq {App : Type} (handler : FrameHandler App) {server : Server App} {fd : Fd}
    {connection : ConnectionState} (entry : server.connections fd = some connection) (fuel : Nat)
    (sends : List SendResult) :
    processLoop handler fd connection.incarnation fuel server sends =
      match cutFrame connection.inputBuffer with
      | .more => .ok (server, sends)
      | .reject => .ok (close server fd, sends)
      | .item frame rest =>
          match fuel with
          | 0 => .ok (server, sends)
          | fuel + 1 =>
              let called := callFrameHandler handler
                (server.setConnection fd { connection with inputBuffer := rest }) fd frame sends
              processLoop handler fd connection.incarnation fuel called.1 called.2 := by
  have admissible : (BigEndian.decode32 connection.inputBuffer < 4 ∨
      BigEndian.decode32 connection.inputBuffer > kMaxFrameBodySize) ↔
        ¬ AdmissibleLength (BigEndian.decode32 connection.inputBuffer) := by
    simp only [AdmissibleLength, maxFrameBody, kMaxFrameBodySize]
    omega
  conv_lhs => unfold processLoop
  simp only [entry, ne_eq, not_true_eq_false, if_false, admissible, cutFrame]
  split
  · rfl
  split
  · rfl
  split
  · rfl
  · cases fuel <;> rfl

/-- One call of the frame handler on an open connection. -/
theorem callFrameHandler_spec {App : Type} {handler : FrameHandler App} {invariant : App → Prop}
    {respond : Bytes → Bytes} (answers : Answers handler invariant respond)
    {server : Server App} {fd : Fd} {connection : ConnectionState} {events : Events}
    (opened : Open server fd connection events) (holds : invariant server.app)
    (within : connection.bytesSent ≤ connection.outputBuffer.length) (frame : Bytes)
    (sends : List SendResult) :
    let flushed := flush (connection.pending ++ respond frame) sends
    let called := callFrameHandler handler server fd frame sends
    called.2 = flushed.sends ∧ invariant called.1.app ∧
      Effect fd connection.incarnation
        ([.delivered frame, .submitted (respond frame)] ++ flushed.chunks.map .accepted)
        server called.1 ∧
      (flushed.ending = .failed → Gone called.1 fd) ∧
      (flushed.ending ≠ .failed → ∃ changed events, Open called.1 fd changed events ∧
        Tidy changed events ∧ changed.pending = flushed.left (connection.pending ++ respond frame) ∧
        changed.inputBuffer = connection.inputBuffer ∧
        changed.incarnation = connection.incarnation) := by
  intro flushed called
  have recorded := (opened.record [.delivered frame]).withApp (handler server.app frame).1
  have effect := (opened.effect_record [.delivered frame]).trans
    (effect_withApp connection.incarnation (handler server.app frame).1)
  obtain ⟨rest, wrote⟩ := send_spec recorded within (respond frame) sends
  have called_eq : called = send
      { server.record fd [.delivered frame] with app := (handler server.app frame).1 } fd
      (respond frame) sends := by
    simp only [called, callFrameHandler, answers.reply frame holds]
  rw [called_eq]
  refine ⟨rest, ?_, ?_, wrote.gone, wrote.stays⟩
  · rw [wrote.app]
    exact answers.keeps frame holds
  · simpa using effect.trans wrote.effect

/-- What `ProcessInput` leaves when no write of an answer fails: the frames of the buffer were
delivered and answered, and the connection is closed or keeps the residue. -/
structure Processed {App : Type} (invariant : App → Prop) (respond : Bytes → Bytes) (fd : Fd)
    (connection : ConnectionState) (entries : Journal) (before after : Server App) : Prop where
  app : invariant after.app
  effect : Effect fd connection.incarnation entries before after
  received : entries.received = []
  quiet : .blocked ∉ entries
  delivered : entries.delivered = (frameCutter.split connection.inputBuffer).items
  balanced : ∃ pending, (after.journal connection.incarnation).Balanced respond pending
  gone : (frameCutter.split connection.inputBuffer).rejected = true → Gone after fd
  stays : (frameCutter.split connection.inputBuffer).rejected = false →
    ∃ changed events, Open after fd changed events ∧ Tidy changed events ∧
      changed.inputBuffer = (frameCutter.split connection.inputBuffer).residue ∧
      changed.incarnation = connection.incarnation ∧
      (after.journal connection.incarnation).Balanced respond changed.pending

/-- Nothing to cut: the connection stays as it is. -/
theorem processed_of_more {App : Type} {invariant : App → Prop} {respond : Bytes → Bytes} {fd : Fd}
    {server : Server App} {connection : ConnectionState} {events : Events}
    (opened : Open server fd connection events) (tidy : Tidy connection events)
    (holds : invariant server.app)
    (balanced : (server.journal connection.incarnation).Balanced respond connection.pending)
    (decision : cutFrame connection.inputBuffer = .more) :
    Processed invariant respond fd connection [] server server := by
  have split_eq := frameCutter.split_of_more decision
  exact
    { app := holds
      effect := Effect.refl _ _ _
      received := rfl
      quiet := List.not_mem_nil
      delivered := by rw [split_eq]; rfl
      balanced := ⟨_, balanced⟩
      gone := by simp [split_eq]
      stays := fun _ => ⟨connection, events, opened, tidy, by rw [split_eq], rfl, balanced⟩ }

/-- A refused length: the connection is closed. -/
theorem processed_of_reject {App : Type} {invariant : App → Prop} {respond : Bytes → Bytes}
    {fd : Fd} {server : Server App} {connection : ConnectionState} {events : Events}
    (opened : Open server fd connection events) (holds : invariant server.app)
    (balanced : (server.journal connection.incarnation).Balanced respond connection.pending)
    (decision : cutFrame connection.inputBuffer = .reject) :
    Processed invariant respond fd connection [] server (close server fd) := by
  have split_eq := frameCutter.split_of_reject decision
  have effect := opened.effect_close connection.incarnation
  exact
    { app := opened.app_close ▸ holds
      effect := effect
      received := rfl
      quiet := List.not_mem_nil
      delivered := by rw [split_eq]; rfl
      balanced := ⟨connection.pending, by simpa [effect.extends_journal] using balanced⟩
      gone := fun _ => opened.gone_close
      stays := by simp [split_eq] }

/-- The frame at the front was delivered and answered, then the rest was processed. -/
theorem Processed.cons {App : Type} {invariant : App → Prop} {respond : Bytes → Bytes} {fd : Fd}
    {connection changed : ConnectionState} {frame rest : Bytes} {chunks : List Bytes}
    {entries : Journal} {before middle after : Server App}
    (decision : frameCutter.cut connection.inputBuffer = .item frame rest)
    (buffer : changed.inputBuffer = rest)
    (same : changed.incarnation = connection.incarnation)
    (first : Effect fd connection.incarnation
      ([.delivered frame, .submitted (respond frame)] ++ chunks.map .accepted) before middle)
    (processed : Processed invariant respond fd changed entries middle after) :
    Processed invariant respond fd connection
      ([.delivered frame, .submitted (respond frame)] ++ chunks.map .accepted ++ entries)
      before after := by
  have split_eq := frameCutter.split_of_item decision
  subst buffer
  obtain ⟨app, effect, received, quiet, delivered, balanced, gone, stays⟩ := processed
  rw [same] at effect balanced stays
  exact
    { app := app
      effect := first.trans effect
      received := by simp [received]
      quiet := by simp [quiet]
      delivered := by simp [delivered, split_eq]
      balanced := balanced
      gone := by simpa [split_eq] using gone
      stays := by simpa [split_eq] using stays }

theorem processLoop_of_gone {App : Type} (handler : FrameHandler App) (incarnation fuel : Nat)
    {server : Server App} {fd : Fd} (gone : Gone server fd) (sends : List SendResult) :
    processLoop handler fd incarnation fuel server sends = .error (.inputBuffer fd) := by
  rw [processLoop]
  simp only [gone.entry]

/-- The loop of `ProcessInput`: it dangles exactly when a write of an answer fails. -/
theorem processLoop_spec {App : Type} {handler : FrameHandler App} {invariant : App → Prop}
    {respond : Bytes → Bytes} (answers : Answers handler invariant respond) (fd : Fd) (fuel : Nat)
    {server : Server App} {connection : ConnectionState} {events : Events}
    (opened : Open server fd connection events) (tidy : Tidy connection events)
    (holds : invariant server.app) (enough : connection.inputBuffer.length ≤ fuel)
    (balanced : (server.journal connection.incarnation).Balanced respond connection.pending)
    (sends : List SendResult) :
    let replies := (frameCutter.split connection.inputBuffer).items.map respond
    let result := processLoop handler fd connection.incarnation fuel server sends
    (repliesFail connection.pending replies sends = true → result = .error (.inputBuffer fd)) ∧
      (repliesFail connection.pending replies sends = false → ∃ after rest entries,
        result = .ok (after, rest) ∧
          Processed invariant respond fd connection entries server after) := by
  intro replies result
  generalize buffer : connection.inputBuffer = stream
  induction stream using frameCutter.split_induction
    generalizing fuel server connection events sends with
  | more stream decision =>
      subst buffer
      have no_replies : replies = [] := by
        simp only [replies, frameCutter.split_of_more decision, List.map_nil]
      have result_eq := processLoop_eq handler opened.entry fuel sends
      rw [frameCutter_cut] at decision
      simp only [decision] at result_eq
      refine ⟨by simp [no_replies, repliesFail], fun _ => ⟨server, sends, [], result_eq, ?_⟩⟩
      exact processed_of_more opened tidy holds balanced decision
  | reject stream decision =>
      subst buffer
      have no_replies : replies = [] := by
        simp only [replies, frameCutter.split_of_reject decision, List.map_nil]
      have result_eq := processLoop_eq handler opened.entry fuel sends
      rw [frameCutter_cut] at decision
      simp only [decision] at result_eq
      refine ⟨by simp [no_replies, repliesFail],
        fun _ => ⟨close server fd, sends, [], result_eq, ?_⟩⟩
      exact processed_of_reject opened holds balanced decision
  | item stream frame rest decision ih =>
      subst buffer
      have shorter := frameCutter.rest_shorter decision
      obtain ⟨smaller, rfl⟩ : ∃ smaller, fuel = smaller + 1 := ⟨fuel - 1, by omega⟩
      have replies_eq : replies = respond frame ::
          (frameCutter.split rest).items.map respond := by
        simp only [replies, frameCutter.split_of_item decision, List.map_cons]
      have erased := opened.setConnection { connection with inputBuffer := rest } rfl
      have erase_effect := effect_setConnection server fd connection.incarnation
        { connection with inputBuffer := rest }
      obtain ⟨sends_eq, called_holds, called_effect, failed, stays⟩ :=
        callFrameHandler_spec answers erased holds tidy.within frame sends
      have pending_same : ({ connection with inputBuffer := rest } : ConnectionState).pending =
        connection.pending := rfl
      simp only [pending_same] at sends_eq called_effect failed stays
      have effect := erase_effect.trans called_effect
      have result_eq := processLoop_eq handler opened.entry (smaller + 1) sends
      rw [show cutFrame connection.inputBuffer = .item frame rest from decision] at result_eq
      simp only [sends_eq] at result_eq
      by_cases fails : (flush (connection.pending ++ respond frame) sends).ending = .failed
      · refine ⟨fun _ => ?_, by simp [replies_eq, repliesFail, fails]⟩
        exact result_eq.trans (processLoop_of_gone _ _ _ (failed fails) _)
      · obtain ⟨changed, interest, changed_open, changed_tidy, pending_eq, buffer_eq, same⟩ :=
          stays fails
        have middle_balanced := balanced_flush (balanced.answer frame) sends
        rw [List.append_assoc] at middle_balanced
        have journal_eq := effect.extends_journal
        simp only [List.nil_append] at journal_eq
        rw [← journal_eq, ← pending_eq] at middle_balanced
        obtain ⟨rest_fails, rest_fine⟩ := ih smaller changed_open changed_tidy called_holds
          (by rw [buffer_eq]; omega) (by rw [same]; exact middle_balanced)
          (flush (connection.pending ++ respond frame) sends).sends buffer_eq
        rw [buffer_eq, pending_eq, same, ← result_eq] at rest_fails rest_fine
        simp only [replies_eq, repliesFail, fails, decide_false, Bool.false_or]
        refine ⟨rest_fails, fun fine => ?_⟩
        obtain ⟨after, left, entries, ok, processed⟩ := rest_fine fine
        exact ⟨after, left, _, ok, Processed.cons decision buffer_eq same effect processed⟩

/-- `ProcessInput` on an open connection. -/
theorem processInput_spec {App : Type} {handler : FrameHandler App} {invariant : App → Prop}
    {respond : Bytes → Bytes} (answers : Answers handler invariant respond) (fd : Fd)
    {server : Server App} {connection : ConnectionState} {events : Events}
    (opened : Open server fd connection events) (tidy : Tidy connection events)
    (holds : invariant server.app)
    (balanced : (server.journal connection.incarnation).Balanced respond connection.pending)
    (sends : List SendResult) :
    let replies := (frameCutter.split connection.inputBuffer).items.map respond
    let result := processInput handler server fd sends
    (repliesFail connection.pending replies sends = true → result = .error (.inputBuffer fd)) ∧
      (repliesFail connection.pending replies sends = false → ∃ after rest entries,
        result = .ok (after, rest) ∧
          Processed invariant respond fd connection entries server after) := by
  have result_eq : processInput handler server fd sends =
      processLoop handler fd connection.incarnation connection.inputBuffer.length server sends := by
    simp only [processInput, opened.entry]
  simp only [result_eq]
  exact processLoop_spec answers fd connection.inputBuffer.length opened tidy holds le_rfl balanced
    sends

/-! ## Reading -/

/-- These results contain the end of the stream or a fatal error before the first `EAGAIN`. -/
def EndsStream (recvs : List RecvResult) : Prop :=
  ∃ result ∈ recvs.takeWhile (· ≠ .eagain), result.ends = true

instance (recvs : List RecvResult) : Decidable (EndsStream recvs) :=
  inferInstanceAs (Decidable (∃ result ∈ _, _))

/-- The bytes before the first `EAGAIN`. -/
def arrived (recvs : List RecvResult) : Bytes :=
  (recvs.takeWhile (· ≠ .eagain)).flatMap RecvResult.chunk

theorem recvLoop_eq_closed_iff (recvs : List RecvResult) :
    (recvLoop recvs).2 = .closed ↔ EndsStream recvs := by
  simp only [EndsStream]
  fun_induction recvLoop recvs with
  | case1 => simp
  | case2 rest => simp [RecvResult.ends]
  | case3 first chunk rest ih => simpa [RecvResult.ends] using ih
  | case4 rest ih => simpa [RecvResult.ends] using ih
  | case5 rest => simp
  | case6 errno rest => simp [RecvResult.ends]

theorem recvLoop_eq_wouldBlock_iff (recvs : List RecvResult) :
    (recvLoop recvs).2 = .wouldBlock ↔ ¬ EndsStream recvs := by
  rw [← recvLoop_eq_closed_iff]
  cases (recvLoop recvs).2 <;> simp

theorem flatten_recvLoop {recvs : List RecvResult} (goes_on : ¬ EndsStream recvs) :
    (recvLoop recvs).1.flatten = arrived recvs := by
  simp only [EndsStream] at goes_on
  simp only [arrived]
  fun_induction recvLoop recvs with
  | case1 => rfl
  | case2 rest => exact absurd ⟨.bytes [], by simp, rfl⟩ goes_on
  | case3 first chunk rest ih =>
      have rest_goes_on := ih (by simpa [RecvResult.ends] using goes_on)
      simp [rest_goes_on, RecvResult.chunk]
  | case4 rest ih =>
      have rest_goes_on := ih (by simpa [RecvResult.ends] using goes_on)
      simp [rest_goes_on, RecvResult.chunk]
  | case5 rest => simp
  | case6 errno rest => exact absurd ⟨.error errno, by simp, rfl⟩ goes_on

/-- Chunks are appended to the input buffer. -/
theorem Open.receive {App : Type} {server : Server App} {fd : Fd} {connection : ConnectionState}
    {events : Events} (opened : Open server fd connection events) (chunks : List Bytes) :
    let read := (server.setConnection fd (connection.receive chunks.flatten)).record fd
      (chunks.map .received)
    Open read fd (connection.receive chunks.flatten) events ∧ read.app = server.app ∧
      Effect fd connection.incarnation (chunks.map .received) server read := by
  have written := opened.setConnection (connection.receive chunks.flatten) rfl
  have effect := effect_setConnection server fd connection.incarnation
    (connection.receive chunks.flatten)
  exact ⟨written.record _, written.app_record _, effect.trans (written.effect_record _)⟩

/-- The end of the stream or a fatal `recv`: the connection is closed and nothing is cut. -/
theorem handleReadable_closed {App : Type} (handler : FrameHandler App) {server : Server App}
    {fd : Fd} {connection : ConnectionState} {events : Events}
    (opened : Open server fd connection events) {recvs : List RecvResult}
    (ends : EndsStream recvs) (sends : List SendResult) :
    ∃ after, handleReadable handler server fd recvs sends = .ok (after, sends) ∧
      after.app = server.app ∧ Gone after fd ∧
      Effect fd connection.incarnation ((recvLoop recvs).1.map .received) server after := by
  obtain ⟨read, app_eq, effect⟩ := opened.receive (recvLoop recvs).1
  refine ⟨_, ?_, read.app_close.trans app_eq, read.gone_close, ?_⟩
  · simp only [handleReadable, opened.entry, (recvLoop_eq_closed_iff recvs).mpr ends]
  · simpa using effect.trans (read.effect_close _)

/-- Everything up to `EAGAIN` is read into the input buffer before frames are cut. -/
theorem handleReadable_wouldBlock {App : Type} (handler : FrameHandler App) {server : Server App}
    {fd : Fd} {connection : ConnectionState} {events : Events}
    (opened : Open server fd connection events) {recvs : List RecvResult}
    (goes_on : ¬ EndsStream recvs) (sends : List SendResult) :
    ∃ middle, handleReadable handler server fd recvs sends =
        processInput handler middle fd sends ∧
      Open middle fd (connection.receive (arrived recvs)) events ∧
      middle.app = server.app ∧
      Effect fd connection.incarnation ((recvLoop recvs).1.map .received ++ [.blocked]) server
        middle := by
  obtain ⟨read, app_eq, effect⟩ := opened.receive (recvLoop recvs).1
  refine ⟨_, ?_, flatten_recvLoop goes_on ▸ read.record [.blocked],
    (read.app_record [.blocked]).trans app_eq, effect.trans (read.effect_record [.blocked])⟩
  simp only [handleReadable, opened.entry, (recvLoop_eq_wouldBlock_iff recvs).mpr goes_on]

theorem Tidy.receive {connection : ConnectionState} {events : Events}
    (tidy : Tidy connection events) (bytes : Bytes) : Tidy (connection.receive bytes) events :=
  ⟨tidy.within, tidy.interest⟩

/-- `HandleReadable` on an open connection whose `recv` calls end in `EAGAIN`. -/
theorem handleReadable_spec {App : Type} {handler : FrameHandler App} {invariant : App → Prop}
    {respond : Bytes → Bytes} (answers : Answers handler invariant respond) (fd : Fd)
    {server : Server App} {connection : ConnectionState} {events : Events}
    (opened : Open server fd connection events) (tidy : Tidy connection events)
    (holds : invariant server.app)
    (balanced : (server.journal connection.incarnation).Balanced respond connection.pending)
    {recvs : List RecvResult} (goes_on : ¬ EndsStream recvs) (sends : List SendResult) :
    let read := connection.receive (arrived recvs)
    let replies := (frameCutter.split read.inputBuffer).items.map respond
    let result := handleReadable handler server fd recvs sends
    (repliesFail connection.pending replies sends = true → result = .error (.inputBuffer fd)) ∧
      (repliesFail connection.pending replies sends = false → ∃ middle after rest entries,
        result = .ok (after, rest) ∧
          Effect fd connection.incarnation ((recvLoop recvs).1.map .received ++ [.blocked]) server
            middle ∧
          Processed invariant respond fd read entries middle after) := by
  intro read replies result
  obtain ⟨middle, result_eq, middle_open, app_eq, effect⟩ :=
    handleReadable_wouldBlock handler opened goes_on sends
  have middle_balanced : (middle.journal connection.incarnation).Balanced respond
      connection.pending := by
    rw [effect.extends_journal, ← List.append_assoc]
    exact (balanced.receive _).block
  obtain ⟨fails, fine⟩ := processInput_spec answers fd middle_open (tidy.receive _)
    (app_eq ▸ holds) middle_balanced sends
  rw [← result_eq] at fails fine
  refine ⟨fails, fun no_failure => ?_⟩
  obtain ⟨after, rest, entries, ok, processed⟩ := fine no_failure
  exact ⟨middle, after, rest, entries, ok, effect, processed⟩

end ConnectionManager

end Hxrpc
