import Hxrpc.Server.Input

/-!
# Deframing with an arbitrary frame handler

What `HandleReadable` delivers over any number of readable events, for every frame handler that does
not close the connection: the frames of the grammar, whatever the cutting of the stream into `recv`
results and events.  At the end of the stream the frames that arrived in the same event are lost.
-/

namespace Hxrpc

open StreamCut

namespace ConnectionManager

/-- What `ProcessInput` leaves when the frame handler closes nothing: the frames of the buffer were
delivered, and the connection is closed or keeps the residue. -/
structure Deframed {App : Type} (fd : Fd) (connection : ConnectionState) (entries : Journal)
    (before after : Server App) : Prop where
  effect : Effect fd connection.incarnation entries before after
  delivered : entries.delivered = (frameCutter.split connection.inputBuffer).items
  gone : (frameCutter.split connection.inputBuffer).rejected = true → Gone after fd
  stays : (frameCutter.split connection.inputBuffer).rejected = false →
    ∃ changed events, Open after fd changed events ∧
      changed.bytesSent ≤ changed.outputBuffer.length ∧
      changed.inputBuffer = (frameCutter.split connection.inputBuffer).residue ∧
      changed.incarnation = connection.incarnation

section Handler

variable {App : Type} {server : Server App} {fd : Fd} {connection : ConnectionState}
  {events : Events} {sends : List SendResult}

/-- One call of a frame handler without a failing `send` leaves the connection open. -/
theorem callFrameHandler_of_noFailure (handler : FrameHandler App)
    (opened : Open server fd connection events)
    (within : connection.bytesSent ≤ connection.outputBuffer.length) (frame : Bytes)
    (fine : NoFailure sends) :
    ∃ entries changed interest,
      Effect fd connection.incarnation entries server
        (callFrameHandler handler server fd frame sends).1 ∧
      entries.delivered = [frame] ∧
      Open (callFrameHandler handler server fd frame sends).1 fd changed interest ∧
      changed.bytesSent ≤ changed.outputBuffer.length ∧
      changed.inputBuffer = connection.inputBuffer ∧
      changed.incarnation = connection.incarnation ∧
      NoFailure (callFrameHandler handler server fd frame sends).2 := by
  have recorded := (opened.record [.delivered frame]).withApp (handler server.app frame).1
  have effect := (opened.effect_record [.delivered frame]).trans
    (effect_withApp connection.incarnation (handler server.app frame).1)
  cases reply : (handler server.app frame).2 with
  | none =>
      simp only [callFrameHandler, reply]
      exact ⟨_, connection, events, effect, rfl, recorded, within, rfl, rfl, fine⟩
  | some response =>
      simp only [callFrameHandler, reply]
      obtain ⟨rest, wrote⟩ := send_spec recorded within response sends
      obtain ⟨no_fail, fine_rest⟩ := flush_of_noFailure (connection.pending ++ response) fine
      obtain ⟨changed, interest, stays, tidy, -, buffer_eq, same⟩ := wrote.stays no_fail
      refine ⟨_, changed, interest, effect.trans wrote.effect, ?_, stays, tidy.within, buffer_eq,
        same, rest ▸ fine_rest⟩
      simp

/-- The loop of `ProcessInput` delivers the frames of the buffer. -/
theorem processLoop_of_noFailure (handler : FrameHandler App) (fuel : Nat)
    (opened : Open server fd connection events)
    (within : connection.bytesSent ≤ connection.outputBuffer.length)
    (enough : connection.inputBuffer.length ≤ fuel) (fine : NoFailure sends) :
    ∃ after rest entries,
      processLoop handler fd connection.incarnation fuel server sends = .ok (after, rest) ∧
        Deframed fd connection entries server after := by
  generalize buffer : connection.inputBuffer = stream
  induction stream using frameCutter.split_induction
    generalizing fuel server connection events sends with
  | more stream decision =>
      subst buffer
      have split_eq := frameCutter.split_of_more decision
      have result_eq := processLoop_eq handler opened.entry fuel sends
      rw [frameCutter_cut] at decision
      simp only [decision] at result_eq
      refine ⟨server, sends, [], result_eq, Effect.refl _ _ _, ?_, ?_, fun _ => ?_⟩
      · rw [split_eq, Journal.delivered_nil]
      · simp [split_eq]
      · exact ⟨connection, events, opened, within, by rw [split_eq], rfl⟩
  | reject stream decision =>
      subst buffer
      have split_eq := frameCutter.split_of_reject decision
      have result_eq := processLoop_eq handler opened.entry fuel sends
      rw [frameCutter_cut] at decision
      simp only [decision] at result_eq
      refine ⟨_, sends, [], result_eq, opened.effect_close _, ?_, fun _ => opened.gone_close, ?_⟩
      · rw [split_eq, Journal.delivered_nil]
      · simp [split_eq]
  | item stream frame rest decision ih =>
      subst buffer
      have split_eq := frameCutter.split_of_item decision
      have shorter := frameCutter.rest_shorter decision
      obtain ⟨smaller, rfl⟩ : ∃ smaller, fuel = smaller + 1 := ⟨fuel - 1, by omega⟩
      have erased := opened.setConnection { connection with inputBuffer := rest } rfl
      obtain ⟨first, changed, interest, first_effect, first_delivered, stays, changed_within,
        buffer_eq, same, fine_rest⟩ :=
          callFrameHandler_of_noFailure handler erased within frame fine
      have result_eq := processLoop_eq handler opened.entry (smaller + 1) sends
      rw [show cutFrame connection.inputBuffer = .item frame rest from decision] at result_eq
      have buffer_rest : changed.inputBuffer = rest := buffer_eq
      obtain ⟨after, left, entries, ok, effect, delivered, gone, open_after⟩ :=
        ih smaller stays changed_within (by rw [buffer_rest]; omega) fine_rest buffer_rest
      rw [same] at ok effect open_after
      rw [buffer_rest] at delivered gone open_after
      have whole := ((effect_setConnection server fd connection.incarnation _).trans
        first_effect).trans effect
      refine ⟨after, left, _, result_eq.trans ok, whole, ?_, ?_, ?_⟩
      · simp [first_delivered, delivered, split_eq]
      · simpa [split_eq] using gone
      · simpa [split_eq] using open_after

end Handler

/-! ## Readable events -/

/-- One readable event: the results of `recv`, and of the `send` calls made for its frames. -/
structure ReadableEvent where
  /-- Results of `recv`. -/
  recvs : List RecvResult
  /-- Results of `send`. -/
  sends : List SendResult

/-- `HandleReadable` for one event after another. -/
def readAll {App : Type} (handler : FrameHandler App) (fd : Fd) :
    List ReadableEvent → Server App → Except Dangling (Server App)
  | [], server => .ok server
  | event :: rest, server =>
      match handleReadable handler server fd event.recvs event.sends with
      | .error dangling => .error dangling
      | .ok (server, _) => readAll handler fd rest server

theorem readAll_append {App : Type} (handler : FrameHandler App) (fd : Fd)
    (first second : List ReadableEvent) (server : Server App) :
    readAll handler fd (first ++ second) server =
      match readAll handler fd first server with
      | .error dangling => .error dangling
      | .ok server => readAll handler fd second server := by
  induction first generalizing server with
  | nil => rfl
  | cons event first ih =>
      simp only [List.cons_append, readAll]
      split
      · rfl
      · exact ih _

/-- The events deliver these bytes, meet no end of the stream and no failing `send`. -/
structure Carries (events : List ReadableEvent) (stream : Bytes) : Prop where
  bytes : events.flatMap (fun event => arrived event.recvs) = stream
  goes_on : ∀ event ∈ events, ¬ EndsStream event.recvs
  fine : ∀ event ∈ events, NoFailure event.sends

/-- The bytes `stream` arrived on an accepted socket: its frames were delivered, and the connection
is closed where the grammar refuses the stream and keeps the residue otherwise. -/
structure Arrived {App : Type} (fd : Fd) (incarnation : Nat) (stream : Bytes)
    (before after : Server App) : Prop where
  delivered : ∃ entries, Effect fd incarnation entries before after ∧
    entries.delivered = (frameCutter.split stream).items
  gone : (frameCutter.split stream).rejected = true → Gone after fd
  stays : (frameCutter.split stream).rejected = false →
    ∃ changed events, Open after fd changed events ∧
      changed.bytesSent ≤ changed.outputBuffer.length ∧
      changed.inputBuffer = (frameCutter.split stream).residue ∧
      changed.incarnation = incarnation

section Events

variable {App : Type} {before server : Server App} {fd : Fd} {incarnation : Nat} {stream : Bytes}

theorem handleReadable_of_gone (handler : FrameHandler App) (gone : Gone server fd)
    (recvs : List RecvResult) (sends : List SendResult) :
    handleReadable handler server fd recvs sends = .ok (server, sends) := by
  simp only [handleReadable, gone.entry]

theorem arrived_nil {connection : ConnectionState} {events : Events}
    (opened : Open server fd connection events) (empty : connection.inputBuffer = [])
    (within : connection.bytesSent ≤ connection.outputBuffer.length) :
    Arrived fd connection.incarnation [] server server where
  delivered := ⟨[], Effect.refl _ _ _, by simp [frameCutter_split_nil]⟩
  gone := by simp [frameCutter_split_nil]
  stays _ := ⟨connection, events, opened, within, by simp [frameCutter_split_nil, empty], rfl⟩

/-- One more readable event. -/
theorem Arrived.readable (handler : FrameHandler App)
    (history : Arrived fd incarnation stream before server) {recvs : List RecvResult}
    {sends : List SendResult} (goes_on : ¬ EndsStream recvs) (fine : NoFailure sends) :
    ∃ after rest, handleReadable handler server fd recvs sends = .ok (after, rest) ∧
      Arrived fd incarnation (stream ++ arrived recvs) before after := by
  obtain ⟨entries, effect, delivered⟩ := history.delivered
  cases rejected : (frameCutter.split stream).rejected with
  | true =>
      have gone := history.gone rejected
      have split_eq := frameCutter.split_append_of_rejected stream (arrived recvs) rejected
      refine ⟨server, sends, handleReadable_of_gone handler gone recvs sends,
        ⟨entries, effect, by rw [delivered, split_eq]⟩, fun _ => gone, fun stays => ?_⟩
      simp [split_eq, rejected] at stays
  | false =>
      obtain ⟨connection, interest, opened, within, buffer_eq, rfl⟩ := history.stays rejected
      have split_eq := frameCutter.split_append_of_open stream (arrived recvs) rejected
      obtain ⟨middle, result_eq, middle_open, -, read_effect⟩ :=
        handleReadable_wouldBlock handler opened goes_on sends
      obtain ⟨after, rest, cut_entries, ok, deframed⟩ :=
        processLoop_of_noFailure handler _ middle_open within le_rfl fine
      have cut_eq : frameCutter.split (connection.receive (arrived recvs)).inputBuffer =
          frameCutter.split ((frameCutter.split stream).residue ++ arrived recvs) := by
        rw [ConnectionState.inputBuffer_receive, buffer_eq]
      obtain ⟨cut_effect, cut_delivered, cut_gone, cut_stays⟩ := deframed
      rw [cut_eq] at cut_delivered cut_gone cut_stays
      refine ⟨after, rest, ?_, ⟨_, (effect.trans read_effect).trans cut_effect, ?_⟩, ?_, ?_⟩
      · rw [result_eq, ← ok]
        simp only [processInput, middle_open.entry]
      · simp [delivered, cut_delivered, split_eq]
      · simpa [split_eq] using cut_gone
      · simpa [split_eq] using cut_stays

/-- Any number of readable events: the frames of the stream were delivered. -/
theorem Arrived.readAll (handler : FrameHandler App)
    (history : Arrived fd incarnation stream before server) {events : List ReadableEvent}
    {bytes : Bytes} (carries : Carries events bytes) :
    ∃ after, readAll handler fd events server = .ok after ∧
      Arrived fd incarnation (stream ++ bytes) before after := by
  obtain ⟨bytes_eq, goes_on, fine⟩ := carries
  subst bytes_eq
  induction events generalizing stream server with
  | nil => exact ⟨server, rfl, by simpa using history⟩
  | cons event events ih =>
      obtain ⟨next, rest, ok, next_history⟩ := history.readable handler
        (goes_on event List.mem_cons_self) (fine event List.mem_cons_self)
      obtain ⟨after, rest_ok, after_history⟩ := ih next_history
        (fun other member => goes_on other (List.mem_cons_of_mem event member))
        (fun other member => fine other (List.mem_cons_of_mem event member))
      refine ⟨after, ?_, by simpa using after_history⟩
      simp only [ConnectionManager.readAll, ok, rest_ok]

/-- The event that meets the end of the stream delivers nothing. -/
theorem Arrived.ended (handler : FrameHandler App)
    (history : Arrived fd incarnation stream before server) {recvs : List RecvResult}
    (ends : EndsStream recvs) (sends : List SendResult) :
    ∃ after entries, handleReadable handler server fd recvs sends = .ok (after, sends) ∧
      Gone after fd ∧ Effect fd incarnation entries before after ∧
      entries.delivered = (frameCutter.split stream).items := by
  obtain ⟨entries, effect, delivered⟩ := history.delivered
  cases rejected : (frameCutter.split stream).rejected with
  | true =>
      have gone := history.gone rejected
      exact ⟨server, entries, handleReadable_of_gone handler gone recvs sends, gone, effect,
        delivered⟩
  | false =>
      obtain ⟨connection, interest, opened, within, buffer_eq, rfl⟩ := history.stays rejected
      obtain ⟨after, ok, -, gone, read_effect⟩ := handleReadable_closed handler opened ends sends
      exact ⟨after, _, ok, gone, effect.trans read_effect, by simp [delivered]⟩

end Events

/-! ## Up to the end of the stream -/

/-- A connection on which nothing happened since it was accepted. -/
structure JustAccepted {App : Type} (server : Server App) (fd : Fd) (incarnation : Nat) : Prop where
  opened : Open server fd { incarnation := incarnation } readInterest
  journal : server.journal incarnation = []

/-- The server with listening descriptor 3 and one accepted connection, descriptor 5. -/
def oneConnection {App : Type} (app : App) : Server App :=
  acceptLoop (listen { app := app } ⟨3, true, true, true, true⟩).2 [.connection 5 true]

theorem justAccepted_oneConnection {App : Type} (app : App) :
    JustAccepted (oneConnection app) 5 0 :=
  ⟨⟨rfl, rfl, rfl, rfl, show (5 : Int) ≠ 3 by decide⟩, rfl⟩

/-- These results are `bytes` followed by the end of the stream. -/
structure EndsWith (recvs : List RecvResult) (bytes : Bytes) : Prop where
  shape : ∃ front rest, recvs = front ++ .bytes [] :: rest ∧
    (∀ result ∈ front, result ≠ .eagain ∧ result.ends = false) ∧
    front.flatMap RecvResult.chunk = bytes

theorem EndsWith.endsStream {recvs : List RecvResult} {bytes : Bytes}
    (ends : EndsWith recvs bytes) : EndsStream recvs := by
  obtain ⟨front, rest, rfl, quiet, -⟩ := ends.shape
  refine ⟨.bytes [], ?_, rfl⟩
  rw [List.takeWhile_append_of_pos fun result member => by simpa using (quiet result member).1]
  simp

/-- The frames handed over up to the end of the stream are all frames of the stream exactly when
they are complete before the event that meets the end. -/
theorem delivered_at_end_of_stream_iff {App : Type} (handler : FrameHandler App)
    {server : Server App} {fd : Fd} {incarnation : Nat}
    (accepted : JustAccepted server fd incarnation) {earlier : List ReadableEvent}
    {last : ReadableEvent} {before rest : Bytes} (carries : Carries earlier before)
    (ends : EndsWith last.recvs rest) :
    ∃ after, readAll handler fd (earlier ++ [last]) server = .ok after ∧
      ((after.journal incarnation).delivered = (frameCutter.split (before ++ rest)).items ↔
        (frameCutter.split (before ++ rest)).items.flatten.length ≤ before.length) := by
  obtain ⟨middle, read, history⟩ :=
    (arrived_nil accepted.opened rfl le_rfl).readAll handler carries
  obtain ⟨after, entries, ok, -, effect, delivered⟩ :=
    history.ended handler ends.endsStream last.sends
  refine ⟨after, ?_, ?_⟩
  · rw [readAll_append, read]
    simp only [readAll, ok]
  · rw [effect.extends_journal, accepted.journal, List.nil_append, delivered, List.nil_append,
      ← frameCutter.items_append_eq_iff]
    exact eq_comm

/-- A handler that answers nothing. -/
def silentHandler : FrameHandler Unit := fun app _ => (app, none)

/-- The smallest frame. -/
def smallestFrame : Bytes := [0, 0, 0, 4, 0, 0, 0, 0]

theorem delivered_of_two_events :
    ∃ after, readAll silentHandler 5 ([⟨[.bytes smallestFrame, .eagain], []⟩] ++
        [⟨[.bytes []], []⟩]) (oneConnection ()) = .ok after ∧
      ((after.journal 0).delivered = (frameCutter.split (smallestFrame ++ [])).items ↔
        (frameCutter.split (smallestFrame ++ [])).items.flatten.length ≤ smallestFrame.length) := by
  have carries : Carries [⟨[.bytes smallestFrame, .eagain], []⟩] smallestFrame :=
    ⟨by decide, by decide, by simp [NoFailure]⟩
  have ends : EndsWith [.bytes []] [] := ⟨[], [], rfl, by simp, rfl⟩
  exact delivered_at_end_of_stream_iff silentHandler (justAccepted_oneConnection ()) carries ends

/-- The same stream, one frame and its end: in one readable event the frame is lost, in two it is
delivered. -/
theorem frame_lost_at_end_of_stream :
    ∃ together apart,
      readAll silentHandler 5 [⟨[.bytes smallestFrame, .bytes []], []⟩] (oneConnection ()) =
          .ok together ∧
        readAll silentHandler 5 [⟨[.bytes smallestFrame, .eagain], []⟩, ⟨[.bytes []], []⟩]
          (oneConnection ()) = .ok apart ∧
        (together.journal 0).delivered = [] ∧ (apart.journal 0).delivered = [smallestFrame] :=
  ⟨_, _, rfl, rfl, rfl, rfl⟩

end ConnectionManager

end Hxrpc
