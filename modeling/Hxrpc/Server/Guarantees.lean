import Hxrpc.Server.Deframing
import Hxrpc.Server.RpcServer
import Hxrpc.Server.Runs

/-!
# What the server guarantees on every run

The results about whole runs of the RPC server: the tables agree and connections do not mix, the
answers leave in the order of the frames, and exactly when `ProcessInput` and `Reactor::Loop` read
an entry that a callback erased.
-/

namespace Hxrpc

open StreamCut ConnectionManager Reactor

namespace RpcServer

/-- `epoll_wait` reports that one descriptor is readable, and its callback returns. -/
theorem reachable_readable {App : Type} {handler : FrameHandler App} {app : App}
    {server after : Server App} {entry : Handler}
    (reachable : Reachable handler app { server := server }) (fd : Fd) (script : Script)
    (found : server.handlers fd = some entry) (registered : server.epoll fd ≠ none)
    (opened : server.descriptors fd = some entry.owner)
    (called : invokeIfSet handler server fd script entry.onReadable = .ok after) :
    Reachable handler app { server := after } := by
  obtain ⟨outcome, start, listened, steps⟩ := reachable
  let readable : Event := ⟨fd, { epollin := true }, entry.owner⟩
  have reported : Reported server [readable] := by
    constructor
    · exact List.nodup_singleton fd
    · intro event member
      exact List.mem_singleton.mp member ▸ registered
    · intro event member
      exact List.mem_singleton.mp member ▸ opened
  have read : Step handler (fun _ _ => True) { server := server, batch := [readable] }
      { server := after, current := some (readable, entry) } := by
    refine .turn script trivial ?_
    simp only [turn, dispatch, readable, found, called]
    rfl
  exact ⟨outcome, start, listened,
    .tail (.tail (.tail steps (.wait _ reported)) read) (.turn {} trivial rfl)⟩

theorem reachable_oneConnection {App : Type} (handler : FrameHandler App) (app : App) :
    Reachable handler app { server := oneConnection app } := by
  have listening : Reachable handler app
      { server := (listen { app := app } ⟨3, true, true, true, true⟩).2 } :=
    ⟨⟨3, true, true, true, true⟩, _, rfl, .refl⟩
  exact reachable_readable listening 3 { accepts := [.connection 5 true] } rfl
    (by simp [ConnectionManager.listen, Reactor.add]) rfl rfl

/-- The server behind `HandleReadable`, if it returns. -/
def afterReadable {App : Type} (handler : FrameHandler App) (server : Server App) (fd : Fd)
    (recvs : List RecvResult) (sends : List SendResult) : Server App :=
  match handleReadable handler server fd recvs sends with
  | .ok (after, _) => after
  | .error _ => server

/-- A connection is readable, and `HandleReadable` returns. -/
theorem reachable_afterReadable {App : Type} {handler : FrameHandler App} {app : App}
    {server : Server App} (reachable : Reachable handler app { server := server }) (fd : Fd)
    (incarnation : Nat) (events : Events) {recvs : List RecvResult} {sends : List SendResult}
    (found : server.handlers fd = some (connectionHandler incarnation events))
    (registered : server.epoll fd ≠ none)
    (opened : server.descriptors fd = some (.connection incarnation))
    (returns : (handleReadable handler server fd recvs sends).isOk = true) :
    Reachable handler app { server := afterReadable handler server fd recvs sends } := by
  refine reachable_readable reachable fd { recvs := recvs, sends := sends } found registered opened
    ?_
  cases handled : handleReadable handler server fd recvs sends with
  | ok result => simp [connectionHandler, invokeIfSet, invoke, afterReadable, handled, Except.map]
  | error dangling => simp [handled, Except.isOk, Except.toBool] at returns

/-- A dispatcher without services. -/
def emptyDispatcher : RpcDispatcher Proto3.BytesMessage where
  headers := Proto3.headers
  messages := Proto3.messages
  registry := ∅

/-- The server without services and with one connection. -/
def idleServer : Server (MessagePool Proto3.BytesMessage) :=
  oneConnection {}

theorem reachable_idleServer :
    Reachable (onFrame emptyDispatcher) {} { server := idleServer } :=
  reachable_oneConnection (onFrame emptyDispatcher) {}

theorem open_idleServer : Open idleServer 5 { incarnation := 0 } readInterest :=
  (justAccepted_oneConnection _).opened

/-- The idle server after the smallest frame arrived and the kernel took nothing of the answer. -/
def pendingServer : Server (MessagePool Proto3.BytesMessage) :=
  match handleReadable (onFrame emptyDispatcher) idleServer 5 [.bytes smallestFrame]
      [.eagain] with
  | .ok (server, _) => server
  | .error _ => idleServer

theorem reachable_pendingServer :
    Reachable (onFrame emptyDispatcher) {} { server := pendingServer } :=
  reachable_readable reachable_idleServer 5 { recvs := [.bytes smallestFrame], sends := [.eagain] }
    open_idleServer.handler (by decide) open_idleServer.descriptor rfl

section Guarantees

variable {Message : Type} {dispatcher : RpcDispatcher Message}

/-- The invariant of the event loop for the RPC server. -/
theorem invariant_of_running (headers_lawful : dispatcher.headers.Lawful)
    (lawful : dispatcher.messages.Lawful) {allowed : Loop (MessagePool Message) → Script → Prop}
    {loop : Loop (MessagePool Message)} (run : Runs (onFrame dispatcher) allowed {} loop) :
    Invariant (fun pool => pool.Typed dispatcher.messages) (reply dispatcher) loop :=
  invariant_of_runs (answers_onFrame headers_lawful lawful)
    (MessagePool.typed_empty dispatcher.messages 32) run

/-- An event that is still to be handled finds the descriptor it was reported for, or none. -/
theorem owner_of_pending_event {holds : MessagePool Message → Prop} {respond : Bytes → Bytes}
    {loop : Loop (MessagePool Message)} (invariant : Invariant holds respond loop) {event : Event}
    (pending : event ∈ loop.batch ∨ ∃ denoted, loop.current = some (event, denoted))
    {owner : Descriptor} (found : loop.server.descriptors event.fd = some owner) :
    owner = event.owner := by
  rcases pending with member | ⟨denoted, is_current⟩
  · exact Option.some.inj (found.symm.trans (invariant.reported event member))
  · obtain ⟨-, -, closed | same⟩ := invariant.current event denoted is_current
    · simp [closed] at found
    · exact Option.some.inj (found.symm.trans same)

/-- In every state between two callbacks the tables have the same keys, a new connection has empty
buffers, an event meets the connection it was reported for, the frames delivered on a socket are
those of the bytes read from it, and the bytes sent on it are the answers to these frames. -/
theorem tables_agree_and_connections_are_isolated (headers_lawful : dispatcher.headers.Lawful)
    (lawful : dispatcher.messages.Lawful) {loop : Loop (MessagePool Message)}
    (reachable : Reachable (onFrame dispatcher) {} loop) :
    (∀ fd, (loop.server.handlers fd).isSome ↔
      (loop.server.connections fd).isSome ∨
        fd = loop.server.listenFd ∧ loop.server.listenFd ≠ -1) ∧
    (∀ accepts, StartsEmpty (acceptLoop loop.server accepts) loop.server.accepted) ∧
    (∀ event, (event ∈ loop.batch ∨ ∃ denoted, loop.current = some (event, denoted)) →
      (∀ entry, loop.server.handlers event.fd = some entry → entry.owner = event.owner) ∧
        ∀ connection, loop.server.connections event.fd = some connection →
          event.owner = .connection connection.incarnation) ∧
    (∀ fd connection, loop.server.connections fd = some connection →
      loop.server.descriptors fd = some (.connection connection.incarnation) ∧
        (loop.server.journal connection.incarnation).delivered =
          (frameCutter.split (loop.server.journal connection.incarnation).received).items) ∧
    ∀ incarnation,
      (loop.server.journal incarnation).delivered =
          (frameCutter.split (loop.server.journal incarnation).handed).items ∧
        (loop.server.journal incarnation).submitted =
          (loop.server.journal incarnation).delivered.flatMap (reply dispatcher) ∧
        (loop.server.journal incarnation).accepted <+:
          (loop.server.journal incarnation).submitted := by
  have invariant := invariant_of_running headers_lawful lawful reachable
  have consistent := invariant.server
  refine ⟨consistent.keys, fun accepts => startsEmpty_acceptLoop consistent accepts
    consistent.startsEmpty, ?_, ?_, ?_⟩
  · intro event pending
    refine ⟨fun entry found => owner_of_pending_event invariant pending (consistent.owner found),
      fun connection entry => ?_⟩
    obtain ⟨events, opened, -⟩ := consistent.opened entry
    exact (owner_of_pending_event invariant pending opened.descriptor).symm
  · intro fd connection entry
    obtain ⟨events, opened, tidy, live, -⟩ := consistent.opened entry
    exact ⟨opened.descriptor, live.delivered⟩
  · intro incarnation
    obtain ⟨delivered_eq, pending, balanced⟩ := consistent.sound incarnation
    exact ⟨delivered_eq, balanced.submitted_eq, pending, balanced.accepted_append⟩

/-- A request with the id `7`, for a service that is not registered. -/
def strayFrame : Bytes := [0, 0, 0, 12, 0, 0, 0, 8, 8, 7, 18, 1, 85, 26, 1, 76]

/-- A frame that is cut well and does not decode: its header is longer than its body. -/
def brokenFrame : Bytes := [0, 0, 0, 4, 0, 0, 0, 1]

/-- The idle server with a second connection, descriptor 6. -/
def busyServer : Server (MessagePool Proto3.BytesMessage) :=
  acceptLoop idleServer [.connection 6 true]

/-- A frame on descriptor 5 was answered, and the beginning of a frame came in on descriptor 6. -/
def begunServer : Server (MessagePool Proto3.BytesMessage) :=
  afterReadable (onFrame emptyDispatcher)
    (afterReadable (onFrame emptyDispatcher) busyServer 5 [.bytes smallestFrame] [.written 100]) 6
    [.bytes [0, 0, 0]] []

/-- The first peer ended its stream. -/
def closedServer : Server (MessagePool Proto3.BytesMessage) :=
  afterReadable (onFrame emptyDispatcher) begunServer 5 [.bytes []] []

/-- A third connection gets descriptor 5 again and sends a frame; the kernel takes three bytes of
the answer. -/
def reusedServer : Server (MessagePool Proto3.BytesMessage) :=
  afterReadable (onFrame emptyDispatcher) (acceptLoop closedServer [.connection 5 true]) 5
    [.bytes strayFrame] [.written 3]

theorem reachable_reusedServer :
    Reachable (onFrame emptyDispatcher) {} { server := reusedServer } := by
  have busy : Reachable (onFrame emptyDispatcher) {} { server := busyServer } :=
    reachable_readable reachable_idleServer 3 { accepts := [.connection 6 true] } rfl (by decide)
      rfl rfl
  have answered := reachable_afterReadable busy 5 0 readInterest (by decide +kernel)
    (by decide +kernel) (by decide +kernel)
    (show (handleReadable _ busyServer 5 [.bytes smallestFrame] [.written 100]).isOk = true by
      decide +kernel)
  have begun : Reachable (onFrame emptyDispatcher) {} { server := begunServer } :=
    reachable_afterReadable answered 6 1 readInterest (by decide +kernel) (by decide +kernel)
      (by decide +kernel) (by decide +kernel)
  have closed : Reachable (onFrame emptyDispatcher) {} { server := closedServer } :=
    reachable_afterReadable begun 5 0 readInterest (by decide +kernel) (by decide +kernel)
      (by decide +kernel) (by decide +kernel)
  have accepted : Reachable (onFrame emptyDispatcher) {}
      { server := acceptLoop closedServer [.connection 5 true] } :=
    reachable_readable closed 3 { accepts := [.connection 5 true] }
      (show closedServer.handlers 3 = some listenHandler by decide +kernel) (by decide +kernel)
      (by decide +kernel) rfl
  exact reachable_afterReadable accepted 5 2 readInterest (by decide +kernel) (by decide +kernel)
    (by decide +kernel) (by decide +kernel)

/-- What was read from the first connection and written to it does not reach the third one, which
has its descriptor. -/
theorem tables_agree_on_reusedServer :
    Reachable (onFrame emptyDispatcher) {} { server := reusedServer } ∧
      reusedServer.descriptors 5 = some (.connection 2) ∧
      reusedServer.descriptors 6 = some (.connection 1) ∧
      (∀ fd, (reusedServer.handlers fd).isSome ↔
        (reusedServer.connections fd).isSome ∨
          fd = reusedServer.listenFd ∧ reusedServer.listenFd ≠ -1) ∧
      (reusedServer.journal 0).submitted = reply emptyDispatcher smallestFrame ∧
      (reusedServer.journal 1).submitted = [] ∧
      (reusedServer.journal 2).submitted = reply emptyDispatcher strayFrame ∧
      (reusedServer.journal 2).accepted.length = 3 := by
  obtain ⟨keys, -, -, -, sound⟩ := tables_agree_and_connections_are_isolated
    Proto3.headers_lawful Proto3.messages_lawful reachable_reusedServer
  have first : (reusedServer.journal 0).delivered = [smallestFrame] := by decide +kernel
  have second : (reusedServer.journal 1).delivered = [] := by decide +kernel
  have third : (reusedServer.journal 2).delivered = [strayFrame] := by decide +kernel
  refine ⟨reachable_reusedServer, by decide +kernel, by decide +kernel, keys, ?_, ?_, ?_,
    by decide +kernel⟩
  · simpa [first] using (sound 0).2.1
  · simpa [second] using (sound 1).2.1
  · simpa [third] using (sound 2).2.1

/-- On every socket the kernel has taken, at every moment, a prefix of the answers to the frames
delivered by then, and all of them whenever the connection is open with an empty output buffer.
The answer to a frame is one frame that depends on nothing but the frame.  Without the end of the
stream and without a failing `send` reading never faults. -/
theorem responses_in_order (headers_lawful : dispatcher.headers.Lawful)
    (lawful : dispatcher.messages.Lawful) {loop : Loop (MessagePool Message)}
    (reachable : Reachable (onFrame dispatcher) {} loop) :
    (∀ incarnation (start : Journal), start <+: loop.server.journal incarnation →
      start.accepted <+: start.delivered.flatMap (reply dispatcher)) ∧
    (∀ fd connection, loop.server.connections fd = some connection →
      connection.outputBuffer = [] →
        (loop.server.journal connection.incarnation).accepted =
          (loop.server.journal connection.incarnation).delivered.flatMap (reply dispatcher)) ∧
    (∀ fd connection recvs sends, loop.server.connections fd = some connection →
      ¬ EndsStream recvs → NoFailure sends →
        ∃ result, handleReadable (onFrame dispatcher) loop.server fd recvs sends = .ok result) ∧
    ∀ (pool : MessagePool Message) (frame : Bytes), pool.Typed dispatcher.messages →
      (onFrame dispatcher pool frame).2 = some (reply dispatcher frame) ∧
      match (dispatcher.handleFrame pool frame).1 with
      | .ok response => reply dispatcher frame = response
      | .error error =>
          -- The request id of a frame that decodes, and zero for any other frame.
          let requestId :=
            match RpcCodec.decodeRequest dispatcher.headers frame with
            | .ok request => request.requestId
            | .error _ => 0
          RpcCodec.encodeResponse dispatcher.headers
            ⟨requestId, error.code, error.message, []⟩ = .ok (reply dispatcher frame) := by
  have consistent := (invariant_of_running headers_lawful lawful reachable).server
  have answers := answers_onFrame headers_lawful lawful
  refine ⟨?_, ?_, ?_, fun pool frame typed =>
    ⟨answers.reply frame typed, reply_spec headers_lawful lawful typed frame⟩⟩
  · intro incarnation start begins
    obtain ⟨-, pending, balanced⟩ := consistent.sound incarnation
    exact balanced.moment start begins
  · intro fd connection entry drained
    obtain ⟨events, -, -, live, -⟩ := consistent.opened entry
    rw [live.accepted_eq drained, live.delivered]
  · intro fd connection recvs sends entry goes_on fine
    obtain ⟨-, returns⟩ := moved_handleReadable answers consistent entry recvs sends
    obtain ⟨after, rest, ok, -⟩ := returns fun faults => by
      simp [repliesFail_of_noFailure _ _ fine, ReadFaults] at faults
    exact ⟨_, ok⟩

/-- The idle server after both frames arrived in two pieces and the kernel took the answers, the
second one in two pieces as well. -/
def answeringServer : Server (MessagePool Proto3.BytesMessage) :=
  afterReadable (onFrame emptyDispatcher) idleServer 5
    [.bytes (strayFrame.take 9), .eintr, .bytes (strayFrame.drop 9 ++ brokenFrame)]
    [.written 100, .written 5, .eintr, .written 100]

theorem reachable_answeringServer :
    Reachable (onFrame emptyDispatcher) {} { server := answeringServer } :=
  reachable_afterReadable reachable_idleServer 5 0 readInterest open_idleServer.handler (by decide)
    open_idleServer.descriptor (by decide +kernel)

/-- The answer to the request carries its id, the answer to the broken frame carries zero, and both
have left in this order. -/
theorem responses_in_order_on_answeringServer :
    Reachable (onFrame emptyDispatcher) {} { server := answeringServer } ∧
      (answeringServer.journal 0).delivered = [strayFrame, brokenFrame] ∧
      (answeringServer.journal 0).accepted =
        reply emptyDispatcher strayFrame ++ reply emptyDispatcher brokenFrame ∧
      RpcCodec.encodeResponse Proto3.headers
        ⟨7, RpcStatusCode.kUnknownService, text "unknown service", []⟩ =
          .ok (reply emptyDispatcher strayFrame) ∧
      RpcCodec.encodeResponse Proto3.headers
        ⟨0, RpcStatusCode.kInvalidPacket, text "header length exceeds frame size", []⟩ =
          .ok (reply emptyDispatcher brokenFrame) := by
  have delivered : (answeringServer.journal 0).delivered = [strayFrame, brokenFrame] := by
    decide +kernel
  obtain ⟨-, drained, -, answered⟩ := responses_in_order Proto3.headers_lawful
    Proto3.messages_lawful reachable_answeringServer
  have accepted := drained 5 { incarnation := 0 } (by decide +kernel) rfl
  have typed := MessagePool.typed_empty emptyDispatcher.messages 32
  have stray_failed : (emptyDispatcher.handleFrame {} strayFrame).1 =
      .error ⟨RpcStatusCode.kUnknownService, text "unknown service"⟩ := by decide +kernel
  have broken_failed : (emptyDispatcher.handleFrame {} brokenFrame).1 =
      .error ⟨RpcStatusCode.kInvalidPacket, text "header length exceeds frame size"⟩ := by
    decide +kernel
  have stray_decoded : RpcCodec.decodeRequest emptyDispatcher.headers strayFrame =
      .ok ⟨7, text "U", text "L", [], []⟩ := by decide +kernel
  have broken_decoded : RpcCodec.decodeRequest emptyDispatcher.headers brokenFrame =
      .error ⟨RpcStatusCode.kInvalidPacket, text "header length exceeds frame size"⟩ := by
    decide +kernel
  have stray := (answered {} strayFrame typed).2
  have broken := (answered {} brokenFrame typed).2
  simp only [stray_failed, stray_decoded] at stray
  simp only [broken_failed, broken_decoded] at broken
  refine ⟨reachable_answeringServer, delivered, ?_, stray, broken⟩
  rw [accepted, delivered]
  simp

/-- `ProcessInput` keeps reading a live entry exactly when no `send` made for the answers to the
buffered frames returns zero or a fatal error. -/
theorem processInput_returns_iff (headers_lawful : dispatcher.headers.Lawful)
    (lawful : dispatcher.messages.Lawful) {loop : Loop (MessagePool Message)}
    (reachable : Reachable (onFrame dispatcher) {} loop) {fd : Fd} {connection : ConnectionState}
    (entry : loop.server.connections fd = some connection) (input : Bytes)
    (sends : List SendResult) :
    (∃ result, processInput (onFrame dispatcher)
      (loop.server.setConnection fd { connection with inputBuffer := input }) fd sends =
        .ok result) ↔
      repliesFail connection.pending ((frameCutter.split input).items.map (reply dispatcher))
        sends = false := by
  have consistent := (invariant_of_running headers_lawful lawful reachable).server
  obtain ⟨events, opened, tidy, live, -⟩ := consistent.opened entry
  have buffered := opened.setConnection { connection with inputBuffer := input } rfl
  obtain ⟨fails, fine⟩ := processInput_spec (answers_onFrame headers_lawful lawful) fd buffered
    ⟨tidy.within, tidy.interest⟩ consistent.app live.balanced sends
  constructor
  · rintro ⟨result, ok⟩
    cases failing : repliesFail connection.pending
        ((frameCutter.split input).items.map (reply dispatcher)) sends with
    | false => rfl
    | true =>
        rw [fails failing] at ok
        cases ok
  · intro quiet
    obtain ⟨after, rest, entries, ok, -⟩ := fine quiet
    exact ⟨_, ok⟩

theorem processInput_returns_on_idleServer :
    Reachable (onFrame emptyDispatcher) {} { server := idleServer } ∧
      idleServer.connections 5 = some { incarnation := 0 } ∧
      ∃ result, processInput (onFrame emptyDispatcher)
        (idleServer.setConnection 5 { inputBuffer := smallestFrame, incarnation := 0 }) 5
        [.eagain] = .ok result := by
  have fine : NoFailure [.eagain] := by simp [NoFailure]
  exact ⟨reachable_idleServer, rfl, (processInput_returns_iff Proto3.headers_lawful
    Proto3.messages_lawful reachable_idleServer open_idleServer.entry smallestFrame [.eagain]).mpr
      (repliesFail_of_noFailure _ _ fine)⟩

/-- The peer resets the connection while the answer to its frame is written. -/
theorem processInput_reads_erased_entry :
    Reachable (onFrame emptyDispatcher) {} { server := idleServer } ∧
      idleServer.connections 5 = some { incarnation := 0 } ∧
      processInput (onFrame emptyDispatcher)
        (idleServer.setConnection 5 { inputBuffer := smallestFrame, incarnation := 0 }) 5
        [.error 104] = .error (.inputBuffer 5) := by
  refine ⟨reachable_idleServer, rfl, ?_⟩
  have opened := open_idleServer.setConnection
    { inputBuffer := smallestFrame, incarnation := 0 } rfl
  have answers : Answers (onFrame emptyDispatcher) _ (reply emptyDispatcher) :=
    answers_onFrame Proto3.headers_lawful Proto3.messages_lawful
  exact (processInput_spec answers 5 opened ⟨le_rfl, Or.inl ⟨rfl, rfl, rfl⟩⟩
    (MessagePool.typed_empty Proto3.messages 32) (Journal.balanced_nil _) [.error 104]).1
    (by decide +kernel)

/-! ## The iterator of the event loop -/

/-- The readable part of an event closes its connection. -/
def ClosesWhileReading {App : Type} (server : Server App) (event : Event) (script : Script) :
    Prop :=
  event.events.epollin = true ∧
    ∃ connection, server.connections event.fd = some connection ∧
      ReadCloses connection script.recvs

/-- A move that does not close a connection in the readable part of an event whose writable part is
still to come. -/
def LeavesHandler {App : Type} (loop : Loop App) (script : Script) : Prop :=
  ∀ event batch, loop.current = none → loop.batch = event :: batch →
    event.events.epollerr = false → event.events.epollhup = false →
    event.events.epollout = true → ¬ ClosesWhileReading loop.server event script

/-- When the loop is about to read `on_writable`, the entry that its iterator denotes is there. -/
def HandlerPresent {App : Type} (loop : Loop App) : Prop :=
  ∀ event denoted, loop.current = some (event, denoted) → event.events.epollout = true →
    ∃ entry, loop.server.handlers event.fd = some entry ∧ entry.owner = denoted.owner

/-- The descriptor of an event is closed by its readable part exactly when that part closes the
connection. -/
theorem closed_after_reading_iff {App : Type} {holds : App → Prop} {respond : Bytes → Bytes}
    {handler : FrameHandler App} (answers : Answers handler holds respond)
    {server after : Server App} {event : Event} {entry : Handler} {script : Script}
    (consistent : Consistent holds respond server)
    (found : server.handlers event.fd = some entry) (readable : event.events.epollin = true)
    (called : invokeIfSet handler server event.fd script entry.onReadable = .ok after) :
    after.descriptors event.fd = none ↔ ClosesWhileReading server event script := by
  obtain ⟨listening, rfl⟩ | ⟨connection, events, opened, -⟩ := consistent.registered found
  · obtain rfl := Except.ok.inj called
    have kept := (acceptLoop_spec consistent script.accepts).2 event.fd
      (by simp [listening.descriptor])
    simp [ClosesWhileReading, kept, listening.descriptor, listening.entry]
  · have closed_iff := (moved_onReadable_connection answers consistent opened found called).2
    simp [ClosesWhileReading, readable, opened.entry, closed_iff]

/-- An entry that the loop is about to read is there as long as the descriptor is open. -/
theorem handlerPresent_iff_open {App : Type} {holds : App → Prop} {respond : Bytes → Bytes}
    {server : Server App} {event : Event} {batch : List Event} {entry : Handler}
    (invariant : Invariant holds respond
      { server := server, batch := batch, current := some (event, entry) })
    (writable : event.events.epollout = true) :
    HandlerPresent { server := server, batch := batch, current := some (event, entry) } ↔
      server.descriptors event.fd ≠ none := by
  have consistent : Consistent holds respond server := invariant.server
  obtain ⟨-, same_owner, own⟩ : _ ∧ entry.owner = event.owner ∧
      (server.descriptors event.fd = none ∨ server.descriptors event.fd = some event.owner) :=
    invariant.current event entry rfl
  rw [← consistent.handler_isSome]
  constructor
  · intro present
    obtain ⟨kept, kept_found, -⟩ := present event entry rfl writable
    exact Option.isSome_iff_exists.mpr ⟨kept, kept_found⟩
  · rintro some_entry other denoted ⟨rfl, rfl⟩ _
    obtain ⟨kept, kept_found⟩ := Option.isSome_iff_exists.mp some_entry
    refine ⟨kept, kept_found, ?_⟩
    rw [same_owner]
    simpa [consistent.owner kept_found] using own

/-- After the readable part of an event the entry is there unless that part closed the
connection. -/
theorem handlerPresent_turn_iff {App : Type} {holds : App → Prop} {respond : Bytes → Bytes}
    {handler : FrameHandler App} (answers : Answers handler holds respond) {server : Server App}
    {event : Event} {batch : List Event} {script : Script} {next : Loop App}
    (invariant : Invariant holds respond { server := server, batch := event :: batch })
    (no_error : event.events.epollerr = false) (no_hangup : event.events.epollhup = false)
    (writable : event.events.epollout = true)
    (moved : turn handler script { server := server, batch := event :: batch } = .ok next) :
    HandlerPresent next ↔ ¬ ClosesWhileReading server event script := by
  have consistent : Consistent holds respond server := invariant.server
  have next_invariant := invariant_turn answers invariant moved
  cases turned_of_turn moved with
  | skip gone =>
      have present := (consistent.handler_isSome event.fd).mpr (by simp [invariant.first])
      simp [gone] at present
  | error found failing called => simp [no_error, no_hangup] at failing
  | read found quiet called =>
      rw [handlerPresent_iff_open next_invariant writable]
      rcases called with ⟨readable, called⟩ | ⟨unreadable, rfl⟩
      · exact not_congr (closed_after_reading_iff answers consistent found readable called)
      · simp [ClosesWhileReading, unreadable, invariant.first]

theorem handlerPresent_of_finished {App : Type} {loop : Loop App} (finished : loop.current = none) :
    HandlerPresent loop := by
  simp [HandlerPresent, finished]

/-- A move that leaves the handler keeps the entry for the writable part. -/
theorem handlerPresent_turn {App : Type} {holds : App → Prop} {respond : Bytes → Bytes}
    {handler : FrameHandler App} (answers : Answers handler holds respond) {loop next : Loop App}
    {script : Script} (invariant : Invariant holds respond loop)
    (permitted : LeavesHandler loop script) (moved : turn handler script loop = .ok next) :
    HandlerPresent next := by
  cases turned_of_turn moved with
  | rest server => exact handlerPresent_of_finished rfl
  | skip gone => exact handlerPresent_of_finished rfl
  | error found failing called => exact handlerPresent_of_finished rfl
  | @read server after event batch entry found quiet called =>
      obtain ⟨no_error, no_hangup⟩ :
          event.events.epollerr = false ∧ event.events.epollhup = false := by simpa using quiet
      rintro other denoted is_current writable
      obtain ⟨rfl, rfl⟩ := Prod.mk.inj (Option.some.inj is_current)
      have stays := permitted event batch rfl rfl no_error no_hangup writable
      exact (handlerPresent_turn_iff answers invariant no_error no_hangup writable moved).mpr stays
        event entry rfl writable
  | write writable found same called => exact handlerPresent_of_finished rfl
  | pass unwritable => exact handlerPresent_of_finished rfl

/-- `Reactor::Loop` never reads an erased entry in a run that closes no connection in the readable
part of an event that is also writable, and such a closing is what makes it do so. -/
theorem handler_present_iff (headers_lawful : dispatcher.headers.Lawful)
    (lawful : dispatcher.messages.Lawful) :
    (∀ loop, Runs (onFrame dispatcher) LeavesHandler {} loop → HandlerPresent loop) ∧
    ∀ loop event batch script next, Reachable (onFrame dispatcher) {} loop →
      loop.current = none → loop.batch = event :: batch → event.events.epollerr = false →
      event.events.epollhup = false → event.events.epollout = true →
      turn (onFrame dispatcher) script loop = .ok next →
        (HandlerPresent next ↔ ¬ ClosesWhileReading loop.server event script) := by
  have answers := answers_onFrame headers_lawful lawful
  refine ⟨?_, ?_⟩
  · rintro loop ⟨outcome, server, listened, steps⟩
    induction steps with
    | refl => simp [HandlerPresent]
    | @tail loop next steps step ih =>
        cases step with
        | wait server reported => simp [HandlerPresent]
        | turn script permitted moved =>
            have invariant := invariant_of_running headers_lawful lawful
              ⟨outcome, server, listened, steps⟩
            exact handlerPresent_turn answers invariant permitted moved
  · rintro ⟨server, _, _⟩ event batch script next reachable rfl rfl no_error no_hangup writable
      moved
    exact handlerPresent_turn_iff answers
      (invariant_of_running headers_lawful lawful reachable) no_error no_hangup writable moved

/-- An event on the connection that is readable and writable. -/
def bothEvent : Event := ⟨5, { epollin := true, epollout := true }, .connection 0⟩

theorem reachable_bothEvent :
    Reachable (onFrame emptyDispatcher) {} { server := pendingServer, batch := [bothEvent] } := by
  obtain ⟨outcome, server, listened, steps⟩ := reachable_pendingServer
  have reported : Reported pendingServer [bothEvent] := ⟨by decide, by decide, by decide⟩
  exact ⟨outcome, server, listened, .tail steps (.wait _ reported)⟩

/-- The event loop after the peer ended its stream and before the writable part of the event. -/
def endedLoop : Loop (MessagePool Proto3.BytesMessage) where
  server :=
    match handleReadable (onFrame emptyDispatcher) pendingServer 5 [.bytes []] [] with
    | .ok (server, _) => server
    | .error _ => pendingServer
  current := some (bothEvent, connectionHandler 0 writeInterest)

theorem handler_present_iff_on_endedLoop :
    HandlerPresent endedLoop ↔
      ¬ ClosesWhileReading pendingServer bothEvent { recvs := [.bytes []] } :=
  (handler_present_iff Proto3.headers_lawful Proto3.messages_lawful).2 _ bothEvent [] _ endedLoop
    reachable_bothEvent rfl rfl rfl rfl rfl rfl

/-- While an answer is pending the peer ends its stream: the event is readable and writable, reading
closes the connection, and the loop reads the erased entry. -/
theorem loop_reads_erased_handler :
    Reachable (onFrame emptyDispatcher) {} endedLoop ∧ ¬ HandlerPresent endedLoop ∧
      turn (onFrame emptyDispatcher) {} endedLoop = .error (.handler 5) := by
  obtain ⟨outcome, server, listened, steps⟩ := reachable_bothEvent
  have read : Step (onFrame emptyDispatcher) (fun _ _ => True)
      { server := pendingServer, batch := [bothEvent] } endedLoop :=
    .turn { recvs := [.bytes []] } trivial rfl
  have erased : endedLoop.server.handlers 5 = none := rfl
  refine ⟨⟨outcome, server, listened, .tail steps read⟩, ?_, rfl⟩
  intro present
  obtain ⟨entry, found, -⟩ := present bothEvent _ rfl rfl
  exact absurd (found.symm.trans erased) (by simp)

end Guarantees

end RpcServer

end Hxrpc
