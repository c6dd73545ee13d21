import Hxrpc.Server.Deframing

/-!
# The output buffer of a connection

`Send`, `HandleWritable` and `Close` in any order on one connection, with any results of `send`.
While the connection stays open, what the kernel took and what is still buffered are together the
frames passed to `Send`, and the descriptor waits for `EPOLLOUT` exactly while something is
buffered.
-/

namespace Hxrpc

namespace ConnectionManager

variable {App : Type}

/-- An operation on the output of a connection, with the results of its calls of `send`. -/
inductive OutputOperation where
  | send (frame : Bytes) (sends : List SendResult)
  | handleWritable (sends : List SendResult)
  | close

namespace OutputOperation

/-- The bytes that the operation adds to the output. -/
def frame : OutputOperation → Bytes
  | .send frame _ => frame
  | .handleWritable _ => []
  | .close => []

/-- The server after the operation. -/
def perform (server : Server App) (fd : Fd) : OutputOperation → Server App
  | .send frame sends => (ConnectionManager.send server fd frame sends).1
  | .handleWritable sends => (ConnectionManager.handleWritable server fd sends).1
  | .close => ConnectionManager.close server fd

/-- The server after some operations. -/
def performAll (server : Server App) (fd : Fd) (operations : List OutputOperation) : Server App :=
  operations.foldl (fun server operation => operation.perform server fd) server

theorem performAll_concat (server : Server App) (fd : Fd) (operations : List OutputOperation)
    (operation : OutputOperation) :
    performAll server fd (operations ++ [operation]) =
      operation.perform (performAll server fd operations) fd := by
  simp [performAll]

end OutputOperation

open OutputOperation

/-- The frames `sent` so far are what the kernel took and what is pending. -/
structure Buffered (server : Server App) (fd : Fd) (incarnation : Nat) (sent : Bytes)
    (connection : ConnectionState) (events : Events) : Prop where
  opened : Open server fd connection events
  tidy : Tidy connection events
  same : connection.incarnation = incarnation
  balance : (server.journal incarnation).accepted ++ connection.pending = sent

/-- The connection is closed, or open with its output in order. -/
def OutputInvariant (server : Server App) (fd : Fd) (incarnation : Nat) (sent : Bytes) : Prop :=
  (server.connections fd = none ∧ fd ≠ server.listenFd) ∨
    ∃ connection events, Buffered server fd incarnation sent connection events

theorem buffered_justAccepted {server : Server App} {fd : Fd} {incarnation : Nat}
    (accepted : JustAccepted server fd incarnation) :
    Buffered server fd incarnation [] { incarnation := incarnation } readInterest where
  opened := accepted.opened
  tidy := ⟨Nat.le_refl 0, Or.inl ⟨rfl, rfl, rfl⟩⟩
  same := rfl
  balance := by simp [accepted.journal, ConnectionState.pending]

/-- A write loop over the pending bytes and a new frame keeps the output in order. -/
theorem outputInvariant_of_wrote {before after : Server App} {fd : Fd} {incarnation : Nat}
    {sent : Bytes} {connection : ConnectionState} {events : Events} {entries : Journal}
    {sends : List SendResult} (frame : Bytes)
    (buffered : Buffered before fd incarnation sent connection events)
    (wrote : Wrote fd connection entries (connection.pending ++ frame)
      (flush (connection.pending ++ frame) sends) before after)
    (took : entries.accepted = (flush (connection.pending ++ frame) sends).chunks.flatten) :
    OutputInvariant after fd incarnation (sent ++ frame) := by
  have effect := wrote.effect
  by_cases failed : (flush (connection.pending ++ frame) sends).ending = .failed
  · left
    exact ⟨(wrote.gone failed).entry, effect.listenFd ▸ buffered.opened.not_listener⟩
  · right
    obtain ⟨changed, changed_events, opened, tidy, pending_eq, -, same⟩ := wrote.stays failed
    refine ⟨changed, changed_events, opened, tidy, same.trans buffered.same, ?_⟩
    rw [← buffered.same, effect.extends_journal, buffered.same, Journal.accepted_append, took,
      pending_eq, List.append_assoc, flush_append, ← List.append_assoc, buffered.balance]

/-- Every operation keeps the output in order. -/
theorem outputInvariant_perform {server : Server App} {fd : Fd} {incarnation : Nat} {sent : Bytes}
    (invariant : OutputInvariant server fd incarnation sent) (operation : OutputOperation) :
    OutputInvariant (operation.perform server fd) fd incarnation (sent ++ operation.frame) := by
  rcases invariant with ⟨closed, not_listener⟩ | ⟨connection, events, buffered⟩
  · left
    cases operation with
    | send frame sends => simpa [perform, send, closed] using not_listener
    | handleWritable sends => simpa [perform, handleWritable, closed] using not_listener
    | close => simp [perform, close, closed, not_listener]
  · cases operation with
    | send frame sends =>
        obtain ⟨-, wrote⟩ := send_spec buffered.opened buffered.tidy.within frame sends
        exact outputInvariant_of_wrote frame buffered wrote (by simp)
    | handleWritable sends =>
        obtain ⟨-, wrote⟩ := handleWritable_spec buffered.opened buffered.tidy.within sends
        rw [← List.append_nil connection.pending] at wrote
        exact outputInvariant_of_wrote [] buffered wrote (by simp)
    | close =>
        left
        have gone := buffered.opened.gone_close
        have effect := buffered.opened.effect_close incarnation
        exact ⟨gone.entry, effect.listenFd ▸ buffered.opened.not_listener⟩

theorem outputInvariant_performAll {server : Server App} {fd : Fd} {incarnation : Nat}
    (accepted : JustAccepted server fd incarnation) (operations : List OutputOperation) :
    OutputInvariant (performAll server fd operations) fd incarnation
      (operations.flatMap frame) := by
  induction operations using List.reverseRecOn with
  | nil => exact Or.inr ⟨_, _, buffered_justAccepted accepted⟩
  | append_singleton operations operation ih =>
      rw [performAll_concat, List.flatMap_append, List.flatMap_singleton]
      exact outputInvariant_perform ih operation

/-- The registered interest of a tidy connection. -/
theorem Tidy.epollout_iff {connection : ConnectionState} {events : Events}
    (tidy : Tidy connection events) :
    events.epollin = true ∧
      (events.epollout = true ↔ connection.bytesSent < connection.outputBuffer.length) := by
  rcases tidy.interest with ⟨empty, zero, rfl⟩ | ⟨pending, rfl⟩
  · simp [empty, zero]
  · have more : connection.bytesSent < connection.outputBuffer.length := by
      by_contra none_left
      exact pending (List.drop_eq_nil_of_le (Nat.le_of_not_lt none_left))
    simp [more]

/-- For every sequence of operations on an accepted connection and all results of `send`: if the
connection is open behind them, the sent offset lies within the buffer, what the kernel took and
what is buffered are the frames passed to `Send`, and the handler and the kernel wait for `EPOLLIN`
always and for `EPOLLOUT` exactly while bytes are buffered. -/
theorem output_buffered {server : Server App} {fd : Fd} {incarnation : Nat}
    (accepted : JustAccepted server fd incarnation) (operations : List OutputOperation)
    {connection : ConnectionState}
    (still_open : (performAll server fd operations).connections fd = some connection) :
    connection.bytesSent ≤ connection.outputBuffer.length ∧
      ((performAll server fd operations).journal incarnation).accepted ++ connection.pending =
        operations.flatMap frame ∧
      ∃ handler, (performAll server fd operations).handlers fd = some handler ∧
        (performAll server fd operations).epoll fd = some handler.events ∧
        handler.events.epollin = true ∧
        (handler.events.epollout = true ↔
          connection.bytesSent < connection.outputBuffer.length) := by
  rcases outputInvariant_performAll accepted operations with
    ⟨closed, -⟩ | ⟨current, events, buffered⟩
  · rw [closed] at still_open
    cases still_open
  · obtain rfl := Option.some.inj (buffered.opened.entry.symm.trans still_open)
    exact ⟨buffered.tidy.within, buffered.balance, _, buffered.opened.handler,
      buffered.opened.interest, buffered.tidy.epollout_iff⟩

/-- A short write, a second frame behind it and a flush that takes one byte more. -/
def shortWrites : List OutputOperation :=
  [.send [1, 2, 3] [.eintr, .written 1, .eagain], .send [4] [.eagain],
    .handleWritable [.written 1]]

theorem entry_shortWrites :
    (performAll (oneConnection ()) 5 shortWrites).connections 5 =
      some { outputBuffer := [1, 2, 3, 4], bytesSent := 2, incarnation := 0 } := by
  decide +kernel

theorem output_buffered_shortWrites :
    2 ≤ 4 ∧
      ((performAll (oneConnection ()) 5 shortWrites).journal 0).accepted ++ [3, 4] =
        shortWrites.flatMap frame ∧
      ∃ handler, (performAll (oneConnection ()) 5 shortWrites).handlers 5 = some handler ∧
        (performAll (oneConnection ()) 5 shortWrites).epoll 5 = some handler.events ∧
        handler.events.epollin = true ∧ (handler.events.epollout = true ↔ 2 < 4) :=
  output_buffered (justAccepted_oneConnection ()) shortWrites entry_shortWrites

end ConnectionManager

end Hxrpc
