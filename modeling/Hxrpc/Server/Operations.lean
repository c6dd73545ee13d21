import Hxrpc.Server.ConnectionManager

/-!
# What the operations of the connection manager do

One statement for each operation on an open connection: which tables it changes, what it adds to the
journal of the socket, and in which state it leaves the connection.  Everything that belongs to
another descriptor or another socket is untouched.
-/

namespace Hxrpc

namespace ConnectionManager

/-- Interest of a connection with nothing to send. -/
abbrev readInterest : Events := { epollin := true }

/-- Interest of a connection with bytes to send. -/
abbrev writeInterest : Events := { epollin := true, epollout := true }

/-- All tables agree that `fd` is the connection `connection`. -/
structure Open {App : Type} (server : Server App) (fd : Fd) (connection : ConnectionState)
    (events : Events) : Prop where
  entry : server.connections fd = some connection
  handler : server.handlers fd = some (connectionHandler connection.incarnation events)
  interest : server.epoll fd = some events
  descriptor : server.descriptors fd = some (.connection connection.incarnation)
  not_listener : fd ≠ server.listenFd

/-- No table knows `fd`. -/
structure Gone {App : Type} (server : Server App) (fd : Fd) : Prop where
  entry : server.connections fd = none
  handler : server.handlers fd = none
  interest : server.epoll fd = none
  descriptor : server.descriptors fd = none

/-- Only the tables at `fd` and the journal of `incarnation` change; the journal grows by
`entries`. -/
structure Effect {App : Type} (fd : Fd) (incarnation : Nat) (entries : Journal)
    (before after : Server App) : Prop where
  listenFd : after.listenFd = before.listenFd
  accepted : after.accepted = before.accepted
  connections : ∀ other, other ≠ fd → after.connections other = before.connections other
  handlers : ∀ other, other ≠ fd → after.handlers other = before.handlers other
  epoll : ∀ other, other ≠ fd → after.epoll other = before.epoll other
  descriptors : ∀ other, other ≠ fd → after.descriptors other = before.descriptors other
  journal : ∀ other, other ≠ incarnation → after.journal other = before.journal other
  extends_journal : after.journal incarnation = before.journal incarnation ++ entries

theorem Effect.refl {App : Type} (fd : Fd) (incarnation : Nat) (server : Server App) :
    Effect fd incarnation [] server server := by
  constructor <;> simp

theorem Effect.trans {App : Type} {fd : Fd} {incarnation : Nat} {first second : Journal}
    {before middle after : Server App} (left : Effect fd incarnation first before middle)
    (right : Effect fd incarnation second middle after) :
    Effect fd incarnation (first ++ second) before after where
  listenFd := right.listenFd.trans left.listenFd
  accepted := right.accepted.trans left.accepted
  connections other ne := (right.connections other ne).trans (left.connections other ne)
  handlers other ne := (right.handlers other ne).trans (left.handlers other ne)
  epoll other ne := (right.epoll other ne).trans (left.epoll other ne)
  descriptors other ne := (right.descriptors other ne).trans (left.descriptors other ne)
  journal other ne := (right.journal other ne).trans (left.journal other ne)
  extends_journal := by
    rw [right.extends_journal, left.extends_journal, List.append_assoc]

section Primitive

variable {App : Type} {server : Server App} {fd : Fd} {connection : ConnectionState}
  {events : Events}

theorem Open.setConnection (opened : Open server fd connection events)
    (changed : ConnectionState) (same : changed.incarnation = connection.incarnation) :
    Open (server.setConnection fd changed) fd changed events where
  entry := by simp [Server.setConnection]
  handler := by rw [same]; exact opened.handler
  interest := opened.interest
  descriptor := by rw [same]; exact opened.descriptor
  not_listener := opened.not_listener

theorem effect_setConnection (server : Server App) (fd : Fd) (incarnation : Nat)
    (changed : ConnectionState) :
    Effect fd incarnation [] server (server.setConnection fd changed) := by
  constructor <;> simp +contextual [Server.setConnection, Function.update_of_ne]

theorem Open.record_eq (opened : Open server fd connection events) (entries : Journal) :
    server.record fd entries =
      { server with
        journal := Function.update server.journal connection.incarnation
          (server.journal connection.incarnation ++ entries) } := by
  simp [Server.record, opened.descriptor]

theorem Open.record (opened : Open server fd connection events) (entries : Journal) :
    Open (server.record fd entries) fd connection events := by
  rw [opened.record_eq]
  exact ⟨opened.entry, opened.handler, opened.interest, opened.descriptor, opened.not_listener⟩

theorem Open.effect_record (opened : Open server fd connection events) (entries : Journal) :
    Effect fd connection.incarnation entries server (server.record fd entries) := by
  rw [opened.record_eq]
  constructor <;> simp +contextual [Function.update_of_ne]

theorem Open.app_record (opened : Open server fd connection events) (entries : Journal) :
    (server.record fd entries).app = server.app := by
  rw [opened.record_eq]

theorem Open.updateInterest_eq (opened : Open server fd connection events) (wantWrite : Bool) :
    updateInterest server fd wantWrite =
      { server with
        epoll := Function.update server.epoll fd
          (some { epollin := true, epollout := wantWrite })
        handlers := Function.update server.handlers fd
          (some (connectionHandler connection.incarnation
            { epollin := true, epollout := wantWrite })) } := by
  simp [updateInterest, Reactor.update, opened.handler, connectionHandler]

theorem Open.updateInterest (opened : Open server fd connection events) (wantWrite : Bool) :
    Open (ConnectionManager.updateInterest server fd wantWrite) fd connection
      { epollin := true, epollout := wantWrite } := by
  rw [opened.updateInterest_eq]
  exact ⟨opened.entry, by simp, by simp, opened.descriptor, opened.not_listener⟩

theorem Open.effect_updateInterest (opened : Open server fd connection events)
    (wantWrite : Bool) :
    Effect fd connection.incarnation [] server
      (ConnectionManager.updateInterest server fd wantWrite) := by
  rw [opened.updateInterest_eq]
  constructor <;> simp +contextual [Function.update_of_ne]

theorem Open.app_updateInterest (opened : Open server fd connection events) (wantWrite : Bool) :
    (ConnectionManager.updateInterest server fd wantWrite).app = server.app := by
  rw [opened.updateInterest_eq]

theorem Open.close_eq (opened : Open server fd connection events) :
    close server fd =
      { (Reactor.remove server fd).closeDescriptor fd with
        connections := Function.update server.connections fd none } := by
  simp [close, opened.not_listener, opened.entry, Reactor.remove, Server.closeDescriptor]

theorem Open.gone_close (opened : Open server fd connection events) :
    Gone (close server fd) fd := by
  rw [opened.close_eq]
  constructor <;> simp [Reactor.remove, Server.closeDescriptor]

theorem Open.effect_close (opened : Open server fd connection events) (incarnation : Nat) :
    Effect fd incarnation [] server (close server fd) := by
  rw [opened.close_eq]
  constructor <;> simp +contextual [Reactor.remove, Server.closeDescriptor, Function.update_of_ne]

theorem Open.app_close (opened : Open server fd connection events) :
    (close server fd).app = server.app := by
  rw [opened.close_eq]
  rfl

/-- Replacing the state above changes no table. -/
theorem Open.withApp (opened : Open server fd connection events) (app : App) :
    Open { server with app := app } fd connection events :=
  ⟨opened.entry, opened.handler, opened.interest, opened.descriptor, opened.not_listener⟩

theorem effect_withApp (incarnation : Nat) (app : App) :
    Effect fd incarnation [] server { server with app := app } := by
  constructor <;> simp

end Primitive

/-! ## Writing -/

/-- A write loop takes bytes off the front; it leaves nothing when it drained the buffer and
something when it blocked. -/
theorem flush_spec (pending : Bytes) (sends : List SendResult) :
    ∃ left, (flush pending sends).chunks.flatten ++ left = pending ∧
      ((flush pending sends).ending = .drained → left = []) ∧
      ((flush pending sends).ending = .blocked → left ≠ []) := by
  fun_induction flush pending sends with
  | case1 pending => exact ⟨pending, by simp, by simp⟩
  | case2 result rest => exact ⟨[], by simp, by simp⟩
  | case3 pending rest nonempty => exact ⟨pending, by simp, by simp⟩
  | case4 pending rest nonempty count behind ih =>
      obtain ⟨left, whole, drained, blocked⟩ := ih
      refine ⟨left, ?_, drained, blocked⟩
      rw [List.flatten_cons, List.append_assoc, whole, List.take_append_drop]
  | case5 pending rest nonempty ih => exact ih
  | case6 pending rest nonempty => exact ⟨pending, by simp, by simpa using nonempty⟩
  | case7 pending rest nonempty errno => exact ⟨pending, by simp, by simp⟩

/-- The bytes a write loop leaves behind. -/
def Flush.left (flushed : Flush) (pending : Bytes) : Bytes :=
  pending.drop flushed.chunks.flatten.length

theorem flush_left_eq {pending left : Bytes} {sends : List SendResult}
    (whole : (flush pending sends).chunks.flatten ++ left = pending) :
    (flush pending sends).left pending = left := by
  have dropped := congrArg (List.drop (flush pending sends).chunks.flatten.length) whole
  rw [List.drop_left] at dropped
  exact dropped.symm

theorem flush_append (pending : Bytes) (sends : List SendResult) :
    (flush pending sends).chunks.flatten ++ (flush pending sends).left pending = pending := by
  obtain ⟨left, whole, -, -⟩ := flush_spec pending sends
  rw [flush_left_eq whole, whole]

theorem flush_left_of_drained {pending : Bytes} {sends : List SendResult}
    (drained : (flush pending sends).ending = .drained) :
    (flush pending sends).left pending = [] := by
  obtain ⟨left, whole, empty, -⟩ := flush_spec pending sends
  rw [flush_left_eq whole, empty drained]

theorem flush_left_of_blocked {pending : Bytes} {sends : List SendResult}
    (blocked : (flush pending sends).ending = .blocked) :
    (flush pending sends).left pending ≠ [] := by
  obtain ⟨left, whole, -, nonempty⟩ := flush_spec pending sends
  rw [flush_left_eq whole]
  exact nonempty blocked

/-- A write loop moves bytes from what is pending to what the kernel took. -/
theorem balanced_flush {respond : Bytes → Bytes} {journal : Journal} {pending : Bytes}
    (balanced : journal.Balanced respond pending) (sends : List SendResult) :
    Journal.Balanced respond (journal ++ (flush pending sends).chunks.map .accepted)
      ((flush pending sends).left pending) := by
  apply Journal.Balanced.accept
  rw [flush_append]
  exact balanced

/-- Between two operations the output buffer is empty or has bytes to send, and the registered
interest says which. -/
structure Tidy (connection : ConnectionState) (events : Events) : Prop where
  within : connection.bytesSent ≤ connection.outputBuffer.length
  interest : connection.outputBuffer = [] ∧ connection.bytesSent = 0 ∧ events = readInterest ∨
    connection.pending ≠ [] ∧ events = writeInterest

/-- What an operation that ends in the write loop `flushed` over `pending` leaves. -/
structure Wrote {App : Type} (fd : Fd) (connection : ConnectionState) (entries : Journal)
    (pending : Bytes) (flushed : Flush) (before after : Server App) : Prop where
  app : after.app = before.app
  effect : Effect fd connection.incarnation entries before after
  gone : flushed.ending = .failed → Gone after fd
  stays : flushed.ending ≠ .failed → ∃ changed events, Open after fd changed events ∧
    Tidy changed events ∧ changed.pending = flushed.left pending ∧
    changed.inputBuffer = connection.inputBuffer ∧ changed.incarnation = connection.incarnation

/-- `HandleWritable` on an open connection. -/
theorem handleWritable_spec {App : Type} {server : Server App} {fd : Fd}
    {connection : ConnectionState} {events : Events} (opened : Open server fd connection events)
    (within : connection.bytesSent ≤ connection.outputBuffer.length) (sends : List SendResult) :
    (handleWritable server fd sends).2 = (flush connection.pending sends).sends ∧
      Wrote fd connection ((flush connection.pending sends).chunks.map .accepted)
        connection.pending (flush connection.pending sends) server
        (handleWritable server fd sends).1 := by
  have left_length : (flush connection.pending sends).chunks.flatten.length ≤
      connection.outputBuffer.length - connection.bytesSent := by
    have := congrArg List.length (flush_append connection.pending sends)
    simp only [ConnectionState.pending, List.length_append, List.length_drop] at this ⊢
    omega
  simp only [handleWritable, opened.entry]
  generalize flushed_eq : flush connection.pending sends = flushed at left_length ⊢
  have recorded := opened.record (flushed.chunks.map .accepted)
  have record_effect := opened.effect_record (flushed.chunks.map .accepted)
  have record_app := opened.app_record (flushed.chunks.map .accepted)
  cases ending : flushed.ending with
  | drained =>
      have written := recorded.setConnection
        { connection with outputBuffer := [], bytesSent := 0 } rfl
      refine ⟨rfl, (written.app_updateInterest false).trans record_app, ?_,
        by simp [ending], fun _ => ?_⟩
      · simpa using (record_effect.trans (effect_setConnection _ fd _ _)).trans
          (written.effect_updateInterest false)
      · refine ⟨_, _, written.updateInterest false, ⟨by simp, Or.inl ⟨rfl, rfl, rfl⟩⟩, ?_, rfl, rfl⟩
        rw [← flushed_eq] at ending ⊢
        rw [flush_left_of_drained ending]
        rfl
  | blocked =>
      have written := recorded.setConnection
        { connection with bytesSent := connection.bytesSent + flushed.chunks.flatten.length } rfl
      have left_eq : connection.outputBuffer.drop
          (connection.bytesSent + flushed.chunks.flatten.length) =
            flushed.left connection.pending := by
        rw [Flush.left, ConnectionState.pending, List.drop_drop]
      refine ⟨rfl, (written.app_updateInterest true).trans record_app, ?_,
        by simp [ending], fun _ => ?_⟩
      · simpa using (record_effect.trans (effect_setConnection _ fd _ _)).trans
          (written.effect_updateInterest true)
      · refine ⟨_, _, written.updateInterest true,
          ⟨by simp only; omega, Or.inr ⟨?_, rfl⟩⟩, left_eq, rfl, rfl⟩
        simp only [ConnectionState.pending] at left_eq ⊢
        rw [left_eq]
        rw [← flushed_eq] at ending ⊢
        exact flush_left_of_blocked ending
  | failed =>
      have written := recorded.setConnection
        { connection with bytesSent := connection.bytesSent + flushed.chunks.flatten.length } rfl
      refine ⟨rfl, written.app_close.trans record_app, ?_, fun _ => written.gone_close,
        by simp [ending]⟩
      simpa using
        (record_effect.trans (effect_setConnection _ fd _ _)).trans (written.effect_close _)

/-- `Send` on an open connection: the frame follows the bytes still pending. -/
theorem send_spec {App : Type} {server : Server App} {fd : Fd}
    {connection : ConnectionState} {events : Events} (opened : Open server fd connection events)
    (within : connection.bytesSent ≤ connection.outputBuffer.length) (frame : Bytes)
    (sends : List SendResult) :
    (send server fd frame sends).2 = (flush (connection.pending ++ frame) sends).sends ∧
      Wrote fd connection
        (.submitted frame :: (flush (connection.pending ++ frame) sends).chunks.map .accepted)
        (connection.pending ++ frame) (flush (connection.pending ++ frame) sends) server
        (send server fd frame sends).1 := by
  have appended := opened.setConnection
    { connection with outputBuffer := connection.outputBuffer ++ frame } rfl
  have recorded := appended.record [.submitted frame]
  have wanted := recorded.updateInterest true
  have effect := ((effect_setConnection server fd connection.incarnation _).trans
    (appended.effect_record [.submitted frame])).trans (recorded.effect_updateInterest true)
  have app := (recorded.app_updateInterest true).trans (appended.app_record [.submitted frame])
  have pending_eq : ({ connection with outputBuffer := connection.outputBuffer ++ frame } :
      ConnectionState).pending = connection.pending ++ frame := by
    simp only [ConnectionState.pending]
    exact List.drop_append_of_le_length within
  have written := handleWritable_spec wanted (by simp only [List.length_append]; omega) sends
  rw [pending_eq] at written
  simp only [send, opened.entry]
  obtain ⟨rest, wrote⟩ := written
  exact ⟨rest, wrote.app.trans app, by simpa using effect.trans wrote.effect, wrote.gone,
    wrote.stays⟩

end ConnectionManager

end Hxrpc
