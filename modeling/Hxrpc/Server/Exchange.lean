import Hxrpc.Server.Runs

/-!
# One request on a connection

A stretch of a run in which a connection without open business reads one more frame.  Whatever the
event loop does on other descriptors in between, and however the bytes are cut, the connection stays
open, and when nothing is left to send the kernel has taken exactly the answer to the frame.
-/

namespace Hxrpc

open StreamCut ConnectionManager Reactor

/-- The event that the next move of the loop handles. -/
def Loop.next {App : Type} (loop : Loop App) : Option Event :=
  match loop.current, loop.batch with
  | some (event, _), _ => some event
  | none, event :: _ => some event
  | none, [] => none

/-- A move in which nothing fails on the connection, and which reads from it only what continues its
input up to `stream`. -/
def Delivers {App : Type} (fd : Fd) (incarnation : Nat) (stream : Bytes) (loop : Loop App)
    (script : Script) : Prop :=
  ∀ event, loop.next = some event → event.fd = fd →
    event.events.epollerr = false ∧ event.events.epollhup = false ∧
      ¬ EndsStream script.recvs ∧ NoFailure script.sends ∧
      (loop.server.journal incarnation).received ++ arrived script.recvs <+: stream

section Moves

variable {App : Type} {holds : App → Prop} {respond : Bytes → Bytes} {handler : FrameHandler App}
  {fd : Fd} {incarnation : Nat} {stream : Bytes}

/-- What one move of the loop does to the server: nothing, or one callback of the next event. -/
theorem server_of_turn {script : Script} {loop next : Loop App}
    (returned : turn handler script loop = .ok next) :
    next.server = loop.server ∨ ∃ event entry, loop.next = some event ∧
      loop.server.handlers event.fd = some entry ∧
      ((event.events.epollerr || event.events.epollhup) = true ∧
          invokeIfSet handler loop.server event.fd script entry.onError = .ok next.server ∨
        invokeIfSet handler loop.server event.fd script entry.onReadable = .ok next.server ∨
        invokeIfSet handler loop.server event.fd script entry.onWritable = .ok next.server) := by
  cases turned_of_turn returned with
  | rest server => exact Or.inl rfl
  | skip gone => exact Or.inl rfl
  | error found failing called => exact Or.inr ⟨_, _, rfl, found, Or.inl ⟨failing, called⟩⟩
  | read found quiet called =>
      rcases called with ⟨-, called⟩ | ⟨-, rfl⟩
      · exact Or.inr ⟨_, _, rfl, found, Or.inr (Or.inl called)⟩
      · exact Or.inl rfl
  | write writable found same called =>
      exact Or.inr ⟨_, _, rfl, found, Or.inr (Or.inr called)⟩
  | pass unwritable => exact Or.inl rfl

/-- The connection is open and has read a part of `stream`. -/
structure Underway (fd : Fd) (incarnation : Nat) (stream : Bytes) (server : Server App) : Prop where
  descriptor : server.descriptors fd = some (.connection incarnation)
  received : (server.journal incarnation).received <+: stream

/-- The entry behind a descriptor. -/
theorem Consistent.entry {server : Server App} (consistent : Consistent holds respond server)
    (descriptor : server.descriptors fd = some (.connection incarnation)) :
    ∃ connection, server.connections fd = some connection ∧
      connection.incarnation = incarnation := by
  cases consistent.slots fd with
  | vacant gone unused => simp [gone.descriptor] at descriptor
  | listener listening => simp [listening.descriptor] at descriptor
  | connection connection events opened tidy live numbered valid =>
      refine ⟨connection, opened.entry, ?_⟩
      simpa [opened.descriptor] using descriptor

/-- A callback on another descriptor leaves the connection alone. -/
theorem Underway.other {server after : Server App} (consistent : Consistent holds respond server)
    (underway : Underway fd incarnation stream server) {other : Fd} (ne : other ≠ fd)
    (moved : Moved holds respond other server after) : Underway fd incarnation stream after where
  descriptor := by
    rw [moved.others fd ne.symm (by simp [underway.descriptor]), underway.descriptor]
  received := by
    have apart : server.descriptors other ≠ some (.connection incarnation) := by
      intro clash
      obtain ⟨first, first_entry, first_eq⟩ := consistent.entry clash
      obtain ⟨second, second_entry, second_eq⟩ := consistent.entry underway.descriptor
      exact ne (consistent.distinct first_entry second_entry (first_eq.trans second_eq.symm))
    rw [moved.journals incarnation apart]
    exact underway.received

/-- A part of a stream that the grammar admits is admitted. -/
theorem not_rejected_of_begins {first whole : Bytes} (begins : first <+: whole)
    (admitted : (frameCutter.split whole).rejected = false) :
    (frameCutter.split first).rejected = false := by
  obtain ⟨tail, rfl⟩ := begins
  refine Bool.eq_false_iff.mpr fun rejected => ?_
  rw [frameCutter.split_append_of_rejected first tail rejected, rejected] at admitted
  cases admitted

/-- `on_readable` of the connection itself. -/
theorem Underway.readable {server after : Server App} {script : Script} {entry : Handler}
    (answers : Answers handler holds respond) (consistent : Consistent holds respond server)
    (underway : Underway fd incarnation stream server)
    (admitted : (frameCutter.split stream).rejected = false)
    (found : server.handlers fd = some entry) (goes_on : ¬ EndsStream script.recvs)
    (fine : NoFailure script.sends)
    (within : (server.journal incarnation).received ++ arrived script.recvs <+: stream)
    (called : invokeIfSet handler server fd script entry.onReadable = .ok after) :
    Underway fd incarnation stream after := by
  obtain ⟨connection, connection_entry, rfl⟩ := consistent.entry underway.descriptor
  obtain ⟨events, opened, tidy, live, -⟩ := consistent.opened connection_entry
  have no_fault : ¬ ReadFaults respond connection script.recvs script.sends := by
    simp [ReadFaults, repliesFail_of_noFailure _ _ fine]
  obtain ⟨result, rest, ok, moved, closed_iff⟩ :=
    (moved_handleReadable answers consistent connection_entry script.recvs script.sends).2 no_fault
  rw [onReadable_connection opened found, ok] at called
  obtain rfl := Except.ok.inj called
  have received_eq := received_handleReadable answers consistent connection_entry goes_on ok
  have stays : ¬ ReadCloses connection script.recvs := by
    have open_input := not_rejected_of_begins within admitted
    rw [frameCutter.split_append_of_open _ _ live.stays_open, ← live.residue] at open_input
    simp only [ReadCloses, not_or, ConnectionState.inputBuffer_receive]
    exact ⟨goes_on, by simpa using open_input⟩
  refine ⟨?_, received_eq ▸ within⟩
  rcases moved.own with closed | kept
  · exact absurd (closed_iff.mp closed) stays
  · rw [kept, underway.descriptor]

/-- `on_writable` of the connection itself. -/
theorem Underway.writable {server after : Server App} {script : Script} {entry : Handler}
    (consistent : Consistent holds respond server)
    (underway : Underway fd incarnation stream server)
    (found : server.handlers fd = some entry) (fine : NoFailure script.sends)
    (called : invokeIfSet handler server fd script entry.onWritable = .ok after) :
    Underway fd incarnation stream after := by
  obtain ⟨connection, connection_entry, rfl⟩ := consistent.entry underway.descriptor
  obtain ⟨events, opened, -⟩ := consistent.opened connection_entry
  obtain ⟨descriptor_eq, received_eq⟩ :=
    handleWritable_of_noFailure consistent connection_entry fine
  obtain rfl := Option.some.inj (opened.handler.symm.trans found)
  obtain rfl := Except.ok.inj called
  exact ⟨descriptor_eq.trans underway.descriptor, received_eq ▸ underway.received⟩

/-- One step of the loop. -/
theorem Underway.step (answers : Answers handler holds respond) {loop next : Loop App}
    (invariant : Invariant holds respond loop)
    (admitted : (frameCutter.split stream).rejected = false)
    (underway : Underway fd incarnation stream loop.server)
    (step : Step handler (Delivers fd incarnation stream) loop next) :
    Underway fd incarnation stream next.server := by
  cases step with
  | wait server reported => exact underway
  | turn script permitted moved =>
      have consistent := invariant.server
      rcases server_of_turn moved with same | ⟨event, entry, is_next, found, called⟩
      · exact same ▸ underway
      by_cases own : event.fd = fd
      · obtain ⟨no_error, no_hangup, goes_on, fine, within⟩ := permitted event is_next own
        rw [own] at found called
        rcases called with ⟨failing, -⟩ | called | called
        · simp [no_error, no_hangup] at failing
        · exact underway.readable answers consistent admitted found goes_on fine within called
        · exact underway.writable consistent found fine called
      · rcases called with ⟨-, called⟩ | called | called
        · exact underway.other consistent own (moved_onError consistent found called)
        · exact underway.other consistent own (moved_onReadable answers consistent found called)
        · exact underway.other consistent own (moved_onWritable consistent found called)

/-- A stretch of a run. -/
theorem Underway.steps (answers : Answers handler holds respond) {before after : Loop App}
    (invariant : Invariant holds respond before)
    (admitted : (frameCutter.split stream).rejected = false)
    (underway : Underway fd incarnation stream before.server)
    (steps : Relation.ReflTransGen (Step handler (Delivers fd incarnation stream)) before after) :
    Invariant holds respond after ∧ Underway fd incarnation stream after.server := by
  induction steps with
  | refl => exact ⟨invariant, underway⟩
  | tail _ step ih =>
      exact ⟨invariant_step answers ih.1 step, ih.2.step answers ih.1 admitted step⟩

end Moves

/-- A stretch of a run in which a connection without open business reads `frame`, however it is cut,
and which ends with nothing left to send after the kernel took `answer`. -/
structure Exchange {App : Type} (handler : FrameHandler App) (app : App)
    (frame answer : Bytes) where
  /-- The loop at the beginning. -/
  before : Loop App
  /-- The loop at the end. -/
  after : Loop App
  /-- The descriptor of the connection. -/
  fd : Fd
  /-- The connection at the beginning. -/
  idle : ConnectionState
  reachable : Reachable handler app before
  entry : before.server.connections fd = some idle
  no_input : idle.inputBuffer = []
  no_output : idle.outputBuffer = []
  steps : Relation.ReflTransGen (Step handler (Delivers fd idle.incarnation
    ((before.server.journal idle.incarnation).received ++ frame))) before after
  all_read : (after.server.journal idle.incarnation).received =
    (before.server.journal idle.incarnation).received ++ frame
  all_sent : ∀ connection, after.server.connections fd = some connection →
    connection.outputBuffer = []
  taken : (after.server.journal idle.incarnation).accepted =
    (before.server.journal idle.incarnation).accepted ++ answer

/-- The connection stays open, and what the kernel took is the answer to the frame. -/
theorem Exchange.answer_eq {App : Type} {handler : FrameHandler App} {app : App}
    {holds : App → Prop} {respond : Bytes → Bytes} {frame answer : Bytes}
    (exchange : Exchange handler app frame answer) (answers : Answers handler holds respond)
    (initial : holds app) (isFrame : IsFrame frame) :
    answer = respond frame ∧ ∃ connection,
      exchange.after.server.connections exchange.fd = some connection ∧
        connection.incarnation = exchange.idle.incarnation := by
  obtain ⟨before, after, fd, idle, reachable, entry, no_input, no_output, steps, all_read, all_sent,
    taken⟩ := exchange
  have invariant := invariant_of_runs answers initial reachable
  obtain ⟨events, opened, -, live, -⟩ := invariant.server.opened entry
  have split_eq := frameCutter.split_append_of_open
    (before.server.journal idle.incarnation).received frame live.stays_open
  rw [← live.residue, no_input, List.nil_append, frameCutter_split_frame isFrame] at split_eq
  have underway : Underway fd idle.incarnation
      ((before.server.journal idle.incarnation).received ++ frame) before.server :=
    ⟨opened.descriptor, List.prefix_append _ _⟩
  obtain ⟨after_invariant, after_underway⟩ :=
    underway.steps answers invariant (by rw [split_eq]) steps
  obtain ⟨connection, after_entry, same⟩ :=
    after_invariant.server.entry after_underway.descriptor
  obtain ⟨-, -, -, after_live, -⟩ := after_invariant.server.opened after_entry
  have accepted_eq := after_live.accepted_eq (all_sent connection after_entry)
  rw [same, all_read, split_eq, taken, live.accepted_eq no_output, List.flatMap_append,
    List.flatMap_singleton] at accepted_eq
  exact ⟨List.append_cancel_left accepted_eq, connection, after_entry, same⟩

end Hxrpc
